import MailTriage.Proofs.Condition.Parentheses
import MailTriage.Proofs.Except

namespace MailTriage.Condition

open Text

variable {s w kw rest inner value : List Char} {c : Condition} {fuel : Nat}

theorem takeWhile_append_of_head {p : Char → Bool} (hk : ∀ c ∈ kw, p c) (hr : ∀ c ∈ rest.head?, ¬ p c) :
    (kw ++ rest).takeWhile p = kw ∧ (kw ++ rest).dropWhile p = rest := by
  rw [List.takeWhile_append_of_pos hk, List.dropWhile_append_of_pos hk]
  cases rest with
  | nil => simp
  | cons c rest =>
    have hc : ¬ p c := hr c (by simp)
    simp [hc]

theorem not_isBlank_of_isKeywordChar {x : Char} (h : isKeywordChar x) : ¬ isBlank x := by
  simp only [isKeywordChar, Bool.and_eq_true, Bool.not_eq_true'] at h
  simp [h.1.1]

theorem ne_paren_of_isKeywordChar {x : Char} (h : isKeywordChar x) : x ≠ '(' ∧ x ≠ ')' := by
  simp only [isKeywordChar, Bool.and_eq_true, bne_iff_ne] at h
  exact ⟨h.1.2, h.2⟩

theorem splitKeyword_append (hw : Blank w) (hne : kw ≠ []) (hk : ∀ c ∈ kw, isKeywordChar c)
    (hr : ∀ c ∈ rest.head?, ¬ isKeywordChar c) :
    splitKeyword (w ++ kw ++ rest) = (upper kw, trim rest) := by
  have hleft : trimLeft (w ++ kw ++ rest) = kw ++ rest := by
    rw [List.append_assoc, trimLeft_append hw, trimLeft_eq_self_iff]
    obtain ⟨x, kw, rfl⟩ := List.exists_cons_of_ne_nil hne
    simpa using not_isBlank_of_isKeywordChar (hk x List.mem_cons_self)
  obtain ⟨ht, hd⟩ := takeWhile_append_of_head hk hr
  rw [splitKeyword, hleft, ht, hd]

theorem depthAfter?_splitKeyword (d : Nat) (inner : List Char) :
    depthAfter? d (splitKeyword inner).2 = depthAfter? d inner := by
  have hkw : depthAfter? d (trimLeft inner) =
      depthAfter? d ((trimLeft inner).dropWhile isKeywordChar) := by
    conv_lhs => rw [← List.takeWhile_append_dropWhile (p := isKeywordChar) (l := trimLeft inner)]
    exact depthAfter?_append_of_forall d fun c hc => ne_paren_of_isKeywordChar (List.mem_takeWhile_imp hc)
  have hw : depthAfter? d inner = depthAfter? d (trimLeft inner) := by
    conv_lhs => rw [← List.takeWhile_append_dropWhile (p := isBlank) (l := inner)]
    exact depthAfter?_blank_append d fun c hc => List.mem_takeWhile_imp hc
  rw [splitKeyword, depthAfter?_trim, ← hkw, ← hw]

theorem trim_splitKeyword (inner : List Char) : trim (splitKeyword inner).2 = (splitKeyword inner).2 :=
  trim_trim _

theorem named?_keyword (k : Keyword) : named? Keyword.name Keyword.every (upper k.name.toList) = some k := by
  rcases k with o | f | _ | _
  · cases o <;> decide
  · cases f <;> decide
  · decide
  · decide

theorem named?_property (p : Property) :
    named? Property.name Property.every (upper p.name.toList) = some p := by
  rcases p with t | f
  · cases t <;> decide
  · cases f <;> decide

theorem splitWord_append (hw : Blank w) (hne : kw ≠ []) (hk : ∀ c ∈ kw, ¬ isBlank c)
    (hr : ∀ c ∈ rest.head?, isBlank c) : splitWord (w ++ kw ++ rest) = (kw, trim rest) := by
  have hleft : trimLeft (w ++ kw ++ rest) = kw ++ rest := by
    rw [List.append_assoc, trimLeft_append hw, trimLeft_eq_self_iff]
    obtain ⟨x, kw, rfl⟩ := List.exists_cons_of_ne_nil hne
    simpa using hk x List.mem_cons_self
  obtain ⟨ht, hd⟩ := takeWhile_append_of_head (p := (!isBlank ·)) (by simpa using hk) (by simpa using hr)
  rw [splitWord, hleft, ht, hd]

/-- A pattern as reading makes it: of a text that is trimmed and not empty. -/
structure Read (isAddress : Bool) (p : Pattern) : Prop where
  ofText_eq : Pattern.ofText isAddress p.source = .ok p
  ne_nil : p.source.toList ≠ []
  trim_eq : trim p.source.toList = p.source.toList

variable {isAddress : Bool} {p : Pattern}

theorem source_of_ofText {source : String} (h : Pattern.ofText isAddress source = .ok p) :
    p.source = source := by
  cases hc : Pattern.compile isAddress source with
  | error e => simp [Pattern.ofText, hc, bind, Except.bind] at h
  | ok r =>
    obtain rfl : ⟨source, r⟩ = p := by
      simpa [Pattern.ofText, hc, bind, Except.bind, pure, Except.pure] using h
    rfl

theorem read_of_readPattern (hv : trim value = value) (h : readPattern isAddress value s = .ok p) :
    Read isAddress p ∧ p.source.toList = value := by
  by_cases hne : value = []
  · simp [readPattern, hne] at h
  · cases ho : Pattern.ofText isAddress (String.ofList value) with
    | error e => simp [readPattern, hne, ho] at h
    | ok q =>
      obtain rfl : q = p := by simpa [readPattern, hne, ho] using h
      have hsource := source_of_ofText ho
      have hlist : q.source.toList = value := by rw [hsource, String.toList_ofList]
      exact ⟨⟨hsource ▸ ho, hlist ▸ hne, hlist ▸ hv⟩, hlist⟩

theorem Read.readPattern_eq (h : Read isAddress p) (s : List Char) :
    readPattern isAddress p.source.toList s = .ok p := by
  simp [readPattern, h.ne_nil, h.ofText_eq]

variable {k : Keyword} {o : Operator} {pieces : List (List Char)} {cs : List Condition}

/-- The keyword `kw`, in any letter case, stands for `k`, and `s` without the white space around it is
the expression in which it stands before `rest`. -/
structure Layout (s w kw rest : List Char) (k : Keyword) : Prop where
  trim_eq : trim s = '(' :: (w ++ kw ++ rest ++ [')'])
  blank : Blank w
  ne_nil : kw ≠ []
  keyword : ∀ c ∈ kw, isKeywordChar c
  named : named? Keyword.name Keyword.every (upper kw) = some k
  boundary : ∀ c ∈ rest.head?, ¬ isKeywordChar c
  depth : (depthAfter? 0 rest).isSome

theorem Layout.unwrap_eq (h : Layout s w kw rest k) : unwrap (trim s) = .ok (w ++ kw ++ rest) := by
  rw [unwrap_eq_ok_iff]
  refine ⟨h.trim_eq, ?_⟩
  rw [List.append_assoc, depthAfter?_blank_append 0 h.blank,
    depthAfter?_append_of_forall 0 fun c hc => ne_paren_of_isKeywordChar (h.keyword c hc)]
  exact h.depth

theorem readWith_operator (h : Layout s w kw rest (.operator o)) (hp : split (trim rest) = .ok pieces)
    (hcs : List.Forall₂ (fun p c => readWith fuel p = .ok c) pieces cs) :
    readWith (fuel + 1) s = combine o (upper kw) (trim rest) cs := by
  rw [readWith, h.unwrap_eq]
  simp only [splitKeyword_append h.blank h.ne_nil h.keyword h.boundary, h.named, hp,
    mapM_eq_ok_iff.2 hcs, bind, Except.bind]

theorem readWith_leaf (h : Layout s w kw rest k) (hk : ∀ o, k ≠ .operator o) :
    readWith (fuel + 1) s = readLeaf (trim s) k (trim rest) := by
  rw [readWith, h.unwrap_eq]
  simp only [splitKeyword_append h.blank h.ne_nil h.keyword h.boundary, h.named]

theorem readWith_of_unclosed (h : Layout s w kw rest (.operator o))
    (hp : split (trim rest) = .error .unclosed) :
    readWith (fuel + 1) s = .error (.unclosed (String.ofList (trim s))) := by
  rw [readWith, h.unwrap_eq]
  simp only [splitKeyword_append h.blank h.ne_nil h.keyword h.boundary, h.named, hp]

/-- An expression that is read has a keyword, and behind it other expressions or a value. -/
theorem readWith_eq_ok_iff :
    readWith (fuel + 1) s = .ok c ↔
      ∃ inner k, unwrap (trim s) = .ok inner ∧
        named? Keyword.name Keyword.every (splitKeyword inner).1 = some k ∧
        ((∃ o pieces cs, k = .operator o ∧ split (splitKeyword inner).2 = .ok pieces ∧
            List.Forall₂ (fun p c => readWith fuel p = .ok c) pieces cs ∧
            combine o (splitKeyword inner).1 (splitKeyword inner).2 cs = .ok c) ∨
          readLeaf (trim s) k (splitKeyword inner).2 = .ok c) := by
  constructor
  · intro h
    rw [readWith] at h
    cases hu : unwrap (trim s) with
    | error e => simp [hu] at h
    | ok inner =>
      simp only [hu] at h
      cases hk : named? Keyword.name Keyword.every (splitKeyword inner).1 with
      | none => simp [hk] at h
      | some k =>
        refine ⟨inner, k, rfl, hk, ?_⟩
        simp only [hk] at h
        cases k with
        | operator o =>
          left
          cases hp : split (splitKeyword inner).2 with
          | error e => cases e <;> simp [hp] at h
          | ok pieces =>
            simp only [hp] at h
            cases hcs : pieces.mapM (readWith fuel) with
            | error e => simp [hcs, bind, Except.bind] at h
            | ok cs =>
              simp only [hcs, bind, Except.bind] at h
              exact ⟨o, pieces, cs, rfl, rfl, mapM_eq_ok_iff.1 hcs, h⟩
        | field _ => exact .inr h
        | header => exact .inr h
        | thread => exact .inr h
  · rintro ⟨inner, k, hu, hk, ⟨o, pieces, cs, rfl, hp, hcs, hc⟩ | hleaf⟩
    · simp only [readWith, hu, hk, hp, mapM_eq_ok_iff.2 hcs, bind, Except.bind, hc]
    · cases k with
      | operator o => simp [readLeaf] at hleaf
      | field _ => simp only [readWith, hu, hk, hleaf]
      | header => simp only [readWith, hu, hk, hleaf]
      | thread => simp only [readWith, hu, hk, hleaf]

theorem exists_of_readWith (h : readWith (fuel + 1) s = .ok c) :
    ∃ inner k, unwrap (trim s) = .ok inner ∧
      ((∃ o pieces cs, k = .operator o ∧ split (splitKeyword inner).2 = .ok pieces ∧
          List.Forall₂ (fun p c => readWith fuel p = .ok c) pieces cs ∧
          combine o (splitKeyword inner).1 (splitKeyword inner).2 cs = .ok c) ∨
        readLeaf (trim s) k (splitKeyword inner).2 = .ok c) := by
  obtain ⟨inner, k, hu, -, hread⟩ := readWith_eq_ok_iff.1 h
  exact ⟨inner, k, hu, hread⟩

/-- What can be read as a value: a pattern, a word and a pattern behind it, or a word alone. -/
theorem cases_of_readLeaf (h : readLeaf s k rest = .ok c) :
    (∃ f p, k = .field f ∧ readPattern f.isAddress rest s = .ok p ∧ c = .field f p) ∨
      (∃ p, k = .header ∧ (splitWord rest).1 ≠ [] ∧ readPattern true (splitWord rest).2 s = .ok p ∧
        c = .header (String.ofList (splitWord rest).1) p) ∨
      (∃ t p, k = .thread ∧
        named? Property.name Property.every (upper (splitWord rest).1) = some (.text t) ∧
        readPattern t.isAddress (splitWord rest).2 s = .ok p ∧ c = .threadText t p) ∨
      ∃ f, k = .thread ∧ c = .threadFlag f := by
  cases k with
  | operator o => simp [readLeaf] at h
  | field f =>
    cases hp : readPattern f.isAddress rest s with
    | error e => simp [readLeaf, hp, bind, Except.bind] at h
    | ok p =>
      have hc : field f p = c := by simpa [readLeaf, hp, bind, Except.bind, pure, Except.pure] using h
      exact .inl ⟨f, p, rfl, hp, hc.symm⟩
  | header =>
    simp only [readLeaf] at h
    by_cases hne : (splitWord rest).1 = []
    · simp [hne] at h
    · simp only [List.isEmpty_iff, hne, if_false] at h
      cases hp : readPattern true (splitWord rest).2 s with
      | error e => simp [hp, bind, Except.bind] at h
      | ok p =>
        have hc : header (String.ofList (splitWord rest).1) p = c := by
          simpa [hp, bind, Except.bind, pure, Except.pure] using h
        exact .inr (.inl ⟨p, rfl, hne, rfl, hc.symm⟩)
  | thread =>
    simp only [readLeaf] at h
    cases hq : named? Property.name Property.every (upper (splitWord rest).1) with
    | none => simp [hq] at h
    | some q =>
      cases q with
      | flag f =>
        have hc : threadFlag f = c := by simpa [hq] using h
        exact .inr (.inr (.inr ⟨f, rfl, hc.symm⟩))
      | text t =>
        cases hp : readPattern t.isAddress (splitWord rest).2 s with
        | error e => simp [hq, hp, bind, Except.bind] at h
        | ok p =>
          have hc : threadText t p = c := by
            simpa [hq, hp, bind, Except.bind, pure, Except.pure] using h
          exact .inr (.inr (.inl ⟨t, p, rfl, rfl, hp, hc.symm⟩))

/-- What is read is read again with more fuel, and whatever white space stands around it. -/
theorem readWith_mono {t : List Char} {n m : Nat} (h : readWith n s = .ok c) (ht : trim t = trim s)
    (hle : n ≤ m) : readWith m t = .ok c := by
  induction n generalizing s t c m with
  | zero => simp [readWith] at h
  | succ n ih =>
    obtain ⟨m, rfl⟩ := Nat.exists_eq_succ_of_ne_zero (Nat.ne_zero_of_lt hle)
    obtain ⟨inner, k, hu, hk, ⟨o, pieces, cs, ho, hp, hcs, hc⟩ | hleaf⟩ := readWith_eq_ok_iff.1 h
    · apply readWith_eq_ok_iff.2
      rw [ht]
      refine ⟨inner, k, hu, hk, .inl ⟨o, pieces, cs, ho, hp, ?_, hc⟩⟩
      exact hcs.imp fun p c hpc => ih hpc rfl (Nat.le_of_succ_le_succ hle)
    · apply readWith_eq_ok_iff.2
      rw [ht]
      exact ⟨inner, k, hu, hk, .inr hleaf⟩

end MailTriage.Condition
