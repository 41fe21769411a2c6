import MailTriage.Proofs.Condition.Layouts

/-!
The parentheses of a text that is read are counted here. None is closed too early, and under an operator
all of them are closed, but a value, or what is passed over behind a property, may leave some open.
`parse_conjunction_iff` says this, and what becomes of such texts under an operator.
-/

namespace MailTriage.Condition

open Text

/-- Between the first character and the last one, more parentheses were opened than closed. -/
def StaysOpen (s : List Char) : Prop :=
  ∀ a b, s = a ++ b → a ≠ [] → b ≠ [] → a.count ')' < a.count '('

/-- A text in parentheses that belong together, in the count of parentheses. -/
structure Closed (s : List Char) : Prop where
  count_eq : s.count '(' = s.count ')'
  staysOpen : StaysOpen s

/-- A text in parentheses, of which some inside may be left open. -/
def Surrounded (s : List Char) (m : Nat) : Prop :=
  ∃ inner, s = '(' :: (inner ++ [')']) ∧ depthAfter? 0 inner = some m

variable {s t w rest inner : List Char} {c : Condition} {k : Keyword} {o : Operator} {d e m fuel : Nat}
  {texts : List (List Char)}

theorem count_of_depthAfter? (h : depthAfter? d s = some e) : d + s.count '(' = e + s.count ')' := by
  induction s generalizing d with
  | nil => simpa [depthAfter?] using h
  | cons c s ih =>
    by_cases ho : c = '('
    · simp only [depthAfter?, if_pos ho] at h
      have := ih h
      simp only [ho, List.count_cons_self, List.count_cons_of_ne (by decide : '(' ≠ ')')]
      omega
    by_cases hc : c = ')'
    · cases d with
      | zero => simp [depthAfter?, hc] at h
      | succ d =>
        simp only [depthAfter?, if_neg ho, if_pos hc] at h
        have := ih h
        simp only [hc, List.count_cons_self, List.count_cons_of_ne (by decide : ')' ≠ '(')]
        omega
    · simp only [depthAfter?, if_neg ho, if_neg hc] at h
      rw [List.count_cons_of_ne ho, List.count_cons_of_ne hc]
      exact ih h

theorem Surrounded.depth (h : Surrounded s m) (d : Nat) : depthAfter? d s = some (d + m) := by
  obtain ⟨inner, rfl, hi⟩ := h
  have hin : depthAfter? (d + 1) inner = some (m + (d + 1)) := by
    have := depthAfter?_add (d + 1) hi
    rwa [Nat.zero_add] at this
  rw [depthAfter?.eq_def]
  simp only [if_pos, depthAfter?_append, hin]
  rw [Nat.add_comm d m]
  rfl

theorem Surrounded.staysOpen (h : Surrounded s m) : StaysOpen s := by
  obtain ⟨inner, rfl, hi⟩ := h
  intro a b hab ha hb
  obtain ⟨x, a, rfl⟩ := List.exists_cons_of_ne_nil ha
  obtain ⟨b, y, rfl⟩ := List.eq_nil_or_concat b |>.resolve_left hb
  rw [List.concat_eq_append, List.cons_append, List.cons.injEq, ← List.append_assoc] at hab
  obtain ⟨rfl, hab⟩ := hab
  obtain ⟨rfl, -⟩ := List.append_inj' hab rfl
  -- What stands inside before `b` has a depth, as it closes none too many.
  rw [depthAfter?_append] at hi
  obtain ⟨e, he, -⟩ := Option.bind_eq_some_iff.1 hi
  have hcount := count_of_depthAfter? he
  rw [List.count_cons_self, List.count_cons_of_ne (by decide)]
  omega

theorem Surrounded.closed_iff (h : Surrounded s m) : Closed s ↔ m = 0 := by
  have hcount := count_of_depthAfter? (h.depth 0)
  constructor
  · intro hc
    have := hc.count_eq
    omega
  · rintro rfl
    exact ⟨by omega, h.staysOpen⟩

theorem Enclosed.closed (h : Enclosed s) : Closed s := by
  have hzero : Surrounded s 0 := h
  exact hzero.closed_iff.2 rfl

theorem Surrounded.enclosed (h : Surrounded s m) (hc : Closed s) : Enclosed s := by
  obtain rfl := h.closed_iff.1 hc
  exact h

theorem surrounded_of_readWith (h : readWith fuel s = .ok c) : ∃ m, Surrounded (trim s) m := by
  cases fuel with
  | zero => simp [readWith] at h
  | succ fuel =>
    obtain ⟨inner, k, hu, -⟩ := exists_of_readWith h
    obtain ⟨hs, hd⟩ := unwrap_eq_ok_iff.1 hu
    obtain ⟨m, hm⟩ := Option.isSome_iff_exists.1 hd
    exact ⟨m, inner, hs, hm⟩

theorem keyword_ne_of_readLeaf (h : readLeaf s k rest = .ok c) : c.keyword ≠ .operator o := by
  obtain ⟨f, p, -, -, rfl⟩ | ⟨p, -, -, -, rfl⟩ | ⟨t, p, -, -, -, rfl⟩ | ⟨f, -, rfl⟩ :=
    cases_of_readLeaf h <;>
  simp [keyword]

theorem enclosed_of_operator (h : readWith fuel s = .ok c) (hk : c.keyword = .operator o) :
    Enclosed (trim s) := by
  cases fuel with
  | zero => simp [readWith] at h
  | succ fuel =>
    obtain ⟨inner, k, hu, hread⟩ := exists_of_readWith h
    obtain ⟨hs, -⟩ := unwrap_eq_ok_iff.1 hu
    obtain ⟨o, pieces, cs, -, hp, -⟩ | hleaf := hread
    · have hb := (split_eq_ok_iff.1 hp).balanced
      rw [Balanced, depthAfter?_splitKeyword] at hb
      exact ⟨inner, hs, hb⟩
    · exact absurd hk (keyword_ne_of_readLeaf hleaf)

theorem Spaced.blank_append {pieces : List (List Char)} (hw : Blank w) (h : Spaced pieces s) :
    Spaced pieces (w ++ s) := by
  induction w with
  | nil => exact h
  | cons x w ih =>
    rw [Blank, List.forall_mem_cons] at hw
    exact (ih hw.2).blank_cons hw.1

theorem spaced_flatten (h : ∀ t ∈ texts, Enclosed (trim t)) : Spaced (texts.map trim) texts.flatten := by
  induction texts with
  | nil => exact .nil blank_nil
  | cons t texts ih =>
    rw [List.forall_mem_cons] at h
    obtain ⟨w, w', hw, hw', ht⟩ := exists_blank_append_trim t
    have hrow := Spaced.cons hw h.1 ((ih h.2).blank_append hw')
    rwa [← List.append_assoc, ← ht] at hrow

theorem depthAfter?_flatten (h : ∀ t ∈ texts, ∃ m, Surrounded (trim t) m) (d : Nat) :
    (depthAfter? d texts.flatten).isSome := by
  induction texts generalizing d with
  | nil => rfl
  | cons t texts ih =>
    rw [List.forall_mem_cons] at h
    obtain ⟨m, hm⟩ := h.1
    rw [List.flatten_cons, depthAfter?_append, ← depthAfter?_trim, hm.depth d]
    exact ih h.2 (d + m)

/-- Where nothing closes the expression that is being read, the row of them has no end. -/
theorem splitFrom_of_isSome (h : (depthAfter? d s).isSome) (piece : List Char) :
    splitFrom (d + 1) piece s = .error .unclosed := by
  obtain ⟨e, he⟩ := Option.isSome_iff_exists.1 h
  have hsplit := splitFrom_append he piece []
  rw [List.append_nil] at hsplit
  rw [hsplit, splitFrom, if_neg (by omega)]

theorem splitFrom_of_enclosed (h : Enclosed (trim t)) (rest : List Char) :
    splitFrom 0 [] (t ++ rest) = (splitFrom 0 [] rest).map (trim t :: ·) := by
  obtain ⟨w, w', hw, hw', ht⟩ := exists_blank_append_trim t
  obtain ⟨inner, hs, hi⟩ := h
  conv_lhs => rw [ht]
  rw [List.append_assoc, List.append_assoc, splitFrom_blank_append hw, hs, splitFrom_enclosed hi,
    splitFrom_blank_append hw']

theorem splitFrom_of_left_open (h : Surrounded (trim t) (m + 1)) (hrest : (depthAfter? m rest).isSome) :
    splitFrom 0 [] (t ++ rest) = .error .unclosed := by
  obtain ⟨w, w', hw, hw', ht⟩ := exists_blank_append_trim t
  obtain ⟨inner, hs, hi⟩ := h
  have hdepth : (depthAfter? 0 (inner ++ ')' :: (w' ++ rest))).isSome := by
    rw [depthAfter?_append, hi]
    rwa [← depthAfter?_blank_append m hw'] at hrest
  have hassoc : t ++ rest = w ++ ('(' :: (inner ++ ')' :: (w' ++ rest))) := by
    conv_lhs => rw [ht, hs]
    simp
  rw [hassoc, splitFrom_blank_append hw, splitFrom, if_pos rfl]
  exact splitFrom_of_isSome hdepth _

/-- The first text that leaves a parenthesis open takes all that follow in. -/
theorem split_flatten_of_unclosed (h : ∀ t ∈ texts, ∃ m, Surrounded (trim t) m)
    (hopen : ∃ t ∈ texts, ¬ Enclosed (trim t)) : split texts.flatten = .error .unclosed := by
  induction texts with
  | nil => simp at hopen
  | cons t texts ih =>
    rw [List.forall_mem_cons] at h
    rw [split, List.flatten_cons]
    by_cases hclosed : Enclosed (trim t)
    · have hopen' : ∃ t ∈ texts, ¬ Enclosed (trim t) := by simpa [hclosed] using hopen
      have hrest := ih h.2 hopen'
      rw [split] at hrest
      rw [splitFrom_of_enclosed hclosed, hrest]
      rfl
    · obtain ⟨m, hm⟩ := h.1
      obtain ⟨m, rfl⟩ : ∃ n, m = n + 1 := by
        apply Nat.exists_eq_succ_of_ne_zero
        rintro rfl
        exact hclosed hm
      exact splitFrom_of_left_open hm (depthAfter?_flatten h.2 m)

theorem splitFrom_of_append_blank (hw : Blank w) {piece : List Char}
    (h : splitFrom d piece (s ++ w) = .error .unclosed) : splitFrom d piece s = .error .unclosed := by
  induction s generalizing d piece with
  | nil =>
    by_cases hd : d = 0
    · have hw := splitFrom_blank_append hw piece []
      rw [List.nil_append, hd] at h
      rw [List.append_nil, h] at hw
      simp [splitFrom] at hw
    · rw [splitFrom, if_neg hd]
  | cons x s ih =>
    rw [List.cons_append, splitFrom] at h
    rw [splitFrom]
    split_ifs at h ⊢ with ho hd hb hc hone
    · exact ih h
    · exact ih h
    · simp at h
    · cases hrest : splitFrom 0 [] (s ++ w) with
      | error e =>
        obtain rfl : e = .unclosed := by simpa [hrest, bind, Except.bind] using h
        rw [ih hrest]
        rfl
      | ok pieces => simp [hrest, bind, Except.bind, pure, Except.pure] at h
    · exact ih h
    · exact ih h

theorem split_trim_of_unclosed (h : split s = .error .unclosed) : split (trim s) = .error .unclosed := by
  obtain ⟨w, w', hw, hw', hs⟩ := exists_blank_append_trim s
  rw [hs, List.append_assoc, split, splitFrom_blank_append hw] at h
  exact splitFrom_of_append_blank hw' h

def conjunction (ts : List String) : String :=
  "(and " ++ String.join ts ++ ")"

variable {ts : List String} {cs : List Condition}

theorem toList_conjunction (ts : List String) :
    (conjunction ts).toList =
      '(' :: ([] ++ "and".toList ++ (' ' :: (ts.map String.toList).flatten) ++ [')']) := by
  simp [conjunction, List.flatMap]

theorem layout_conjunction (h : ∀ t ∈ ts, ∃ m, Surrounded (trim t.toList) m) :
    Layout (conjunction ts).toList [] "and".toList (' ' :: (ts.map String.toList).flatten)
      (.operator .all) := by
  obtain ⟨hne, hupper⟩ := (Keyword.operator .all).upper_name
  have hword : "and".toList ≠ [] ∧ ∀ x ∈ "and".toList, isKeywordChar x := word_of_upper_eq rfl hne hupper
  refine ⟨?_, blank_nil, hword.1, hword.2, named?_keyword (.operator .all), ?_, ?_⟩
  · rw [toList_conjunction, trim_enclosed]
  · intro x hx
    obtain rfl : ' ' = x := by simpa using hx
    exact fun hk => not_isBlank_of_isKeywordChar hk (blank_space ' ' (List.mem_singleton_self _))
  · exact depthAfter?_flatten (by simpa using h) 0

theorem surrounded_of_forall₂ (h : List.Forall₂ (fun t c => parse t = .ok c) ts cs) :
    ∀ t ∈ ts, ∃ m, Surrounded (trim t.toList) m := by
  induction h with
  | nil => simp
  | cons hc _ ih => exact List.forall_mem_cons.2 ⟨surrounded_of_readWith hc, ih⟩

theorem length_lt_conjunction {t : String} (ht : t ∈ ts) :
    t.toList.length < (conjunction ts).toList.length := by
  have hmem : t.toList ∈ ts.map String.toList := List.mem_map_of_mem ht
  have hle := (List.sublist_flatten_of_mem hmem).length_le
  rw [toList_conjunction]
  simp only [List.length_cons, List.length_append]
  omega

theorem parse_conjunction_of_closed (h : List.Forall₂ (fun t c => parse t = .ok c) ts cs)
    (hclosed : ∀ t ∈ ts, Closed (trim t.toList)) : parse (conjunction ts) = .ok (.all cs) := by
  have hsurrounded := surrounded_of_forall₂ h
  have henclosed : ∀ t ∈ ts.map String.toList, Enclosed (trim t) := by
    rw [List.forall_mem_map]
    intro t ht
    obtain ⟨m, hm⟩ := hsurrounded t ht
    exact hm.enclosed (hclosed t ht)
  have hrow := (spaced_flatten henclosed).blank_append blank_space
  have hread : List.Forall₂ (fun p c => readWith (conjunction ts).toList.length p = .ok c)
      ((ts.map String.toList).map trim) cs := by
    rw [List.forall₂_map_left_iff, List.forall₂_map_left_iff]
    have hlength := (List.forall₂_and_left ts cs).2 ⟨fun t ht => length_lt_conjunction ht, h⟩
    exact hlength.imp fun t c htc => readWith_mono htc.2 (trim_trim _) htc.1
  exact readWith_operator (layout_conjunction hsurrounded) (split_of_spaced hrow.trim) hread

theorem parse_conjunction_of_not_closed (h : List.Forall₂ (fun t c => parse t = .ok c) ts cs)
    (hopen : ∃ t ∈ ts, ¬ Closed (trim t.toList)) :
    parse (conjunction ts) = .error (.unclosed (conjunction ts)) := by
  have hsurrounded := surrounded_of_forall₂ h
  have hopen' : ∃ t ∈ ts.map String.toList, ¬ Enclosed (trim t) := by
    obtain ⟨t, ht, hnot⟩ := hopen
    exact ⟨t.toList, List.mem_map_of_mem ht, fun henclosed => hnot henclosed.closed⟩
  have hsplit := split_flatten_of_unclosed (by simpa using hsurrounded) hopen'
  have hrow : split (' ' :: (ts.map String.toList).flatten) = .error .unclosed := by
    rw [split] at hsplit
    rw [split, splitFrom, if_neg (by decide), if_pos rfl, if_pos (by decide), hsplit]
  have hlayout := layout_conjunction hsurrounded
  have hread : parse (conjunction ts) = _ := readWith_of_unclosed hlayout (split_trim_of_unclosed hrow)
  have htrim : trim (conjunction ts).toList = (conjunction ts).toList := by
    rw [hlayout.trim_eq, toList_conjunction]
  rwa [htrim, String.ofList_toList] at hread

/-- Texts that are read close no parenthesis too early, and operators close all of theirs. They can stand
under an operator just if each of them closes all of its parentheses. -/
theorem parse_conjunction_iff (h : List.Forall₂ (fun t c => parse t = .ok c) ts cs) :
    List.Forall₂ (fun t c => StaysOpen (trim t.toList) ∧
      ∀ o, c.keyword = .operator o → Closed (trim t.toList)) ts cs ∧
    (parse (conjunction ts) = .ok (.all cs) ↔ ∀ t ∈ ts, Closed (trim t.toList)) ∧
    (parse (conjunction ts) ≠ .ok (.all cs) →
      parse (conjunction ts) = .error (.unclosed (conjunction ts))) := by
  have heach : List.Forall₂ (fun t c => StaysOpen (trim t.toList) ∧
      ∀ o, c.keyword = .operator o → Closed (trim t.toList)) ts cs := by
    apply h.imp
    intro t c htc
    obtain ⟨m, hm⟩ := surrounded_of_readWith htc
    exact ⟨hm.staysOpen, fun o ho => (enclosed_of_operator htc ho).closed⟩
  refine ⟨heach, ?_⟩
  by_cases hclosed : ∀ t ∈ ts, Closed (trim t.toList)
  · have hok := parse_conjunction_of_closed h hclosed
    exact ⟨iff_of_true hok hclosed, fun hne => absurd hok hne⟩
  · have herror := parse_conjunction_of_not_closed h (by simpa using hclosed)
    refine ⟨iff_of_false ?_ hclosed, fun _ => herror⟩
    simp [herror]

theorem exists_of_isSome {t : String} (h : (parse t).toOption.isSome) : ∃ c, parse t = .ok c := by
  cases hp : parse t with
  | error e => simp [hp, Except.toOption] at h
  | ok c => exact ⟨c, rfl⟩

/-- An operator and a value, with white space around them. -/
theorem parse_conjunction_of_two :
    ∃ cs, List.Forall₂ (fun t c => parse t = .ok c) ["\t(not (body a))", "(subject b (c)) "] cs ∧
      parse "(and \t(not (body a))(subject b (c)) )" = .ok (.all cs) := by
  obtain ⟨c, hc⟩ := exists_of_isSome (t := "\t(not (body a))") (by decide +kernel)
  obtain ⟨d, hd⟩ := exists_of_isSome (t := "(subject b (c)) ") (by decide +kernel)
  have h : List.Forall₂ (fun t c => parse t = .ok c) ["\t(not (body a))", "(subject b (c)) "] [c, d] :=
    .cons hc (.cons hd .nil)
  have hclosed : ∀ t ∈ ["\t(not (body a))", "(subject b (c)) "], Closed (trim t.toList) := by
    intro t ht
    apply Enclosed.closed
    rcases List.mem_pair.1 ht with rfl | rfl
    · exact ⟨"not (body a)".toList, by decide, by decide⟩
    · exact ⟨"subject b (c)".toList, by decide, by decide⟩
  exact ⟨[c, d], h, (parse_conjunction_iff h).2.1.2 hclosed⟩

/-- A value may leave a parenthesis open, and the text cannot stand under an operator then. -/
theorem parse_of_left_open :
    (∃ c, parse "(subject a(b)" = .ok c) ∧
      (trim "(subject a(b)".toList).count '(' ≠ (trim "(subject a(b)".toList).count ')' ∧
      ∀ c, parse ("(and " ++ String.join ["(subject a(b)"] ++ ")") ≠ .ok c := by
  have hand : ¬ (parse ("(and " ++ String.join ["(subject a(b)"] ++ ")")).toOption.isSome := by
    decide +kernel
  refine ⟨exists_of_isSome (by decide +kernel), by decide, fun c hc => hand ?_⟩
  rw [hc]
  rfl

end MailTriage.Condition
