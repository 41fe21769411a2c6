import MailTriage.Proofs.Condition.Reading

namespace MailTriage.Condition

open Text

def keyword : Condition → Keyword
  | all _ => .operator .all
  | any _ => .operator .any
  | not _ => .operator .not
  | field f _ => .field f
  | header _ _ => .header
  | threadText _ _ | threadFlag _ => .thread

/-- White space that may not be left out. -/
def Gap (w : List Char) : Prop :=
  Blank w ∧ w ≠ []

mutual

/-- The texts that write a condition out, from one parenthesis to the other. -/
inductive Rendering : Condition → List Char → Prop
  | enclosed {c : Condition} {w k s : List Char} (hw : Blank w)
      (hk : upper k = upper c.keyword.name.toList) (hs : Content c s) :
      Rendering c ('(' :: (w ++ k ++ s ++ [')']))

/-- The texts that may follow the keyword of a condition. -/
inductive Content : Condition → List Char → Prop
  | all {cs : List Condition} {s : List Char} (h : Row cs s) : Content (.all cs) s
  | any {cs : List Condition} {s : List Char} (h : Row cs s) : Content (.any cs) s
  | not {c : Condition} {s : List Char} (h : Row [c] s) : Content (.not c) s
  | field {f : Field} {p : Pattern} {u v : List Char} (h₁ : Gap u) (h₂ : Blank v) :
      Content (.field f p) (u ++ p.source.toList ++ v)
  | header {name : String} {p : Pattern} {u v w : List Char} (h₁ : Gap u) (h₂ : Gap v)
      (h₃ : Blank w) :
      Content (.header name p) (u ++ (name.toList ++ v ++ p.source.toList) ++ w)
  | threadText {t : ThreadText} {p : Pattern} {word u v w : List Char}
      (ht : upper word = upper t.name.toList) (h₁ : Gap u) (h₂ : Gap v) (h₃ : Blank w) :
      Content (.threadText t p) (u ++ (word ++ v ++ p.source.toList) ++ w)
  | threadFlag {f : ThreadFlag} {word u v : List Char} (hf : upper word = upper f.name.toList)
      (h₁ : Gap u) (h₂ : Blank v) : Content (.threadFlag f) (u ++ word ++ v)

inductive Row : List Condition → List Char → Prop
  | nil {w : List Char} (hw : Blank w) : Row [] w
  | cons {c : Condition} {cs : List Condition} {w p s : List Char} (hw : Blank w)
      (hc : Rendering c p) (hs : Row cs s) : Row (c :: cs) (w ++ p ++ s)

end

/-- Conditions that reading gives, with the number of parentheses that their values leave open: only the
outermost expression can leave any. -/
inductive Legible : Condition → Nat → Prop
  | all {cs : List Condition} (h : ∀ c ∈ cs, Legible c 0) : Legible (.all cs) 0
  | any {cs : List Condition} (h : ∀ c ∈ cs, Legible c 0) : Legible (.any cs) 0
  | not {c : Condition} (h : Legible c 0) : Legible (.not c) 0
  | field {f : Field} {p : Pattern} {n : Nat} (hp : Read f.isAddress p)
      (hd : depthAfter? 0 p.source.toList = some n) : Legible (.field f p) n
  | header {name : String} {p : Pattern} {n : Nat} (hne : name.toList ≠ [])
      (hb : ∀ x ∈ name.toList, ¬ isBlank x) (hp : Read true p)
      (hd : depthAfter? 0 (name.toList ++ p.source.toList) = some n) : Legible (.header name p) n
  | threadText {t : ThreadText} {p : Pattern} {n : Nat} (hp : Read t.isAddress p)
      (hd : depthAfter? 0 p.source.toList = some n) : Legible (.threadText t p) n
  | threadFlag {f : ThreadFlag} : Legible (.threadFlag f) 0

/-- Conditions that can be written out: patterns are made of texts that are trimmed and not empty, names
of headers are words, and parentheses are closed in each of them. -/
inductive WellFormed : Condition → Prop
  | all {cs : List Condition} (h : ∀ c ∈ cs, WellFormed c) : WellFormed (.all cs)
  | any {cs : List Condition} (h : ∀ c ∈ cs, WellFormed c) : WellFormed (.any cs)
  | not {c : Condition} (h : WellFormed c) : WellFormed (.not c)
  | field {f : Field} {p : Pattern} (hp : Read f.isAddress p) (hb : Balanced p.source.toList) :
      WellFormed (.field f p)
  | header {name : String} {p : Pattern} (hne : name.toList ≠ [])
      (hw : ∀ x ∈ name.toList, ¬ isBlank x) (hn : Balanced name.toList) (hp : Read true p)
      (hb : Balanced p.source.toList) : WellFormed (.header name p)
  | threadText {t : ThreadText} {p : Pattern} (hp : Read t.isAddress p)
      (hb : Balanced p.source.toList) : WellFormed (.threadText t p)
  | threadFlag {f : ThreadFlag} : WellFormed (.threadFlag f)

variable {c : Condition} {cs : List Condition} {s t w w' word name : List Char} {p : Pattern} {b : Bool}
  {n fuel : Nat}

theorem WellFormed.legible (h : WellFormed c) : Legible c 0 := by
  induction h with
  | all _ ih => exact .all ih
  | any _ ih => exact .any ih
  | not _ ih => exact .not ih
  | field hp hb => exact .field hp hb
  | header hne hw hn hp hb => exact .header hne hw hp (hn.append hb)
  | threadText hp hb => exact .threadText hp hb
  | threadFlag => exact .threadFlag

def separatorCodes : List Nat :=
  List.range' 9 5 ++ List.range' 28 5 ++ ['('.toNat, ')'.toNat, 0x85, 0xa0, 0x1680] ++
    List.range' 0x2000 11 ++ [0x2028, 0x2029, 0x202f, 0x205f, 0x3000]

theorem mem_separatorCodes {x : Char} (h : ¬ isKeywordChar x) : x.toNat ∈ separatorCodes := by
  by_cases ho : x = '('
  · simp [ho, separatorCodes]
  by_cases hc : x = ')'
  · simp [hc, separatorCodes]
  have hblank : isBlank x := by simpa [isKeywordChar, ho, hc] using h
  simp only [isBlank, Bool.or_eq_true, Bool.and_eq_true, decide_eq_true_eq, beq_iff_eq] at hblank
  simp only [separatorCodes, List.mem_append, List.mem_range'_1, List.mem_cons, List.not_mem_nil]
  omega

theorem upperChar_eq_of_not_isKeywordChar {x : Char} (h : ¬ isKeywordChar x) : upperChar x = [x] := by
  have hcodes : ∀ code ∈ separatorCodes, upperCodes code = [code] := by decide +kernel
  rw [upperChar, hcodes _ (mem_separatorCodes h), List.map_singleton, Char.ofNat_toNat]

theorem word_of_upper_eq (h : upper word = upper name) (hne : upper name ≠ [])
    (hname : ∀ x ∈ upper name, isKeywordChar x) : word ≠ [] ∧ ∀ x ∈ word, isKeywordChar x := by
  refine ⟨?_, ?_⟩
  · rintro rfl
    exact hne h.symm
  · intro x hx
    by_contra hk
    have hmem : x ∈ upper word := by
      rw [upper, List.mem_flatMap]
      exact ⟨x, hx, by simp [upperChar_eq_of_not_isKeywordChar hk]⟩
    exact hk (hname x (h ▸ hmem))

theorem Keyword.upper_name (k : Keyword) :
    upper k.name.toList ≠ [] ∧ ∀ x ∈ upper k.name.toList, isKeywordChar x := by
  have h : upper k.name.toList ≠ [] ∧ (upper k.name.toList).all isKeywordChar := by
    rcases k with o | f | _ | _
    · cases o <;> decide
    · cases f <;> decide
    · decide
    · decide
  exact ⟨h.1, List.all_eq_true.1 h.2⟩

theorem Property.upper_name (q : Property) :
    upper q.name.toList ≠ [] ∧ ∀ x ∈ upper q.name.toList, isKeywordChar x := by
  have h : upper q.name.toList ≠ [] ∧ (upper q.name.toList).all isKeywordChar := by
    rcases q with t | f
    · cases t <;> decide
    · cases f <;> decide
  exact ⟨h.1, List.all_eq_true.1 h.2⟩

theorem word_of_property {q : Property} (h : upper word = upper q.name.toList) :
    word ≠ [] ∧ (∀ x ∈ word, ¬ isBlank x) ∧ ∀ x ∈ word, x ≠ '(' ∧ x ≠ ')' := by
  obtain ⟨hne, hword⟩ := word_of_upper_eq h q.upper_name.1 q.upper_name.2
  refine ⟨hne, ?_, ?_⟩
  · intro x hx
    exact not_isBlank_of_isKeywordChar (hword x hx)
  · intro x hx
    exact ne_paren_of_isKeywordChar (hword x hx)

theorem depthAfter?_append_blank (d : Nat) (h : Blank w) : depthAfter? d (s ++ w) = depthAfter? d s := by
  have htrim : trim ([] ++ s ++ w) = trim s := trim_append blank_nil h
  rw [← depthAfter?_trim d (s ++ w), ← depthAfter?_trim d s, ← htrim, List.nil_append]

theorem depthAfter?_gap (d : Nat) (h : Blank w) : depthAfter? d (s ++ w ++ t) = depthAfter? d (s ++ t) := by
  rw [depthAfter?_append, depthAfter?_append_blank d h, ← depthAfter?_append]

theorem depthAfter?_between (d : Nat) (h : Blank w) (h' : Blank w') :
    depthAfter? d (w ++ s ++ w') = depthAfter? d s := by
  rw [depthAfter?_append_blank d h', depthAfter?_blank_append d h]

theorem Rendering.enclosed_of_balanced (h : Rendering c s) (hb : ∀ t, Content c t → Balanced t) :
    Enclosed s := by
  cases h with
  | @enclosed _ w kw s hw hk hs =>
    obtain ⟨-, hword⟩ := word_of_upper_eq hk c.keyword.upper_name.1 c.keyword.upper_name.2
    refine ⟨w ++ kw ++ s, rfl, ?_⟩
    rw [Balanced, List.append_assoc, depthAfter?_blank_append 0 hw,
      depthAfter?_append_of_forall 0 fun x hx => ne_paren_of_isKeywordChar (hword x hx)]
    exact hb s hs

theorem Row.exists_pieces (h : Row cs s) (hb : ∀ c ∈ cs, ∀ t, Content c t → Balanced t) :
    ∃ pieces, Spaced pieces s ∧ List.Forall₂ (fun p c => c ∈ cs ∧ Rendering c p) pieces cs := by
  induction cs generalizing s with
  | nil =>
    cases h with
    | nil hw => exact ⟨[], .nil hw, .nil⟩
  | cons c cs ih =>
    rw [List.forall_mem_cons] at hb
    cases h with
    | cons hw hc hs =>
      obtain ⟨pieces, hspaced, hall⟩ := ih hs hb.2
      refine ⟨_, .cons hw (hc.enclosed_of_balanced hb.1) hspaced, .cons ⟨List.mem_cons_self, hc⟩ ?_⟩
      apply hall.imp
      intro p d hp
      exact ⟨List.mem_cons_of_mem c hp.1, hp.2⟩

theorem Legible.depth_content (h : Legible c n) (hs : Content c s) : depthAfter? 0 s = some n := by
  induction h generalizing s with
  | all _ ih =>
    cases hs with
    | all hrow =>
      obtain ⟨pieces, hspaced, -⟩ := hrow.exists_pieces fun c hc t ht => ih c hc ht
      exact hspaced.balanced
  | any _ ih =>
    cases hs with
    | any hrow =>
      obtain ⟨pieces, hspaced, -⟩ := hrow.exists_pieces fun c hc t ht => ih c hc ht
      exact hspaced.balanced
  | not _ ih =>
    cases hs with
    | not hrow =>
      obtain ⟨pieces, hspaced, -⟩ := hrow.exists_pieces (List.forall_mem_singleton.2 fun t ht => ih ht)
      exact hspaced.balanced
  | field _ hd =>
    cases hs with
    | field h₁ h₂ => rw [depthAfter?_between 0 h₁.1 h₂, hd]
  | header _ _ _ hd =>
    cases hs with
    | header h₁ h₂ h₃ => rw [depthAfter?_between 0 h₁.1 h₃, depthAfter?_gap 0 h₂.1, hd]
  | @threadText t _ _ _ hd =>
    cases hs with
    | threadText ht h₁ h₂ h₃ =>
      have hword := (word_of_property (q := .text t) ht).2.2
      rw [depthAfter?_between 0 h₁.1 h₃, depthAfter?_gap 0 h₂.1, depthAfter?_append_of_forall 0 hword, hd]
  | @threadFlag f =>
    cases hs with
    | threadFlag hf h₁ h₂ =>
      have hword := (word_of_property (q := .flag f) hf).2.2
      rw [depthAfter?_between 0 h₁.1 h₂, depthAfter?_of_forall 0 hword]

theorem not_isKeywordChar_of_head_gap (h : Gap w) : ∀ x ∈ (w ++ s).head?, ¬ isKeywordChar x := by
  obtain ⟨y, w, rfl⟩ := List.exists_cons_of_ne_nil h.2
  intro x hx
  obtain rfl : y = x := by simpa using hx
  have hy : isBlank y := h.1 y List.mem_cons_self
  simp [isKeywordChar, hy]

theorem Row.boundary (h : Row cs s) : ∀ x ∈ s.head?, ¬ isKeywordChar x := by
  have hblank {w : List Char} (hw : Blank w) : ∀ x ∈ w.head?, ¬ isKeywordChar x := by
    intro x hx
    have hx : isBlank x := hw x (List.mem_of_head? hx)
    simp [isKeywordChar, hx]
  cases h with
  | nil hw => exact hblank hw
  | @cons c cs w p s hw hc hs =>
    cases hc with
    | enclosed =>
      cases w with
      | nil => simp [isKeywordChar]
      | cons y w => exact fun x hx => hblank hw x (by simpa using hx)

/-- The keyword of a condition ends where its content begins. -/
theorem Content.boundary (h : Content c s) : ∀ x ∈ s.head?, ¬ isKeywordChar x := by
  cases h with
  | all h | any h | not h => exact h.boundary
  | field h₁ _ | header h₁ _ _ | threadText _ h₁ _ _ | threadFlag _ h₁ _ =>
    rw [List.append_assoc]
    exact not_isKeywordChar_of_head_gap h₁

theorem Legible.layout_content {kw : List Char} (h : Legible c n) (hw : Blank w)
    (hk : upper kw = upper c.keyword.name.toList) (hs : Content c s)
    (ht : trim t = '(' :: (w ++ kw ++ s ++ [')'])) : Layout t w kw s c.keyword where
  trim_eq := ht
  blank := hw
  ne_nil := (word_of_upper_eq hk c.keyword.upper_name.1 c.keyword.upper_name.2).1
  keyword := (word_of_upper_eq hk c.keyword.upper_name.1 c.keyword.upper_name.2).2
  named := by rw [hk, named?_keyword]
  boundary := hs.boundary
  depth := by rw [h.depth_content hs]; rfl

theorem trim_word {word : List Char} (hb : ∀ x ∈ word, ¬ isBlank x) : trim word = word :=
  trim_eq_self_iff.2 ⟨fun x hx => hb x (List.mem_of_head? hx), fun x hx => hb x (List.mem_of_getLast? hx)⟩

theorem trim_append_value (hne : word ≠ []) (hb : ∀ x ∈ word, ¬ isBlank x) (hp : Read b p) :
    trim (word ++ w ++ p.source.toList) = word ++ w ++ p.source.toList := by
  obtain ⟨hhead, -⟩ := trim_eq_self_iff.1 (trim_word hb)
  obtain ⟨-, hlast⟩ := trim_eq_self_iff.1 hp.trim_eq
  apply trim_eq_self_iff.2
  constructor
  · rw [List.append_assoc, List.head?_append_of_ne_nil _ hne]
    exact hhead
  · rw [List.getLast?_append_of_ne_nil _ hp.ne_nil]
    exact hlast

theorem splitWord_content {w₁ w₂ w₃ : List Char} (hne : word ≠ []) (hb : ∀ x ∈ word, ¬ isBlank x)
    (hp : Read b p) (h₁ : Blank w₁) (h₂ : Gap w₂) (h₃ : Blank w₃) :
    splitWord (trim (w₁ ++ (word ++ w₂ ++ p.source.toList) ++ w₃)) = (word, p.source.toList) := by
  have hhead : ∀ x ∈ (w₂ ++ p.source.toList).head?, isBlank x := by
    rw [List.head?_append_of_ne_nil _ h₂.2]
    intro x hx
    exact h₂.1 x (List.mem_of_head? hx)
  have hsplit : splitWord ([] ++ word ++ (w₂ ++ p.source.toList)) =
      (word, trim (w₂ ++ p.source.toList)) := splitWord_append blank_nil hne hb hhead
  have hvalue : trim (w₂ ++ p.source.toList ++ []) = p.source.toList := by
    rw [trim_append h₂.1 blank_nil, hp.trim_eq]
  rw [trim_append h₁ h₃, trim_append_value hne hb hp, List.append_assoc]
  rw [List.append_nil] at hvalue
  rw [hvalue, List.nil_append] at hsplit
  exact hsplit

theorem splitWord_of_word (hne : word ≠ []) (hb : ∀ x ∈ word, ¬ isBlank x) (hw : Blank w)
    (hw' : Blank w') : splitWord (trim (w ++ word ++ w')) = (word, []) := by
  have hsplit : splitWord ([] ++ word ++ []) = (word, trim []) :=
    splitWord_append blank_nil hne hb (by simp)
  rw [trim_append hw hw', trim_word hb]
  simpa [trim_nil] using hsplit

theorem trim_enclosed (inner : List Char) : trim ('(' :: (inner ++ [')'])) = '(' :: (inner ++ [')']) := by
  rw [trim_eq_self_iff, ← List.cons_append, List.getLast?_append]
  simp [isBlank]

theorem Rendering.trim_eq (h : Rendering c s) : trim s = s := by
  cases h with
  | enclosed hw hk hs => exact trim_enclosed _

theorem Rendering.readWith_operator {o : Operator} (h : Rendering c s) (ht : trim t = s)
    (hf : s.length < fuel) (hc : Legible c n) (hk : c.keyword = .operator o)
    (hrow : ∀ b, Content c b → Row cs b) (hcs : ∀ d ∈ cs, Legible d 0)
    (hread : ∀ d ∈ cs, ∀ {s t fuel}, Rendering d s → trim t = s → s.length < fuel →
      readWith fuel t = .ok d) :
    ∃ keyword rest, readWith fuel t = combine o keyword rest cs := by
  obtain ⟨fuel, rfl⟩ := Nat.exists_eq_succ_of_ne_zero (Nat.ne_zero_of_lt hf)
  cases h with
  | @enclosed _ w kw b hw hkw hb =>
    obtain ⟨pieces, hspaced, hpieces⟩ := (hrow b hb).exists_pieces fun d hd b hb =>
      (hcs d hd).depth_content hb
    have hlayout := hc.layout_content hw hkw hb ht
    rw [hk] at hlayout
    have hall := (List.forall₂_and_left _ _).2 ⟨hspaced.length_le, hpieces⟩
    refine ⟨_, _, Condition.readWith_operator hlayout (split_of_spaced hspaced.trim) (hall.imp ?_)⟩
    rintro p d ⟨hlen, hd, hp⟩
    apply hread d hd hp hp.trim_eq
    simp only [List.length_cons, List.length_append] at hf
    omega

theorem Rendering.readWith_leaf (h : Rendering c s) (ht : trim t = s) (hf : s.length < fuel)
    (hc : Legible c n) (hk : ∀ o, c.keyword ≠ .operator o) :
    ∃ b, Content c b ∧ readWith fuel t = readLeaf (trim t) c.keyword (trim b) := by
  obtain ⟨fuel, rfl⟩ := Nat.exists_eq_succ_of_ne_zero (Nat.ne_zero_of_lt hf)
  cases h with
  | @enclosed _ w kw b hw hkw hb =>
    exact ⟨b, hb, Condition.readWith_leaf (hc.layout_content hw hkw hb ht) hk⟩

/-- A legible condition is read off every text that writes it out. -/
theorem Legible.readWith_rendering (h : Legible c n) (hr : Rendering c s) (ht : trim t = s)
    (hf : s.length < fuel) : readWith fuel t = .ok c := by
  induction h generalizing s t fuel with
  | @all cs hcs ih =>
    obtain ⟨keyword, rest, h⟩ := hr.readWith_operator ht hf (.all hcs) rfl
      (fun b hb => by cases hb with | all h => exact h) hcs ih
    exact h
  | @any cs hcs ih =>
    obtain ⟨keyword, rest, h⟩ := hr.readWith_operator ht hf (.any hcs) rfl
      (fun b hb => by cases hb with | any h => exact h) hcs ih
    exact h
  | @not c hc ih =>
    obtain ⟨keyword, rest, h⟩ := hr.readWith_operator ht hf (.not hc) rfl
      (fun b hb => by cases hb with | not h => exact h) (List.forall_mem_singleton.2 hc)
      (List.forall_mem_singleton.2 ih)
    exact h
  | @field f p n hp hd =>
    obtain ⟨b, hb, h⟩ := hr.readWith_leaf ht hf (.field hp hd) (by simp [keyword])
    cases hb with
    | field h₁ h₂ =>
      rw [h, keyword, readLeaf, trim_append h₁.1 h₂, hp.trim_eq, hp.readPattern_eq]
      rfl
  | @header name p n hne hw hp hd =>
    obtain ⟨b, hb, h⟩ := hr.readWith_leaf ht hf (.header hne hw hp hd) (by simp [keyword])
    cases hb with
    | header h₁ h₂ h₃ =>
      rw [h, keyword, readLeaf, splitWord_content hne hw hp h₁.1 h₂ h₃]
      simp [hne, hp.readPattern_eq, bind, Except.bind, pure, Except.pure]
  | @threadText x p n hp hd =>
    obtain ⟨b, hb, h⟩ := hr.readWith_leaf ht hf (.threadText hp hd) (by simp [keyword])
    cases hb with
    | threadText hname h₁ h₂ h₃ =>
      obtain ⟨hne, hw, -⟩ := word_of_property (q := .text x) hname
      have hnamed := named?_property (.text x)
      rw [Property.name, ← hname] at hnamed
      rw [h, keyword, readLeaf, splitWord_content hne hw hp h₁.1 h₂ h₃]
      simp [hnamed, hp.readPattern_eq, bind, Except.bind, pure, Except.pure]
  | @threadFlag f =>
    obtain ⟨b, hb, h⟩ := hr.readWith_leaf ht hf .threadFlag (by simp [keyword])
    cases hb with
    | threadFlag hname h₁ h₂ =>
      obtain ⟨hne, hw, -⟩ := word_of_property (q := .flag f) hname
      have hnamed := named?_property (.flag f)
      rw [Property.name, ← hname] at hnamed
      rw [h, keyword, readLeaf, splitWord_of_word hne hw h₁.1 h₂]
      simp [hnamed]

/-- A condition is read off every text that writes it out, whatever white space stands around it. -/
theorem parse_rendering (h : WellFormed c) (hr : Rendering c s) (hw : Blank w) (hw' : Blank w') :
    parse (String.ofList (w ++ s ++ w')) = .ok c := by
  have ht : trim (w ++ s ++ w') = s := by rw [trim_append hw hw', hr.trim_eq]
  unfold parse
  rw [String.toList_ofList]
  apply h.legible.readWith_rendering hr ht
  simp only [List.length_append]
  omega

/-- A condition on a header whose value looks like a condition. -/
def nestedCondition : Condition :=
  .not (.header "x-(a)" ((Pattern.ofText true "to (or b)").toOption.getD ⟨"", .empty⟩))

theorem wellFormed_nestedCondition : WellFormed nestedCondition :=
  .not (.header (by decide) (by simp [isBlank]) (by decide) ⟨by decide +kernel, by decide +kernel,
    by decide +kernel⟩ (by decide +kernel))

theorem source_nestedValue :
    ((Pattern.ofText true "to (or b)").toOption.getD ⟨"", .empty⟩).source = "to (or b)" := by
  decide +kernel

theorem rendering_nestedCondition :
    Rendering nestedCondition "(Not\n( HEADER x-(a) \tto (or b) ) )".toList := by
  have hin (p : Pattern) (hp : p.source = "to (or b)") :
      Rendering (.header "x-(a)" p) "( HEADER x-(a) \tto (or b) )".toList := by
    have hkeyword : upper "HEADER".toList = upper Keyword.header.name.toList := by decide
    have hcontent : Content (.header "x-(a)" p)
        ([' '] ++ ("x-(a)".toList ++ " \t".toList ++ p.source.toList) ++ [' ']) :=
      .header ⟨blank_space, by decide⟩ ⟨by simp [Blank, isBlank], by decide⟩ blank_space
    rw [hp] at hcontent
    exact .enclosed (w := [' ']) blank_space hkeyword hcontent
  exact .enclosed (w := []) (k := "Not".toList) blank_nil (by decide)
    (.not (.cons (w := ['\n']) (by simp [Blank, isBlank]) (hin _ source_nestedValue) (.nil blank_space)))

theorem parse_rendering_nested :
    parse (String.ofList ("\u2003".toList ++ "(Not\n( HEADER x-(a) \tto (or b) ) )".toList ++ [])) =
      .ok nestedCondition :=
  parse_rendering wellFormed_nestedCondition rendering_nestedCondition (by simp [Blank, isBlank]) blank_nil

end MailTriage.Condition
