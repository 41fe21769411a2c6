import Mathlib.Data.List.Forall2
import MailTriage.Proofs.Pattern.Escape

namespace MailTriage.Regex

open Reader

variable {text rest body : List Char} {read items : List Item} {flags : Flags} {count count' fuel : Nat}
  {c : Char}

/-- The start of the text, or an opening angle bracket. -/
def openingItem : Item :=
  .group (some 1) .none .none [.branch [[.place .lineStart], [literalItem '<']]]

/-- The end of the text, or a closing angle bracket. -/
def closingItem (n : Nat) : Item :=
  .group (some n) .none .none [.branch [[.place .lineEnd], [literalItem '>']]]

def labelItem (n : Nat) : Item :=
  .repeat .most 0 (some 1)
    [.group (some n) .none .none [literalItem '+', .repeat .most 1 none [notAtSign]]]

theorem readsAs_opening : ReadsAs ['(', '^', '|', '<', ')'] [openingItem] 0 1 := by
  have hinside : ReadsInside (['^'] ++ '|' :: ['<']) [.branch [[.place .lineStart], [literalItem '<']]] 1 1 :=
    readsAs_caret.inside_or (readsAs_plain (by decide)) (by simp [Item.plainBody?])
      (by simp [literalItem, Item.plainBody?])
  exact hinside.group (by simp [firstToken])

theorem readsAs_closing :
    ReadsAs ['(', '$', '|', '>', ')'] [closingItem (count + 1)] count (count + 1) := by
  have hinside : ReadsInside (['$'] ++ '|' :: ['>']) [.branch [[.place .lineEnd], [literalItem '>']]]
      (count + 1) (count + 1) :=
    readsAs_dollar.inside_or (readsAs_plain (by decide)) (by simp [Item.plainBody?])
      (by simp [literalItem, Item.plainBody?])
  exact hinside.group (by simp [firstToken])

theorem readsInside_label : ReadsInside ['\\', '+', '[', '^', '@', ']', '+']
    [literalItem '+', .repeat .most 1 none [notAtSign]] count count := by
  intro rest flags fuel hrest hfuel
  have hfuel : 30 ≤ fuel := hfuel
  obtain ⟨fuel, rfl⟩ : ∃ k, fuel = k + 1 := ⟨fuel - 1, by omega⟩
  have hitems : Returns (Faces (['\\', '+'] ++ ['[', '^', '@', ']'] ++ '+' :: ')' :: rest) flags count)
      (readItems false false [] fuel) [literalItem '+', .repeat .most 1 none [notAtSign]]
      (Faces (')' :: rest) flags count) := by
    have hchars : ReadsAs (['\\', '+'] ++ ['[', '^', '@', ']']) ([literalItem '+'] ++ [notAtSign]) count count :=
      (readsAs_special (by decide)).append readsAs_notAtSign
    refine hchars.readItems (n := 2) (by simp) (by omega) (fun fuel hfuel => ?_) fuel (by simpa using by omega)
    obtain ⟨fuel, rfl⟩ : ∃ k, fuel = k + 2 := ⟨fuel - 2, by omega⟩
    refine Yields.readItems_plus ⟨rfl, rfl, rfl⟩ (by simp) (by simp [EndsRepeat, firstToken]) ?_
    exact returns_readItems_of_ends (.inr (.inr rfl))
  unfold readAlternatives
  refine hitems.bind ?_
  refine (returns_accept_of_ne (')' :: rest) (by simp [firstToken])).bind ?_
  exact returns_pure fun _ hs => hs

theorem readsAs_label : ReadsAs (Pattern.optionalLabel ++ ['@']) [labelItem (count + 1), literalItem '@']
    count (count + 1) where
  ne_backslash rest _ := by simp [Pattern.optionalLabel]
  readItems {rest flags first items n Q} hrest hn hgo fuel hfuel := by
    have hfuel : n + 44 ≤ fuel := hfuel
    have hgroup : ReadsAs ['(', '\\', '+', '[', '^', '@', ']', '+', ')']
        [.group (some (count + 1)) .none .none [literalItem '+', .repeat .most 1 none [notAtSign]]]
        count (count + 1) := readsInside_label.group (by simp [firstToken])
    refine hgroup.readItems (n := n + 8) (by simp) (by omega)
      (fun fuel hfuel => ?_) fuel (by simpa using by omega)
    obtain ⟨fuel, rfl⟩ : ∃ k, fuel = k + 1 := ⟨fuel - 1, by omega⟩
    refine Yields.readItems_question ⟨rfl, rfl, rfl⟩ (by simp)
      (by simp [EndsRepeat, firstToken]) ?_
    have hat : ReadsAs ['@'] [literalItem '@'] (count + 1) (count + 1) := readsAs_plain (by decide)
    exact hat.readItems hrest hn hgo fuel (by simpa using by omega)

theorem returns_readWhole (h : ReadsAs body read 0 count) (hplain : ∀ i ∈ read, i.plainBody? = none)
    (hverbose : flags.verbose = false) (hascii : flags.ascii = false) :
    Returns (Faces body flags 0) (readWhole body.length) read
      fun s => s.flags = { flags with unicode := true } := by
  have hread : Returns (Faces body flags 0)
      (readAlternatives false true [] (4 * body.length + 8)) read (Faces [] flags count) := by
    have halternatives : Returns (Faces (body ++ []) flags 0)
        (readAlternatives false true [] (4 * body.length + 8)) read (Faces [] flags count) :=
      h.returns_readAlternatives [] hplain (.inl rfl) (by simp) (by simp [firstToken]) (by omega)
    rwa [List.append_nil] at halternatives
  intro s hs
  obtain ⟨items, s', hrun, rfl, hs'⟩ := hread s hs
  have hnone : s'.cursor.next = none := hs'.next.1
  have hflags : s.flags.verbose = false := by rw [hs.flags, hverbose]
  refine ⟨items, { s' with flags := { s'.flags with unicode := !s'.flags.ascii } }, ?_, rfl, ?_⟩
  · have hconflict : (s'.flags.ascii && s'.flags.unicode) = false := by
      rw [hs'.flags, hascii, Bool.false_and]
    rw [← hflags] at hrun
    show (readAlternatives s.flags.verbose true [] (4 * body.length + 8) s >>= _) = _
    rw [hrun]
    simp [StateT.bind, bind, Except.bind, get, getThe, MonadStateOf.get, StateT.get, pure,
      Except.pure, hconflict, modify, modifyGet, MonadStateOf.modifyGet, StateT.modifyGet, peek, hnone,
      hs'.asked]
    rfl
  · simp only [hs'.flags, hascii, Bool.not_false]

theorem exists_parse_eq (flags : Flags) (h : ReadsAs body read 0 count) (hplain : ∀ i ∈ read, i.plainBody? = none)
    (hne : body ≠ ['\\']) (hverbose : flags.verbose = false) (hascii : flags.ascii = false) :
    ∃ groups, parse flags body = ofItems groups { flags with unicode := true } read := by
  obtain ⟨c, hc⟩ := exists_cursor_at hne 0
  have hstart : Faces body flags 0 { cursor := c, flags := flags } := ⟨⟨0, hc⟩, rfl, rfl, rfl⟩
  obtain ⟨items, s, hrun, rfl, hs⟩ := returns_readWhole h hplain hverbose hascii _ hstart
  refine ⟨widths s.groups, ?_⟩
  rw [← hs]
  unfold parse
  rw [hc]
  show (readWhole body.length { cursor := c, flags := flags } >>= _) = _
  rw [hrun]
  rfl

def letter (c : Char) : Regex :=
  .char (.code .full false c.toNat)

def opening : Regex :=
  .group 1 (seqAll [.alt (seqAll [.anchor .textStart]) (seqAll [letter '<'])])

def closing (n : Nat) : Regex :=
  .group n (seqAll [.alt (seqAll [.anchor .finalEnd]) (seqAll [letter '>'])])

def label (n : Nat) : Regex :=
  .repeat .most 0 (some 1) (seqAll [.group n (seqAll [letter '+',
    .repeat .most 1 none (seqAll [.char (.code .full true '@'.toNat)])])])

/-- An expression between brackets, the second of which is the group `n`. -/
def enclosed (n : Nat) (rs : List Regex) : Regex :=
  seqAll (opening :: (rs ++ [closing n]))

variable {groups : Nat → Width} {rs : List Regex} {v : List Char}

theorem ofItems_eq (h : List.Forall₂ (fun i r => ofItem groups flags i = .ok r) items rs) :
    ofItems groups flags items = .ok (seqAll rs) := by
  induction h with
  | nil => rfl
  | cons hi _ ih =>
    rw [ofItems, hi, ih]
    rfl

/-- The flags of a pattern whose letter case does not matter, once they are read. -/
def anyCase : Flags :=
  { ignoreCase := true, unicode := true }

theorem ofItem_letters (v : List Char) :
    List.Forall₂ (fun i r => ofItem groups anyCase i = .ok r) (v.map literalItem) (v.map letter) :=
  List.forall₂_map_left_iff.2 (List.forall₂_map_right_iff.2 (List.forall₂_same.2 fun _ _ => rfl))

theorem ofItems_letters (v : List Char) :
    ofItems groups { unicode := true } (v.map literalItem) = .ok (literal .none v) := by
  induction v with
  | nil => rfl
  | cons c v ih =>
    rw [List.map_cons, ofItems, ih]
    rfl

theorem ofItems_enclosed {n : Nat}
    (h : List.Forall₂ (fun i r => ofItem groups anyCase i = .ok r) items rs) :
    ofItems groups anyCase (openingItem :: (items ++ [closingItem n])) = .ok (enclosed n rs) := by
  have hopening : ofItem groups anyCase openingItem = .ok opening := rfl
  have hclosing : ofItem groups anyCase (closingItem n) = .ok (closing n) := rfl
  exact ofItems_eq (.cons hopening (List.rel_append h (.cons hclosing .nil)))

theorem plainBody?_literals (v : List Char) : ∀ i ∈ v.map literalItem, i.plainBody? = none := by
  intro i hi
  obtain ⟨c, -, rfl⟩ := List.mem_map.1 hi
  rfl

theorem parse_escape (v : List Char) : parse .none (Pattern.escape v) = .ok (literal .none v) := by
  have hread : ReadsAs (Pattern.escape v) (v.map literalItem) 0 0 := readsAs_escape v
  have hne : Pattern.escape v ≠ ['\\'] := by simpa using hread.ne_backslash [] (by simp)
  obtain ⟨groups, hparse⟩ := exists_parse_eq .none hread (plainBody?_literals v) hne rfl rfl
  rw [hparse]
  exact ofItems_letters v

theorem parse_delimited (h : ReadsAs body items 1 count) (hplain : ∀ i ∈ items, i.plainBody? = none)
    (hitems : ∀ groups, List.Forall₂ (fun i r => ofItem groups anyCase i = .ok r) items rs) :
    parse { ignoreCase := true } (Pattern.delimited body) = .ok (enclosed (count + 1) rs) := by
  have hread : ReadsAs (Pattern.delimited body) ([openingItem] ++ items ++ [closingItem (count + 1)]) 0
      (count + 1) := (readsAs_opening.append h).append readsAs_closing
  have hplain' : ∀ i ∈ [openingItem] ++ items ++ [closingItem (count + 1)], i.plainBody? = none := by
    simpa [or_imp, forall_and, openingItem, closingItem, Item.plainBody?] using hplain
  obtain ⟨groups, hparse⟩ := exists_parse_eq { ignoreCase := true } hread hplain' (by simp [Pattern.delimited])
    rfl rfl
  rw [hparse]
  exact ofItems_enclosed (hitems groups)

theorem parse_delimited_escape (w : List Char) :
    parse { ignoreCase := true } (Pattern.delimited (Pattern.escape w)) =
      .ok (enclosed 2 (w.map letter)) :=
  parse_delimited (readsAs_escape w) (plainBody?_literals w) fun _ => ofItem_letters w

end MailTriage.Regex

namespace MailTriage.Pattern

open Regex

variable {s v a b : List Char} {isAddress : Bool} {pattern : String}

theorem escape_append (a b : List Char) : escape (a ++ b) = escape a ++ escape b :=
  List.flatMap_append

theorem mem_escape_iff : '@' ∈ escape v ↔ '@' ∈ v := by
  rw [escape, List.mem_flatMap]
  constructor
  · rintro ⟨c, hc, hmem⟩
    obtain rfl : '@' = c := by split at hmem <;> simpa using hmem
    exact hc
  · intro hmem
    exact ⟨'@', hmem, by decide⟩

theorem allowLabel_of_not_mem (h : '@' ∉ a) : allowLabel a = a := by
  induction a with
  | nil => rfl
  | cons c a ih =>
    rw [List.mem_cons, not_or] at h
    rw [allowLabel, if_neg (Ne.symm h.1), ih h.2]

theorem allowLabel_append (h : '@' ∉ a) (b : List Char) :
    allowLabel (a ++ '@' :: b) = a ++ (optionalLabel ++ '@' :: b) := by
  induction a with
  | nil => rfl
  | cons c a ih =>
    rw [List.mem_cons, not_or] at h
    rw [List.cons_append, allowLabel, if_neg (Ne.symm h.1), ih h.2]
    rfl

theorem parse_address (ha : '@' ∉ a) (b : List Char) :
    Regex.parse { ignoreCase := true } (delimited (allowLabel (escape (a ++ '@' :: b)))) =
      .ok (enclosed 3 (a.map letter ++ label 2 :: ('@' :: b).map letter)) := by
  have htext : allowLabel (escape (a ++ '@' :: b)) =
      escape a ++ ((optionalLabel ++ ['@']) ++ escape b) := by
    have hat : escape ('@' :: b) = '@' :: escape b := rfl
    rw [escape_append, hat, allowLabel_append (mem_escape_iff.not.2 ha), List.append_assoc]
    rfl
  have hread : ReadsAs (escape a ++ ((optionalLabel ++ ['@']) ++ escape b))
      (a.map literalItem ++ ([labelItem 2, literalItem '@'] ++ b.map literalItem)) 1 2 :=
    (readsAs_escape a).append (readsAs_label.append (readsAs_escape b))
  have hplain : ∀ i ∈ a.map literalItem ++ ([labelItem 2, literalItem '@'] ++ b.map literalItem),
      i.plainBody? = none := by
    have hliterals := plainBody?_literals
    simp only [List.mem_append, or_imp, forall_and]
    exact ⟨hliterals a, by simp [labelItem, literalItem, Item.plainBody?], hliterals b⟩
  rw [htext]
  refine parse_delimited hread hplain fun groups => List.rel_append (ofItem_letters a) ?_
  have hlabel : ofItem groups anyCase (labelItem 2) = .ok (label 2) := rfl
  exact .cons hlabel (ofItem_letters ('@' :: b))

theorem compile_eq_ok {r : Regex} (hne : pattern.toList ≠ [])
    (h : Regex.parse (expression isAddress pattern.toList).1 (expression isAddress pattern.toList).2 =
      .ok r) : compile isAddress pattern = .ok r := by
  simp [compile, hne, h]

theorem slashed?_of_quoted? {value : List Char} (h : quoted? s = some value) : slashed? s = none := by
  unfold quoted? at h
  split at h
  · rfl
  · cases h

theorem compile_quoted {value : List Char} (h : quoted? pattern.toList = some value) :
    compile isAddress pattern = .ok (enclosed 2 (value.map letter)) := by
  have hne : pattern.toList ≠ [] := by
    rintro hnil
    rw [hnil] at h
    cases h
  refine compile_eq_ok hne ?_
  simp only [expression, slashed?_of_quoted? h, h]
  exact parse_delimited_escape value

/-- A pattern that stands for itself: there is something in it, and it is neither between slashes nor
between double quotes. -/
structure Bare (s : List Char) : Prop where
  ne_nil : s ≠ []
  slashed? : slashed? s = none
  quoted? : quoted? s = none

theorem compile_text (h : Bare pattern.toList) :
    compile false pattern = .ok (literal .none pattern.toList) := by
  refine compile_eq_ok h.ne_nil ?_
  simp only [expression, h.slashed?, h.quoted?]
  exact parse_escape pattern.toList

theorem compile_word (h : Bare pattern.toList) (hat : '@' ∉ pattern.toList) :
    compile true pattern = .ok (enclosed 2 (pattern.toList.map letter)) := by
  refine compile_eq_ok h.ne_nil ?_
  simp only [expression, h.slashed?, h.quoted?, if_true, allowLabel_of_not_mem (mem_escape_iff.not.2 hat)]
  exact parse_delimited_escape pattern.toList

theorem compile_address (h : Bare pattern.toList) (hpattern : pattern.toList = a ++ '@' :: b)
    (ha : '@' ∉ a) :
    compile true pattern = .ok (enclosed 3 (a.map letter ++ label 2 :: ('@' :: b).map letter)) := by
  refine compile_eq_ok h.ne_nil ?_
  simp only [expression, h.slashed?, h.quoted?, if_true]
  rw [hpattern]
  exact parse_address ha b

/-- Only what stands between slashes can be refused. -/
theorem exists_compile (hne : pattern.toList ≠ []) (h : slashed? pattern.toList = none) :
    ∃ r, compile isAddress pattern = .ok r := by
  cases hq : quoted? pattern.toList with
  | some value => exact ⟨_, compile_quoted hq⟩
  | none =>
    have hbare : Bare pattern.toList := ⟨hne, h, hq⟩
    cases isAddress with
    | false => exact ⟨_, compile_text hbare⟩
    | true =>
      by_cases hat : '@' ∈ pattern.toList
      · obtain ⟨a, b, hpattern, ha⟩ := List.eq_append_cons_of_mem hat
        exact ⟨_, compile_address hbare hpattern ha⟩
      · exact ⟨_, compile_word hbare hat⟩

end MailTriage.Pattern
