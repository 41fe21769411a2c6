import Mathlib.Data.Nat.Digits.Defs
import MailTriage.Proofs.Rule.Rows
import MailTriage.Proofs.Trim

namespace MailTriage.Rule

/-- Digits of any script, one at least. -/
structure IsNumeral (digits : List Char) : Prop where
  ne_nil : digits ≠ []
  isDigit : ∀ c ∈ digits, Text.isDigit c

/-- The number that digits write, the last of which counts for the ones. -/
def valueOf (digits : List Char) : Nat :=
  Nat.ofDigits 10 (digits.reverse.map fun c => (Text.digitValue? c).getD 0)

/-- A text that starts with a whole number: a sign or none, digits as far as they go, and anything else
after them. -/
inductive StartsWithInt : List Char → Int → Prop
  | unsigned {digits rest : List Char} (hd : IsNumeral digits) (hr : ∀ c ∈ rest.head?, ¬ Text.isDigit c) :
      StartsWithInt (digits ++ rest) (valueOf digits)
  | plus {digits rest : List Char} (hd : IsNumeral digits) (hr : ∀ c ∈ rest.head?, ¬ Text.isDigit c) :
      StartsWithInt ('+' :: (digits ++ rest)) (valueOf digits)
  | minus {digits rest : List Char} (hd : IsNumeral digits) (hr : ∀ c ∈ rest.head?, ¬ Text.isDigit c) :
      StartsWithInt ('-' :: (digits ++ rest)) (-valueOf digits)

section Numbers

variable {s digits rest : List Char} {n m : Int}

def leadingDigits (s : List Char) : List Nat :=
  (s.takeWhile Text.isDigit).filterMap Text.digitValue?

theorem filterMap_digitValue? (h : ∀ c ∈ digits, Text.isDigit c) :
    digits.filterMap Text.digitValue? = digits.map fun c => (Text.digitValue? c).getD 0 := by
  rw [← List.filterMap_eq_map]
  refine List.filterMap_congr fun c hc => ?_
  obtain ⟨d, hd⟩ := Option.isSome_iff_exists.1 (h c hc)
  simp [hd]

theorem ofDigits_append (n : Nat) (ds : List Nat) (d : Nat) :
    Number.ofDigits n (ds ++ [d]) = 10 * Number.ofDigits n ds + d := by
  induction ds generalizing n with
  | nil => rfl
  | cons e ds ih => exact ih (10 * n + e)

theorem ofDigits_eq (ds : List Nat) : Number.ofDigits 0 ds = Nat.ofDigits 10 ds.reverse := by
  induction ds using List.reverseRecOn with
  | nil => rfl
  | append_singleton ds d ih =>
    rw [ofDigits_append, ih, List.reverse_append, List.reverse_singleton, List.singleton_append,
      Nat.ofDigits_cons]
    omega

theorem leadingDigits_append (hd : IsNumeral digits) (hr : ∀ c ∈ rest.head?, ¬ Text.isDigit c) :
    leadingDigits (digits ++ rest) ≠ [] ∧
      Number.ofDigits 0 (leadingDigits (digits ++ rest)) = valueOf digits := by
  have htake : (digits ++ rest).takeWhile Text.isDigit = digits := by
    rw [List.takeWhile_append_of_pos hd.isDigit]
    cases rest with
    | nil => simp
    | cons c rest => simp [hr c rfl]
  rw [leadingDigits, htake, filterMap_digitValue? hd.isDigit]
  refine ⟨by simpa using hd.ne_nil, ?_⟩
  rw [ofDigits_eq, valueOf, List.map_reverse]

theorem exists_numeral (h : leadingDigits s ≠ []) : ∃ digits rest, s = digits ++ rest ∧
    IsNumeral digits ∧ ∀ c ∈ rest.head?, ¬ Text.isDigit c := by
  refine ⟨s.takeWhile Text.isDigit, s.dropWhile Text.isDigit, List.takeWhile_append_dropWhile.symm,
    ⟨fun hnil => h ?_, fun c hc => List.mem_takeWhile_imp hc⟩, fun c hc => ?_⟩
  · rw [leadingDigits, hnil]
    rfl
  · have hhead := List.head?_dropWhile_not Text.isDigit s
    rw [Option.mem_def.1 hc] at hhead
    simpa using hhead

theorem leadingInt?_minus (s : List Char) : leadingInt? ('-' :: s) =
    if leadingDigits s = [] then none else some (true, leadingDigits s) := by
  simp [leadingInt?, leadingDigits]

theorem leadingInt?_plus (s : List Char) : leadingInt? ('+' :: s) =
    if leadingDigits s = [] then none else some (false, leadingDigits s) := by
  simp [leadingInt?, leadingDigits]

theorem leadingInt?_unsigned (h : ∀ c ∈ s.head?, c ≠ '-' ∧ c ≠ '+') : leadingInt? s =
    if leadingDigits s = [] then none else some (false, leadingDigits s) := by
  unfold leadingInt?
  split
  next negative s' heq =>
    split at heq
    · exact absurd rfl (h '-' rfl).1
    · exact absurd rfl (h '+' rfl).2
    · cases heq
      simp [leadingDigits]

theorem leadingInt?_of_startsWithInt (h : StartsWithInt s n) : ∃ negative ds,
    leadingInt? s = some (negative, ds) ∧
      n = if negative then -(Number.ofDigits 0 ds : Int) else Number.ofDigits 0 ds := by
  cases h with
  | @unsigned digits rest hd hr =>
    obtain ⟨hne, hvalue⟩ := leadingDigits_append hd hr
    have hsign : ∀ c ∈ (digits ++ rest).head?, c ≠ '-' ∧ c ≠ '+' := by
      intro c hc
      rw [List.head?_append_of_ne_nil _ hd.ne_nil] at hc
      have hdigit := hd.isDigit c (List.mem_of_head? hc)
      constructor <;> rintro rfl <;> revert hdigit <;> decide
    exact ⟨false, _, by rw [leadingInt?_unsigned hsign, if_neg hne], by simp [hvalue]⟩
  | plus hd hr =>
    obtain ⟨hne, hvalue⟩ := leadingDigits_append hd hr
    exact ⟨false, _, by rw [leadingInt?_plus, if_neg hne], by simp [hvalue]⟩
  | minus hd hr =>
    obtain ⟨hne, hvalue⟩ := leadingDigits_append hd hr
    exact ⟨true, _, by rw [leadingInt?_minus, if_neg hne], by simp [hvalue]⟩

theorem exists_startsWithInt_iff : (∃ n, StartsWithInt s n) ↔ (leadingInt? s).isSome := by
  constructor
  · rintro ⟨n, h⟩
    obtain ⟨negative, ds, hs, -⟩ := leadingInt?_of_startsWithInt h
    rw [hs]
    rfl
  · intro h
    have hne {t : List Char} {negative : Bool} (ht : (if leadingDigits t = [] then none
        else some (negative, leadingDigits t)).isSome) : leadingDigits t ≠ [] := by
      intro hnil
      simp [hnil] at ht
    by_cases hminus : s.head? = some '-'
    · obtain ⟨t, rfl⟩ := List.head?_eq_some_iff.1 hminus
      rw [leadingInt?_minus] at h
      obtain ⟨digits, rest, rfl, hd, hr⟩ := exists_numeral (hne h)
      exact ⟨_, .minus hd hr⟩
    by_cases hplus : s.head? = some '+'
    · obtain ⟨t, rfl⟩ := List.head?_eq_some_iff.1 hplus
      rw [leadingInt?_plus] at h
      obtain ⟨digits, rest, rfl, hd, hr⟩ := exists_numeral (hne h)
      exact ⟨_, .plus hd hr⟩
    · have hsign : ∀ c ∈ s.head?, c ≠ '-' ∧ c ≠ '+' := by
        intro c hc
        rw [Option.mem_def] at hc
        exact ⟨fun heq => hminus (heq ▸ hc), fun heq => hplus (heq ▸ hc)⟩
      rw [leadingInt?_unsigned hsign] at h
      obtain ⟨digits, rest, rfl, hd, hr⟩ := exists_numeral (hne h)
      exact ⟨_, .unsigned hd hr⟩

end Numbers

/-- A row whose stage starts with a number. -/
def IsNumbered (l : Layout) (row : List String) : Prop :=
  ∃ n, StartsWithInt (cell l row .stage).toList n

instance (l : Layout) (row : List String) : Decidable (IsNumbered l row) :=
  decidable_of_iff _ exists_startsWithInt_iff.symm

def withNumber (l : Layout) (rows : List (List String)) : List (List String) :=
  rows.filter (IsNumbered l ·)

def withoutNumber (l : Layout) (rows : List (List String)) : List (List String) :=
  rows.filter (¬ IsNumbered l ·)

/-- The rules of the rows with a number come first, sorted, and those of the others follow in the order of
the table. -/
def NumbersFirst (l : Layout) (parents : Bool) (rows : List (List String)) (rules : List Rule) : Prop :=
  ∃ sorted, StablySorted (rulesOf l parents (withNumber l rows)) sorted ∧
    rules = sorted ++ rulesOf l parents (withoutNumber l rows)

/-- The numbers of a table leave the end to the rows without a number: none goes beyond the stage that these
have, and those that reach it stand before them. -/
structure LeavesEnd (l : Layout) (parents : Bool) (rows : List (List String)) : Prop where
  bounded : rulesOf l parents (withoutNumber l rows) ≠ [] →
    ∀ r ∈ rulesOf l parents (withNumber l rows), r.stage ≤ lastStage
  tied : inStage (rulesOf l parents rows) lastStage =
    inStage (rulesOf l parents (withNumber l rows)) lastStage ++ rulesOf l parents (withoutNumber l rows)

section Rows

variable {l : Layout} {parents : Bool} {row header : List String} {rows : List (List String)} {r : Rule}
  {rules all numbered others : List Rule} {n k : Int}

theorem trim_cell (c : Column) : Text.trim (cell l row c).toList = (cell l row c).toList := by
  unfold cell
  split
  · rw [trimmed, String.toList_ofList, Text.trim_trim]
  · rfl

theorem stage_eq_of_startsWithInt (hr : ofRow l parents row = .ok r)
    (h : StartsWithInt (cell l row .stage).toList n) : r.stage = n := by
  obtain ⟨negative, ds, hs, rfl⟩ := leadingInt?_of_startsWithInt h
  have hstage := readStage_of_ofRow hr
  rw [readStage, trim_cell, hs] at hstage
  by_cases hlong : Number.maxDigits < ds.length
  · cases hstage.symm.trans (if_pos hlong)
  · exact (Except.ok.inj (hstage.symm.trans (if_neg hlong)))

theorem stage_eq_of_not_isNumbered (hr : ofRow l parents row = .ok r) (h : ¬ IsNumbered l row) :
    r.stage = lastStage := by
  have hnone : leadingInt? (cell l row .stage).toList = none := by
    rwa [IsNumbered, exists_startsWithInt_iff, Option.not_isSome_iff_eq_none] at h
  have hstage := readStage_of_ofRow hr
  rw [readStage, trim_cell, hnone] at hstage
  exact (Except.ok.inj hstage).symm

theorem stage_of_mem_withoutNumber (h : r ∈ rulesOf l parents (withoutNumber l rows)) :
    r.stage = lastStage := by
  obtain ⟨row, hrow, -, hr⟩ := mem_rulesOf.1 h
  exact stage_eq_of_not_isNumbered hr (by simpa using (List.mem_filter.1 hrow).2)

theorem inStage_withNumber (hk : k ≠ lastStage) :
    inStage (rulesOf l parents rows) k = inStage (rulesOf l parents (withNumber l rows)) k := by
  rw [inStage, inStage, rulesOf, rulesOf, withNumber, List.filterMap_filter, List.filter_filterMap,
    List.filter_filterMap]
  refine List.filterMap_congr fun row _ => ?_
  by_cases hn : IsNumbered l row
  · simp [hn]
  · cases hr : ruleOf? l parents row with
    | none => simp
    | some r =>
      have hstage := stage_eq_of_not_isNumbered (ruleOf?_eq_some_iff.1 hr).2 hn
      simp [hn, Option.filter, hstage, hk.symm]

/-- Whether rules that are sorted with others of the stage `k` are left with these at the end. -/
theorem exists_sorted_append_iff (hothers : ∀ r ∈ others, r.stage = k)
    (hall : ∀ s ≠ k, inStage all s = inStage numbered s) (h : StablySorted all rules) :
    (∃ sorted, StablySorted numbered sorted ∧ rules = sorted ++ others) ↔
      (others ≠ [] → ∀ r ∈ numbered, r.stage ≤ k) ∧ inStage all k = inStage numbered k ++ others := by
  have hself : inStage others k = others := List.filter_eq_self.2 (by simpa using hothers)
  constructor
  · rintro ⟨sorted, hsorted, rfl⟩
    refine ⟨fun hne r hr => ?_, ?_⟩
    · obtain ⟨o, ho⟩ := List.exists_mem_of_ne_nil others hne
      have hle := (List.pairwise_append.1 h.ascending).2.2 r (hsorted.mem_iff.2 hr) o ho
      rwa [hothers o ho] at hle
    · rw [← h.kept, inStage_append, hsorted.kept, hself]
  · rintro ⟨hbounded, htied⟩
    have hsorted := stablySorted_sortByStage numbered
    refine ⟨_, hsorted, h.unique ⟨?_, fun s => ?_⟩⟩
    · refine List.pairwise_append.2 ⟨hsorted.ascending, ?_, fun r hr o ho => ?_⟩
      · refine List.pairwise_of_forall_mem_list fun o ho o' ho' => ?_
        rw [hothers o ho, hothers o' ho']
      · rw [hothers o ho]
        exact hbounded (List.ne_nil_of_mem ho) r (hsorted.mem_iff.1 hr)
    · rw [inStage_append, hsorted.kept]
      by_cases hs : s = k
      · rw [hs, hself, htied]
      · have hnil : inStage others s = [] := by
          refine List.filter_eq_nil_iff.2 fun o ho => ?_
          simpa [hothers o ho] using Ne.symm hs
        rw [hnil, List.append_nil, hall s hs]

theorem numbersFirst_iff_leavesEnd (hl : layout header = .ok l)
    (h : ofTable parents (header :: rows) = .ok rules) :
    NumbersFirst l parents rows rules ↔ LeavesEnd l parents rows := by
  obtain ⟨-, hsorted⟩ := (ofTable_eq_ok_iff hl).1 h
  have hothers : ∀ r ∈ rulesOf l parents (withoutNumber l rows), r.stage = lastStage :=
    fun r hr => stage_of_mem_withoutNumber hr
  have hiff := exists_sorted_append_iff hothers (fun s hs => inStage_withNumber hs) hsorted
  exact hiff.trans ⟨fun h => ⟨h.1, h.2⟩, fun h => ⟨h.bounded, h.tied⟩⟩

theorem leavesEnd_of_lt
    (h : ∀ row ∈ rows, ∀ n, StartsWithInt (cell l row .stage).toList n → n < lastStage) :
    LeavesEnd l parents rows := by
  have hlt : ∀ r ∈ rulesOf l parents (withNumber l rows), r.stage < lastStage := by
    intro r hr
    obtain ⟨row, hrow, -, hr⟩ := mem_rulesOf.1 hr
    obtain ⟨hmem, hnumbered⟩ := List.mem_filter.1 hrow
    obtain ⟨n, hn⟩ : IsNumbered l row := by simpa using hnumbered
    rw [stage_eq_of_startsWithInt hr hn]
    exact h row hmem n hn
  refine ⟨fun _ r hr => (hlt r hr).le, ?_⟩
  have hnil : inStage (rulesOf l parents (withNumber l rows)) lastStage = [] := by
    refine List.filter_eq_nil_iff.2 fun r hr => ?_
    simpa using (hlt r hr).ne
  rw [hnil, List.nil_append, inStage, rulesOf, rulesOf, withoutNumber, List.filterMap_filter,
    List.filter_filterMap]
  refine List.filterMap_congr fun row hrow => ?_
  cases hr : ruleOf? l parents row with
  | none => simp
  | some r =>
    have hok := (ruleOf?_eq_some_iff.1 hr).2
    by_cases hn : IsNumbered l row
    · obtain ⟨n, hnumber⟩ := hn
      have hstage : r.stage ≠ lastStage := by
        rw [stage_eq_of_startsWithInt hok hnumber]
        exact (h row hrow n hnumber).ne
      have hn : IsNumbered l row := ⟨n, hnumber⟩
      simp [Option.filter, hstage, hn]
    · simp [Option.filter, stage_eq_of_not_isNumbered hok hn, hn]

/-- A rule has the number of its row for its stage. In the rules of a table those with a number come first,
ascending, just when the numbers leave the end to the others, as they do if they are all below the stage of
rules without one. -/
theorem numbersFirst_iff (hl : layout header = .ok l) (h : ofTable parents (header :: rows) = .ok rules) :
    (∀ row r n, StartsWithInt (cell l row .stage).toList n → ofRow l parents row = .ok r → r.stage = n) ∧
      (NumbersFirst l parents rows rules ↔ LeavesEnd l parents rows) ∧
      ((∀ row ∈ rows, ∀ n, StartsWithInt (cell l row .stage).toList n → n < lastStage) →
        NumbersFirst l parents rows rules) := by
  have hiff := numbersFirst_iff_leavesEnd hl h
  refine ⟨fun row r n hn hr => stage_eq_of_startsWithInt hr hn, hiff, fun hlt => ?_⟩
  exact hiff.2 (leavesEnd_of_lt hlt)

/-- Numbers in digits of two scripts, behind a row without one. -/
def mixedRows : List (List String) :=
  [["(subject a)"], ["(subject b)", "", "", "", "", "٣0 or so"], ["(subject c)", "", "", "", "", "-4"]]

theorem numbersFirst_of_mixed : layout (Column.every.map Column.name) = .ok plainLayout ∧
    ∃ rules, ofTable false (Column.every.map Column.name :: mixedRows) = .ok rules ∧
      NumbersFirst plainLayout false mixedRows rules ∧
      (rulesOf plainLayout false (withNumber plainLayout mixedRows)).map (·.stage) = [30, -4] := by
  have htable := (ofTable_eq_ok_iff layout_plain).2
    ⟨(by decide +kernel : Readable plainLayout false mixedRows), stablySorted_sortByStage _⟩
  have hdigits : ∀ row ∈ mixedRows, (leadingInt? (cell plainLayout row .stage).toList).all
      fun p => (Number.ofDigits 0 p.2 : Int) < lastStage := by decide +kernel
  have hsmall : ∀ row ∈ mixedRows, ∀ n, StartsWithInt (cell plainLayout row .stage).toList n →
      n < lastStage := by
    intro row hrow n hn
    obtain ⟨negative, ds, hs, rfl⟩ := leadingInt?_of_startsWithInt hn
    have hbound := hdigits row hrow
    rw [hs, Option.all_some, decide_eq_true_eq] at hbound
    have hnonneg := Int.natCast_nonneg (Number.ofDigits 0 ds)
    split
    · exact (neg_nonpos.2 hnonneg).trans_lt (hnonneg.trans_lt hbound)
    · exact hbound
  exact ⟨layout_plain, _, htable, (numbersFirst_iff layout_plain htable).2.2 hsmall, by decide +kernel⟩

/-- A number that is one beyond the stage of the rules without a number. -/
def beyondRows : List (List String) :=
  [["(subject a)"], ["(subject b)", "", "", "", "", "9223372036854775808"]]

theorem not_numbersFirst_of_beyond :
    ∃ rules, ofTable false (Column.every.map Column.name :: beyondRows) = .ok rules ∧
      ¬ NumbersFirst plainLayout false beyondRows rules := by
  have htable := (ofTable_eq_ok_iff layout_plain).2
    ⟨(by decide +kernel : Readable plainLayout false beyondRows), stablySorted_sortByStage _⟩
  refine ⟨_, htable, fun hfirst => ?_⟩
  have hbounded := ((numbersFirst_iff_leavesEnd layout_plain htable).1 hfirst).bounded
  have hothers : rulesOf plainLayout false (withoutNumber plainLayout beyondRows) ≠ [] := by
    rw [ne_eq, ← List.isEmpty_iff]
    decide +kernel
  have hstages : (rulesOf plainLayout false (withNumber plainLayout beyondRows)).map (·.stage) =
      [9223372036854775808] := by decide +kernel
  obtain ⟨r, hr, hstage⟩ : ∃ r ∈ rulesOf plainLayout false (withNumber plainLayout beyondRows),
      r.stage = 9223372036854775808 := by
    simpa using List.mem_map.1 (hstages ▸ List.mem_singleton_self _)
  exact absurd (hstage ▸ hbounded hothers r hr) (by decide +kernel)

end Rows

end MailTriage.Rule
