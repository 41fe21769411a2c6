import MailTriage.Proofs.Condition.Excess
import MailTriage.Rule.Table

namespace MailTriage.Rule

/-- A table is read, or refused in words. -/
def Answered (parents : Bool) (rows : List (List String)) : Prop :=
  (∃ rules, ofTable parents rows = .ok rules) ∨
    ∃ e words, ofTable parents rows = .error e ∧ e.message? = some words

/-- The stage of a row starts with a number of too many digits. -/
def LongStage (l : Layout) (row : List String) : Prop :=
  ∃ negative digits, leadingInt? (Text.trim (cell l row .stage).toList) = some (negative, digits) ∧
    Number.maxDigits < digits.length

/-- The condition of a row is refused for a regular expression that has nothing wrong with its form. -/
def ExcessivePattern (l : Layout) (row : List String) : Prop :=
  ∃ text e, Condition.parse (cell l row .conditions) = .error (.pattern text (.regex e)) ∧
    Condition.Excess (cell l row .conditions).toList e

/-- What a row holds that is refused without words; all that is read before it is in order. -/
structure OutOfBounds (l : Layout) (row : List String) : Prop where
  destination : ∃ d, readDestination (cell l row .moveTo) = .ok d
  followUp : ∃ f, readFollowUp (cell l row .followUp) = .ok f
  excess : LongStage l row ∨ (¬ LongStage l row ∧ ExcessivePattern l row)

variable {l : Layout} {row : List String} {before rows : List (List String)} {parents : Bool}
  {number : Nat} {x : RowError}

theorem readStage_eq_error_iff {unnumbered : Int} {text : String} {e : CellError} :
    readStage unnumbered text = .error e ↔ e = .numberTooLong ∧
      ∃ negative digits, leadingInt? (Text.trim text.toList) = some (negative, digits) ∧
        Number.maxDigits < digits.length := by
  unfold readStage
  cases leadingInt? (Text.trim text.toList) with
  | none => simp
  | some p =>
    obtain ⟨negative, digits⟩ := p
    by_cases h : Number.maxDigits < digits.length
    · simp [h, eq_comm]
    · simp [h]

theorem longStage_iff : LongStage l row ↔ ∃ e, readStage lastStage (cell l row .stage) = .error e := by
  simp only [readStage_eq_error_iff, exists_eq_left, LongStage]

theorem message?_ne_none_of_readDestination {text : String} {e : CellError} (h : readDestination text = .error e) :
    e.message? ≠ none := by
  simp only [readDestination] at h
  split at h
  · cases h
  · split at h <;> cases h
    simp [CellError.message?]

theorem message?_ne_none_of_readFollowUp {text : String} {e : CellError} (h : readFollowUp text = .error e) :
    e.message? ≠ none := by
  simp only [readFollowUp] at h
  split at h
  · cases h
  · split at h <;> cases h
    simp [CellError.message?]

/-- Why a row is refused. Its cells are read in a fixed order, of which the first that cannot be read
counts. -/
inductive Refuses (l : Layout) (row : List String) : RowError → Prop
  | destination {e : CellError} (h : readDestination (cell l row .moveTo) = .error e) :
      Refuses l row (.cell e)
  | followUp {d : Destination} {e : CellError} (hd : readDestination (cell l row .moveTo) = .ok d)
      (h : readFollowUp (cell l row .followUp) = .error e) : Refuses l row (.cell e)
  | stage {d : Destination} {f : FollowUp} {e : CellError}
      (hd : readDestination (cell l row .moveTo) = .ok d)
      (hf : readFollowUp (cell l row .followUp) = .ok f)
      (h : readStage lastStage (cell l row .stage) = .error e) : Refuses l row (.cell e)
  | condition {d : Destination} {f : FollowUp} {n : Int} {e : ConditionError}
      (hd : readDestination (cell l row .moveTo) = .ok d)
      (hf : readFollowUp (cell l row .followUp) = .ok f)
      (hn : readStage lastStage (cell l row .stage) = .ok n)
      (h : Condition.parse (cell l row .conditions) = .error e) : Refuses l row (.condition e)

theorem ofRow_eq_error_iff : ofRow l parents row = .error x ↔ Refuses l row x := by
  constructor
  · intro h
    simp only [ofRow, liftCell, bind_eq_error_iff, mapError_eq_error_iff] at h
    obtain ⟨e, hd, rfl⟩ | ⟨d, hd, ⟨e, hf, rfl⟩ | ⟨f, hf, ⟨e, hn, rfl⟩ | ⟨n, hn, h⟩⟩⟩ := h
    · exact .destination hd
    · exact .followUp (eq_ok_of_mapError hd) hf
    · exact .stage (eq_ok_of_mapError hd) (eq_ok_of_mapError hf) hn
    obtain ⟨e, hc, rfl⟩ | ⟨c, -, h⟩ := h
    · exact .condition (eq_ok_of_mapError hd) (eq_ok_of_mapError hf) (eq_ok_of_mapError hn) hc
    · cases h
  · intro h
    cases h with
    | destination h => simp [ofRow, liftCell, h, Except.mapError, bind, Except.bind]
    | followUp hd h => simp [ofRow, liftCell, hd, h, Except.mapError, bind, Except.bind]
    | stage hd hf h => simp [ofRow, liftCell, hd, hf, h, Except.mapError, bind, Except.bind]
    | condition hd hf hn h => simp [ofRow, liftCell, hd, hf, hn, h, Except.mapError, bind, Except.bind]

theorem outOfBounds_of_refuses (h : Refuses l row x) (hwords : x.message? = none) : OutOfBounds l row := by
  cases h with
  | destination h => exact absurd hwords (message?_ne_none_of_readDestination h)
  | followUp hd h => exact absurd hwords (message?_ne_none_of_readFollowUp h)
  | stage hd hf h => exact ⟨⟨_, hd⟩, ⟨_, hf⟩, .inl (longStage_iff.mpr ⟨_, h⟩)⟩
  | condition hd hf hn h =>
    have hlong : ¬ LongStage l row := by simp [longStage_iff, hn]
    obtain ⟨text, e, rfl⟩ := Condition.message?_eq_none_iff.mp hwords
    exact ⟨⟨_, hd⟩, ⟨_, hf⟩, .inr ⟨hlong, text, e, h, Condition.excess_of_parse h⟩⟩

/-- A row is refused without words just when it holds something out of bounds. -/
theorem ofRow_wordless_iff :
    (∃ e, ofRow l parents row = .error e ∧ e.message? = none) ↔ OutOfBounds l row := by
  refine ⟨fun ⟨e, he, hwords⟩ => outOfBounds_of_refuses (ofRow_eq_error_iff.mp he) hwords, ?_⟩
  rintro ⟨⟨d, hd⟩, ⟨f, hf⟩, hlong | ⟨hlong, text, e, hp, -⟩⟩
  · obtain ⟨e, hs⟩ := longStage_iff.mp hlong
    obtain ⟨rfl, -⟩ := readStage_eq_error_iff.mp hs
    exact ⟨.cell .numberTooLong, ofRow_eq_error_iff.mpr (.stage hd hf hs), rfl⟩
  · cases hs : readStage lastStage (cell l row .stage) with
    | error x => exact absurd (longStage_iff.mpr ⟨x, hs⟩) hlong
    | ok n =>
      exact ⟨.condition (.pattern text (.regex e)), ofRow_eq_error_iff.mpr (.condition hd hf hs hp), rfl⟩

/-- The first of some rows that is refused, and the rows before it, which are read as far as they are
enabled. -/
structure FirstRefused (l : Layout) (parents : Bool) (rows before : List (List String))
    (row : List String) (x : RowError) : Prop where
  rows_eq : ∃ after, rows = before ++ row :: after
  read : ∀ r ∈ before, isEnabled l r → ∃ rule, ofRow l parents r = .ok rule
  enabled : isEnabled l row
  refused : ofRow l parents row = .error x

theorem FirstRefused.cons {r : List String} (h : FirstRefused l parents rows before row x)
    (hr : isEnabled l r → ∃ rule, ofRow l parents r = .ok rule) :
    FirstRefused l parents (r :: rows) (r :: before) row x where
  rows_eq := by
    obtain ⟨after, rfl⟩ := h.rows_eq
    exact ⟨after, rfl⟩
  read := List.forall_mem_cons.mpr ⟨hr, h.read⟩
  enabled := h.enabled
  refused := h.refused

theorem FirstRefused.ofRows_eq (h : FirstRefused l parents rows before row x) (number : Nat) :
    ofRows l parents number rows = .error (.row (number + before.length) x) := by
  obtain ⟨⟨after, rfl⟩, hread, he, hx⟩ := h
  induction before generalizing number with
  | nil => simp [ofRows, he, hx]
  | cons r before ih =>
    obtain ⟨hr, hrest⟩ := List.forall_mem_cons.mp hread
    have hstep := ih (number + 1) hrest
    rw [Nat.add_right_comm, Nat.add_assoc] at hstep
    rw [List.cons_append, ofRows]
    by_cases hr' : isEnabled l r
    · obtain ⟨rule, hrule⟩ := hr hr'
      simp [hr', hrule, hstep, bind, Except.bind]
    · simpa [hr'] using hstep

theorem exists_firstRefused {e : TableError} (h : ofRows l parents number rows = .error e) :
    ∃ before row x, FirstRefused l parents rows before row x ∧
      e = .row (number + before.length) x := by
  induction rows generalizing number with
  | nil => cases h
  | cons r rows ih =>
    have hlater (hr : isEnabled l r → ∃ rule, ofRow l parents r = .ok rule)
        (hrows : ofRows l parents (number + 1) rows = .error e) : ∃ before row x,
          FirstRefused l parents (r :: rows) before row x ∧ e = .row (number + before.length) x := by
      obtain ⟨before, row, x, hfirst, rfl⟩ := ih hrows
      refine ⟨r :: before, row, x, hfirst.cons hr, ?_⟩
      simp only [List.length_cons, TableError.row.injEq, and_true]
      omega
    rw [ofRows] at h
    by_cases hr : isEnabled l r
    · cases hx : ofRow l parents r with
      | error x =>
        obtain rfl : .row number x = e := by simpa [hr, hx] using h
        exact ⟨[], r, x, ⟨⟨rows, rfl⟩, by simp, hr, hx⟩, rfl⟩
      | ok rule =>
        simp only [hr, hx, if_true] at h
        exact hlater (fun _ => ⟨rule, hx⟩) (error_of_bind_pure h)
    · simp only [hr] at h
      exact hlater (fun he => absurd he hr) h

theorem message?_ne_none_of_layoutFrom {index : Nat} {header : List String} {e : TableError}
    (h : layoutFrom index l header = .error e) : e.message? ≠ none := by
  induction header generalizing index l with
  | nil => cases h
  | cons s header ih =>
    rw [layoutFrom] at h
    split at h
    · cases h
      simp [TableError.message?]
    · exact ih h

theorem message?_ne_none_of_layout {header : List String} {e : TableError} (h : layout header = .error e) :
    e.message? ≠ none := by
  unfold layout at h
  cases hl : layoutFrom 0 (fun _ => none) header with
  | error e' =>
    obtain rfl : e' = e := by simpa [hl, bind, Except.bind] using h
    exact message?_ne_none_of_layoutFrom hl
  | ok l =>
    simp only [hl, bind, Except.bind] at h
    split at h
    · cases h
    · cases h
      simp [TableError.message?]

theorem not_answered_iff : ¬ Answered parents rows ↔
    ∃ e, numberedRules parents rows = .error e ∧ e.message? = none := by
  unfold Answered ofTable
  cases numberedRules parents rows with
  | ok rules => simp [bind, Except.bind, pure, Except.pure]
  | error e => cases h : e.message? <;> simp [bind, Except.bind, h]

/-- A table is read or refused in words just when its first refused row holds nothing out of bounds. -/
theorem answered_iff : Answered parents rows ↔
    ∀ header body l before row x, rows = header :: body → layout header = .ok l →
      FirstRefused l parents body before row x → ¬ OutOfBounds l row := by
  constructor
  · rintro h header body l before row x rfl hl hfirst hout
    obtain ⟨y, hy, hwords⟩ := ofRow_wordless_iff.mpr hout
    obtain rfl : x = y := Except.error.inj (hfirst.refused.symm.trans hy)
    refine not_answered_iff.mpr ⟨.row (2 + before.length) x, ?_, by simp [TableError.message?, hwords]⟩ h
    simpa [numberedRules, hl, bind, Except.bind] using hfirst.ofRows_eq 2
  · intro h
    by_contra hnot
    obtain ⟨e, hrules, hwords⟩ := not_answered_iff.mp hnot
    cases rows with
    | nil => cases hrules
    | cons header body =>
      cases hl : layout header with
      | error e' =>
        obtain rfl : e' = e := by simpa [numberedRules, hl, bind, Except.bind] using hrules
        exact message?_ne_none_of_layout hl hwords
      | ok l =>
        have hrows : ofRows l parents 2 body = .error e := by
          simpa [numberedRules, hl, bind, Except.bind] using hrules
        obtain ⟨before, row, x, hfirst, rfl⟩ := exists_firstRefused hrows
        have hnone : x.message? = none := by simpa [TableError.message?] using hwords
        exact h header body l before row x rfl hl hfirst
          (outOfBounds_of_refuses (ofRow_eq_error_iff.mp hfirst.refused) hnone)

/-- A condition that asks for more repetitions than there may be. -/
def overcounted : String :=
  "(subject /a\x7b4294967295\x7d/)"

theorem not_answered_of_overcounted :
    ¬ Answered false [Column.every.map Column.name, [overcounted]] := by
  have h : (do return (fun _ => ()) (← numberedRules false [Column.every.map Column.name, [overcounted]])) =
      .error (.row 2 (.condition (.pattern overcounted (.regex .repetitionTooLarge)))) := by
    decide +kernel
  exact not_answered_iff.mpr ⟨_, error_of_bind_pure h, rfl⟩

end MailTriage.Rule
