import MailTriage.Proofs.Rule.Refusal
import MailTriage.Proofs.Rule.Rows

namespace MailTriage.Rule

/-- A cell that is not empty and holds none of the words for it, letter case left aside. -/
def IsUnknown (words : List String) (cell : String) : Prop :=
  cell ≠ "" ∧ upperCase cell ∉ words

def destinationWords : List String :=
  Destination.every.map (·.capitals)

def followUpWords : List String :=
  FollowUp.every.map (·.capitals)

/-- A row with a word that is unknown, or with a condition that cannot be read. -/
def IsFaulty (l : Layout) (row : List String) : Prop :=
  IsUnknown destinationWords (cell l row .moveTo) ∨ IsUnknown followUpWords (cell l row .followUp) ∨
    ∃ e, Condition.parse (cell l row .conditions) = .error e

/-- What is said of a faulty row. Of several faults one is reported: the destination before what follows,
and this before the condition. -/
inductive Complaint (l : Layout) (row : List String) : String → Prop
  | destination (h : IsUnknown destinationWords (cell l row .moveTo)) :
      Complaint l row ("Can't parse inbox action value " ++ cell l row .moveTo ++ ".")
  | followUp (hd : ¬ IsUnknown destinationWords (cell l row .moveTo))
      (h : IsUnknown followUpWords (cell l row .followUp)) :
      Complaint l row ("Can't parse action_after_match value " ++ cell l row .followUp ++ ".")
  | condition {e : ConditionError} {words : String}
      (hd : ¬ IsUnknown destinationWords (cell l row .moveTo))
      (hf : ¬ IsUnknown followUpWords (cell l row .followUp))
      (h : Condition.parse (cell l row .conditions) = .error e) (hwords : e.message? = some words) :
      Complaint l row words

variable {l : Layout} {row header : List String} {rows before : List (List String)} {parents : Bool}
  {x : RowError} {words text : String} {c : Column}

instance (words : List String) (cell : String) : Decidable (IsUnknown words cell) :=
  inferInstanceAs (Decidable (_ ∧ _))

theorem trimmed_cell (l : Layout) (row : List String) (c : Column) :
    trimmed (cell l row c) = cell l row c := by
  unfold cell
  split
  · exact trimmed_trimmed _
  · decide

theorem isUnknown_map_iff {α : Type} {values : List α} {word : α → String} :
    IsUnknown (values.map word) text ↔
      text.isEmpty = false ∧ values.find? (word · == upperCase text) = none := by
  rw [IsUnknown, List.find?_eq_none]
  simp

theorem readDestination_eq_error_iff {e : CellError} :
    readDestination (cell l row .moveTo) = .error e ↔
      IsUnknown destinationWords (cell l row .moveTo) ∧ .unknownDestination (cell l row .moveTo) = e := by
  rw [destinationWords, isUnknown_map_iff]
  simp only [readDestination, trimmed_cell]
  cases (cell l row .moveTo).isEmpty
  · cases Destination.every.find? _ <;> simp
  · simp

theorem readFollowUp_eq_error_iff {e : CellError} : readFollowUp (cell l row .followUp) = .error e ↔
    IsUnknown followUpWords (cell l row .followUp) ∧ .unknownFollowUp (cell l row .followUp) = e := by
  rw [followUpWords, isUnknown_map_iff]
  simp only [readFollowUp, trimmed_cell]
  cases (cell l row .followUp).isEmpty
  · cases FollowUp.every.find? _ <;> simp
  · simp

theorem not_isUnknown_of_readDestination {d : Destination}
    (h : readDestination (cell l row .moveTo) = .ok d) :
    ¬ IsUnknown destinationWords (cell l row .moveTo) :=
  not_of_eq_ok (fun _ => readDestination_eq_error_iff) h

theorem not_isUnknown_of_readFollowUp {f : FollowUp} (h : readFollowUp (cell l row .followUp) = .ok f) :
    ¬ IsUnknown followUpWords (cell l row .followUp) :=
  not_of_eq_ok (fun _ => readFollowUp_eq_error_iff) h

theorem Refuses.complaint (h : Refuses l row x) (hwords : x.message? = some words) :
    Complaint l row words := by
  cases h with
  | destination h =>
    obtain ⟨hunknown, rfl⟩ := readDestination_eq_error_iff.1 h
    cases hwords
    exact .destination hunknown
  | followUp hd h =>
    obtain ⟨hunknown, rfl⟩ := readFollowUp_eq_error_iff.1 h
    cases hwords
    exact .followUp (not_isUnknown_of_readDestination hd) hunknown
  | stage hd hf h =>
    obtain ⟨rfl, -⟩ := readStage_eq_error_iff.1 h
    cases hwords
  | condition hd hf hn h =>
    exact .condition (not_isUnknown_of_readDestination hd) (not_isUnknown_of_readFollowUp hf) h hwords

theorem Complaint.isFaulty (h : Complaint l row words) : IsFaulty l row := by
  cases h with
  | destination h => exact .inl h
  | followUp hd h => exact .inr (.inl h)
  | condition hd hf h hwords => exact .inr (.inr ⟨_, h⟩)

theorem IsFaulty.exists_refuses (h : IsFaulty l row) : ∃ x, Refuses l row x := by
  cases hd : readDestination (cell l row .moveTo) with
  | error e => exact ⟨_, .destination hd⟩
  | ok d =>
    cases hf : readFollowUp (cell l row .followUp) with
    | error e => exact ⟨_, .followUp hd hf⟩
    | ok f =>
      cases hn : readStage lastStage (cell l row .stage) with
      | error e => exact ⟨_, .stage hd hf hn⟩
      | ok n =>
        obtain hunknown | hunknown | ⟨e, hc⟩ := h
        · exact absurd hunknown (not_isUnknown_of_readDestination hd)
        · exact absurd hunknown (not_isUnknown_of_readFollowUp hf)
        · exact ⟨_, .condition hd hf hn hc⟩

theorem exists_complaint (h : ofRow l parents row = .error x) (hwords : x.message? ≠ none) :
    ∃ words, x.message? = some words ∧ Complaint l row words := by
  obtain ⟨words, hwords⟩ := Option.ne_none_iff_exists'.1 hwords
  exact ⟨words, hwords, (ofRow_eq_error_iff.1 h).complaint hwords⟩

theorem not_isFaulty_of_ofRow {r : Rule} (h : ofRow l parents row = .ok r) : ¬ IsFaulty l row := by
  intro hfaulty
  obtain ⟨x, hx⟩ := hfaulty.exists_refuses
  rw [ofRow_eq_error_iff.2 hx] at h
  cases h

theorem exists_ofRow_iff (hwords : ∀ x, ofRow l parents row = .error x → x.message? ≠ none) :
    (∃ r, ofRow l parents row = .ok r) ↔ ¬ IsFaulty l row := by
  refine ⟨fun ⟨r, hr⟩ => not_isFaulty_of_ofRow hr, fun hsound => ?_⟩
  cases hx : ofRow l parents row with
  | ok r => exact ⟨r, rfl⟩
  | error x =>
    obtain ⟨words, -, hcomplaint⟩ := exists_complaint hx (hwords x hx)
    exact absurd hcomplaint.isFaulty hsound

/-- No enabled row of a table is refused without words. -/
def RefusedInWords (l : Layout) (parents : Bool) (rows : List (List String)) : Prop :=
  ∀ row ∈ rows, isEnabled l row → ∀ x, ofRow l parents row = .error x → x.message? ≠ none

instance : Decidable (RefusedInWords l parents rows) :=
  decidable_of_iff (∀ row ∈ rows, isEnabled l row →
      (match ofRow l parents row with
        | .ok _ => true
        | .error x => x.message?.isSome) = true) <| by
    refine forall₃_congr fun row _ _ => ?_
    cases ofRow l parents row <;> simp [Option.isSome_iff_ne_none]

theorem readable_iff (hwords : RefusedInWords l parents rows) :
    Readable l parents rows ↔ ∀ row ∈ rows, isEnabled l row → ¬ IsFaulty l row :=
  forall₃_congr fun row hrow he => exists_ofRow_iff (hwords row hrow he)

theorem ofTable_eq_error_of_firstRefused (hl : layout header = .ok l)
    (h : FirstRefused l parents rows before row x) :
    ofTable parents (header :: rows) = .error (.row (2 + before.length) x) := by
  simp [ofTable, numberedRules, hl, h.ofRows_eq 2, bind, Except.bind]

theorem length_rulesOf (h : Readable l parents rows) :
    (rulesOf l parents rows).length = rows.countP (isEnabled l) := by
  induction rows with
  | nil => rfl
  | cons row rows ih =>
    obtain ⟨hrow, hrows⟩ := List.forall_mem_cons.1 h
    rw [rulesOf, List.filterMap_cons, List.countP_cons, ← ih hrows]
    by_cases he : isEnabled l row
    · obtain ⟨r, hr⟩ := hrow he
      rw [ruleOf?_eq_some_iff.2 ⟨he, hr⟩, if_pos he]
      rfl
    · have hnone : ruleOf? l parents row = none := by simp [ruleOf?, he]
      rw [hnone, if_neg he]
      rfl

theorem StablySorted.length_eq {rules sorted : List Rule} (h : StablySorted rules sorted) :
    sorted.length = rules.length := by
  rw [h.eq_sortByStage]
  exact List.length_mergeSort rules

/-- A table is refused just when one of its enabled rows is faulty. The first of these is named by its number,
where the header is number 1, and what is said of it is its own complaint, whatever rows come before and after
it. Otherwise each enabled row gives one rule. -/
theorem ofTable_faulty_iff (hl : layout header = .ok l) (hwords : RefusedInWords l parents rows) :
    ((∃ e, ofTable parents (header :: rows) = .error e) ↔
      ∃ row ∈ rows, isEnabled l row ∧ IsFaulty l row) ∧
    (∀ before row after, rows = before ++ row :: after → isEnabled l row → IsFaulty l row →
      (∀ r ∈ before, isEnabled l r → ¬ IsFaulty l r) →
      ∃ e words, ofTable parents (header :: rows) = .error e ∧ Complaint l row words ∧
        e.message? = some ("Rule in row " ++ toString (before.length + 2) ++ ": " ++ words)) ∧
    ∀ rules, ofTable parents (header :: rows) = .ok rules → rules.length = rows.countP (isEnabled l) := by
  refine ⟨?_, ?_, fun rules h => ?_⟩
  · have hok : (∃ rules, ofTable parents (header :: rows) = .ok rules) ↔ Readable l parents rows := by
      simp only [ofTable_eq_ok_iff hl]
      exact ⟨fun ⟨_, h, _⟩ => h, fun h => ⟨_, h, stablySorted_sortByStage _⟩⟩
    have herror : (∃ e, ofTable parents (header :: rows) = .error e) ↔
        ¬ ∃ rules, ofTable parents (header :: rows) = .ok rules := by
      cases ofTable parents (header :: rows) <;> simp
    rw [herror, hok, readable_iff hwords]
    push Not
    rfl
  · rintro before row after rfl he hfaulty hbefore
    obtain ⟨hread, hrow⟩ := List.forall_mem_append.1 hwords
    obtain ⟨x, hx⟩ := hfaulty.exists_refuses
    have hrefused : ofRow l parents row = .error x := ofRow_eq_error_iff.2 hx
    have hfirst : FirstRefused l parents (before ++ row :: after) before row x :=
      ⟨⟨after, rfl⟩, (readable_iff hread).2 hbefore, he, hrefused⟩
    obtain ⟨words, hx, hcomplaint⟩ := exists_complaint hrefused (hrow row List.mem_cons_self he x hrefused)
    refine ⟨_, words, ofTable_eq_error_of_firstRefused hl hfirst, hcomplaint, ?_⟩
    rw [TableError.message?, hx, Nat.add_comm]
    rfl
  · obtain ⟨hread, hsorted⟩ := (ofTable_eq_ok_iff hl).1 h
    rw [hsorted.length_eq, length_rulesOf hread]

/-- A disabled row with faults, one without cells, one that is read, and two faulty ones, of which the first has
three faults. -/
def faultyRows : List (List String) :=
  [["(broken", "", "nowhere", "", "", "", "", "yes"], [], ["(subject a)", "x"],
    ["(broken", "", " \tSomewhere", "", "", "", "", "no", "later"], ["(made_up x)"]]

theorem ofTable_faulty_iff_of_mixed :
    layout (Column.every.map Column.name) = .ok plainLayout ∧
      RefusedInWords plainLayout true faultyRows ∧
      ∃ e words, ofTable true (Column.every.map Column.name :: faultyRows) = .error e ∧
        Complaint plainLayout (faultyRows.getD 3 []) words ∧
        e.message? = some ("Rule in row " ++ toString 5 ++ ": " ++ words) := by
  have hwords : RefusedInWords plainLayout true faultyRows := by decide +kernel
  have hunknown : IsUnknown destinationWords (cell plainLayout (faultyRows.getD 3 []) .moveTo) := by
    decide +kernel
  have hread : Readable plainLayout true (faultyRows.take 3) := by decide +kernel
  have hsound : ∀ r ∈ faultyRows.take 3, isEnabled plainLayout r → ¬ IsFaulty plainLayout r := by
    intro r hr he
    obtain ⟨rule, hrule⟩ := hread r hr he
    exact not_isFaulty_of_ofRow hrule
  exact ⟨layout_plain, hwords, (ofTable_faulty_iff layout_plain hwords).2.1 (faultyRows.take 3) _ _ rfl
    (by decide +kernel) (.inl hunknown) hsound⟩

end MailTriage.Rule
