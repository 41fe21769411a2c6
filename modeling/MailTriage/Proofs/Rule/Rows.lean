import MailTriage.Proofs.Except
import MailTriage.Proofs.Rule.Columns
import MailTriage.Proofs.Stages

namespace MailTriage.Rule

/-- Rules in ascending order of their stages, where those of a stage keep the order that they had. -/
structure StablySorted (rules sorted : List Rule) : Prop where
  ascending : Sorted sorted
  kept : ∀ s, inStage sorted s = inStage rules s

section Sorting

variable {rules rules' sorted sorted' : List Rule} {s : Int}

theorem inStage_append (rules rules' : List Rule) (s : Int) :
    inStage (rules ++ rules') s = inStage rules s ++ inStage rules' s :=
  List.filter_append rules rules'

theorem mem_inStage {r : Rule} : r ∈ inStage rules s ↔ r ∈ rules ∧ r.stage = s := by
  simp [inStage]

theorem stablySorted_sortByStage (rules : List Rule) : StablySorted rules (sortByStage rules) where
  ascending := sorted_sortByStage rules
  kept := inStage_sortByStage rules

theorem StablySorted.congr (h : StablySorted rules sorted) (hr : ∀ s, inStage rules s = inStage rules' s) :
    StablySorted rules' sorted where
  ascending := h.ascending
  kept s := (h.kept s).trans (hr s)

theorem StablySorted.mem_iff (h : StablySorted rules sorted) {r : Rule} : r ∈ sorted ↔ r ∈ rules := by
  have hkept := congrArg (r ∈ ·) (h.kept r.stage)
  simpa [mem_inStage] using hkept

/-- A stable sort leaves no choice: the stages follow one another, each with its rules in their order. -/
theorem StablySorted.unique (h : StablySorted rules sorted) (h' : StablySorted rules sorted') :
    sorted = sorted' := by
  have hgroups {l : List Rule} (hl : StablySorted rules l) :
      l = ((rules.map (·.stage)).toFinset.sort (· ≤ ·)).flatMap (inStage rules) := by
    have hmem : ∀ r ∈ l, r.stage ∈ (rules.map (·.stage)).toFinset.sort (· ≤ ·) := by
      intro r hr
      simpa using ⟨r, hl.mem_iff.1 hr, rfl⟩
    rw [eq_flatMap_inStage hl.ascending (Finset.sortedLT_sort _).pairwise hmem]
    exact List.flatMap_congr fun s _ => hl.kept s
  exact (hgroups h).trans (hgroups h').symm

theorem StablySorted.eq_sortByStage (h : StablySorted rules sorted) : sorted = sortByStage rules :=
  h.unique (stablySorted_sortByStage rules)

theorem sortByStage_of_sorted (h : Sorted rules) : sortByStage rules = rules :=
  (StablySorted.eq_sortByStage ⟨h, fun _ => rfl⟩).symm

end Sorting

/-- All rows of a table are read that are not passed over. -/
def Readable (l : Layout) (parents : Bool) (rows : List (List String)) : Prop :=
  ∀ row ∈ rows, isEnabled l row → ∃ r, ofRow l parents row = .ok r

/-- The rule of a row, if it is not passed over and nothing is wrong with it. -/
def ruleOf? (l : Layout) (parents : Bool) (row : List String) : Option Rule :=
  if isEnabled l row then (ofRow l parents row).toOption else none

def rulesOf (l : Layout) (parents : Bool) (rows : List (List String)) : List Rule :=
  rows.filterMap (ruleOf? l parents)

/-- The enabled rows of a stage. -/
def rowsInStage (l : Layout) (rows : List (List String)) (s : Int) : List (List String) :=
  rows.filter fun row => isEnabled l row ∧ readStage lastStage (cell l row .stage) = .ok s

section Rows

variable {l : Layout} {parents : Bool} {row header : List String} {rows rows' : List (List String)}
  {number : Nat} {r : Rule} {rules : List Rule}

instance : Decidable (Readable l parents rows) :=
  decidable_of_iff (∀ row ∈ rows, isEnabled l row → (ofRow l parents row).isOk) <| by
    refine forall₃_congr fun row _ _ => ?_
    cases ofRow l parents row <;> simp [Except.isOk, Except.toBool]

theorem ruleOf?_eq_some_iff : ruleOf? l parents row = some r ↔
    isEnabled l row ∧ ofRow l parents row = .ok r := by
  unfold ruleOf?
  cases ofRow l parents row <;> simp [Except.toOption]

theorem mem_rulesOf : r ∈ rulesOf l parents rows ↔
    ∃ row ∈ rows, isEnabled l row ∧ ofRow l parents row = .ok r := by
  simp only [rulesOf, List.mem_filterMap, ruleOf?_eq_some_iff]

theorem rulesOf_append (rows rows' : List (List String)) :
    rulesOf l parents (rows ++ rows') = rulesOf l parents rows ++ rulesOf l parents rows' :=
  List.filterMap_append

theorem Readable.append (h : Readable l parents rows) (h' : Readable l parents rows') :
    Readable l parents (rows ++ rows') :=
  List.forall_mem_append.2 ⟨h, h'⟩

theorem readable_filter_iff : Readable l parents (rows.filter (isEnabled l)) ↔ Readable l parents rows := by
  simp only [Readable, List.mem_filter]
  exact forall_congr' fun row => ⟨fun h hr he => h ⟨hr, he⟩ he, fun h hr he => h hr.1 he⟩

theorem rulesOf_filter (rows : List (List String)) :
    rulesOf l parents (rows.filter (isEnabled l)) = rulesOf l parents rows := by
  rw [rulesOf, List.filterMap_filter]
  refine List.filterMap_congr fun row _ => ?_
  unfold ruleOf?
  split_ifs <;> rfl

theorem readStage_of_ofRow (h : ofRow l parents row = .ok r) :
    readStage lastStage (cell l row .stage) = .ok r.stage := by
  obtain ⟨moveTo, -, h⟩ := exists_of_bind h
  obtain ⟨followUp, -, h⟩ := exists_of_bind h
  obtain ⟨stage, hstage, h⟩ := exists_of_bind h
  obtain ⟨condition, -, h⟩ := exists_of_bind h
  cases h
  exact eq_ok_of_mapError hstage

theorem inStage_rulesOf (rows : List (List String)) (s : Int) :
    inStage (rulesOf l parents rows) s = rulesOf l parents (rowsInStage l rows s) := by
  rw [inStage, rulesOf, rulesOf, rowsInStage, List.filter_filterMap, List.filterMap_filter]
  refine List.filterMap_congr fun row _ => ?_
  cases h : ruleOf? l parents row with
  | none => simp
  | some r =>
    obtain ⟨he, hr⟩ := ruleOf?_eq_some_iff.1 h
    simp [Option.filter, he, readStage_of_ofRow hr]

theorem ofRows_of_readable (h : Readable l parents rows) (number : Nat) :
    ∃ numbered, ofRows l parents number rows = .ok numbered ∧
      numbered.map (·.2) = rulesOf l parents rows := by
  induction rows generalizing number with
  | nil => exact ⟨[], rfl, rfl⟩
  | cons row rows ih =>
    obtain ⟨hrow, hrows⟩ := List.forall_mem_cons.1 h
    obtain ⟨numbered, hnumbered, hrules⟩ := ih hrows (number + 1)
    rw [ofRows, rulesOf, List.filterMap_cons]
    by_cases he : isEnabled l row
    · obtain ⟨r, hr⟩ := hrow he
      refine ⟨(number, r) :: numbered, ?_, ?_⟩
      · simp [he, hr, hnumbered, bind, Except.bind, pure, Except.pure]
      · rw [ruleOf?_eq_some_iff.2 ⟨he, hr⟩, List.map_cons, hrules]
        rfl
    · have hnone : ruleOf? l parents row = none := by simp [ruleOf?, he]
      refine ⟨numbered, by simpa [he] using hnumbered, ?_⟩
      rw [hnone]
      exact hrules

theorem readable_of_ofRows {numbered : List (Nat × Rule)} (h : ofRows l parents number rows = .ok numbered) :
    Readable l parents rows := by
  induction rows generalizing number numbered with
  | nil => simp [Readable]
  | cons row rows ih =>
    rw [ofRows] at h
    refine List.forall_mem_cons.2 ?_
    by_cases he : isEnabled l row
    · cases hr : ofRow l parents row with
      | error x => simp [he, hr] at h
      | ok r =>
        simp only [he, hr, if_true] at h
        obtain ⟨rest, hrows, -⟩ := exists_of_bind h
        exact ⟨fun _ => ⟨r, rfl⟩, ih hrows⟩
    · exact ⟨fun h => absurd h he, ih (by simpa [he] using h)⟩

/-- A table is read if all its enabled rows are, and then its rules are those of the rows, sorted. -/
theorem ofTable_eq_ok_iff (hl : layout header = .ok l) : ofTable parents (header :: rows) = .ok rules ↔
    Readable l parents rows ∧ StablySorted (rulesOf l parents rows) rules := by
  have hnumbered : numberedRules parents (header :: rows) = ofRows l parents 2 rows := by
    simp [numberedRules, hl, bind, Except.bind]
  constructor
  · intro h
    obtain ⟨numbered, hrows, h⟩ := exists_of_bind h
    rw [hnumbered] at hrows
    have hread := readable_of_ofRows hrows
    obtain ⟨numbered', hrows', hrules⟩ := ofRows_of_readable hread 2
    cases hrows.symm.trans hrows'
    cases h
    exact ⟨hread, hrules ▸ stablySorted_sortByStage _⟩
  · rintro ⟨hread, hsorted⟩
    obtain ⟨numbered, hrows, hrules⟩ := ofRows_of_readable hread 2
    rw [ofTable, hnumbered, hrows, hsorted.eq_sortByStage, ← hrules]
    rfl

theorem Readable.perm (h : Readable l parents rows) (hp : rows'.Perm rows) : Readable l parents rows' :=
  fun row hrow => h row (hp.mem_iff.1 hrow)

/-- Which enabled rows a table has, and in which order, is all that its rules depend on. -/
theorem ofTable_of_filter_eq (hl : layout header = .ok l) (h : ofTable parents (header :: rows) = .ok rules)
    (hrows : rows'.filter (isEnabled l) = rows.filter (isEnabled l)) :
    ofTable parents (header :: rows') = .ok rules := by
  rw [ofTable_eq_ok_iff hl, ← readable_filter_iff, ← rulesOf_filter] at h ⊢
  rwa [hrows]

theorem ofTable_of_perm (hl : layout header = .ok l) (h : ofTable parents (header :: rows) = .ok rules)
    (hp : rows'.Perm rows) (hstages : ∀ s, rowsInStage l rows' s = rowsInStage l rows s) :
    ofTable parents (header :: rows') = .ok rules := by
  rw [ofTable_eq_ok_iff hl] at h ⊢
  obtain ⟨hread, hsorted⟩ := h
  refine ⟨hread.perm hp, hsorted.congr fun s => ?_⟩
  rw [inStage_rulesOf, inStage_rulesOf, hstages s]

/-- Two tables with the same header are put together by sorting the rules of the first and the second,
one behind the other. Sorting once more changes nothing; neither do rows that are passed over, wherever they
are put in or left out, nor an order of the rows that leaves those of a stage as they were. -/
theorem ofTable_append {rows₁ rows₂ : List (List String)} (hl : layout header = .ok l)
    (h₁ : Readable l parents rows₁) (h₂ : Readable l parents rows₂) :
    ∃ rules₁ rules₂ rules,
      ofTable parents (header :: rows₁) = .ok rules₁ ∧
      ofTable parents (header :: rows₂) = .ok rules₂ ∧
      ofTable parents (header :: (rows₁ ++ rows₂)) = .ok rules ∧
      StablySorted (rules₁ ++ rules₂) rules ∧ sortByStage rules = rules ∧
      (∀ rows, rows.filter (isEnabled l) = (rows₁ ++ rows₂).filter (isEnabled l) →
        ofTable parents (header :: rows) = .ok rules) ∧
      ∀ rows, rows.Perm (rows₁ ++ rows₂) →
        (∀ s, rowsInStage l rows s = rowsInStage l (rows₁ ++ rows₂) s) →
        ofTable parents (header :: rows) = .ok rules := by
  have hsorted₁ := stablySorted_sortByStage (rulesOf l parents rows₁)
  have hsorted₂ := stablySorted_sortByStage (rulesOf l parents rows₂)
  have hsorted := stablySorted_sortByStage (rulesOf l parents (rows₁ ++ rows₂))
  have htable : ofTable parents (header :: (rows₁ ++ rows₂)) = .ok _ :=
    (ofTable_eq_ok_iff hl).2 ⟨h₁.append h₂, hsorted⟩
  refine ⟨_, _, _, (ofTable_eq_ok_iff hl).2 ⟨h₁, hsorted₁⟩, (ofTable_eq_ok_iff hl).2 ⟨h₂, hsorted₂⟩,
    htable, hsorted.congr fun s => ?_, sortByStage_of_sorted hsorted.ascending,
    fun rows hrows => ofTable_of_filter_eq hl htable hrows,
    fun rows hp hstages => ofTable_of_perm hl htable hp hstages⟩
  rw [rulesOf_append, inStage_append, inStage_append, hsorted₁.kept, hsorted₂.kept]

/-- A row of stage 20, and one that is passed over although nothing in it can be read. -/
def lateRows : List (List String) :=
  [["(subject a)", "", "", "", "", "20"], ["(broken", "", "nowhere", "", "", "x", "", "yes"]]

def earlyRows : List (List String) :=
  [["(subject b)", "", "", "", "", "-5x"], ["(subject c)", "", "", "", "", "+20"]]

theorem ofTable_append_of_disabled :
    layout (Column.every.map Column.name) = .ok plainLayout ∧
      Readable plainLayout false lateRows ∧ Readable plainLayout false earlyRows ∧
      ∃ rules, ofTable false (Column.every.map Column.name :: (lateRows ++ earlyRows)) = .ok rules ∧
        ofTable false (Column.every.map Column.name :: (lateRows.take 1 ++ earlyRows)) = .ok rules ∧
        sortByStage rules = rules := by
  have hlate : Readable plainLayout false lateRows := by decide +kernel
  have hearly : Readable plainLayout false earlyRows := by decide +kernel
  obtain ⟨-, -, rules, -, -, htable, -, hsorted, hpassed, -⟩ := ofTable_append layout_plain hlate hearly
  exact ⟨layout_plain, hlate, hearly, rules, htable, hpassed _ (by decide +kernel), hsorted⟩

end Rows

end MailTriage.Rule
