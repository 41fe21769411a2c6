import Mathlib.Data.Finset.Sort
import MailTriage.Rule.Evaluate

/-!
The pass over the sorted rules keeps two bounds, which every match moves. `stagewise` says the same
without bounds: the stages from 0 on are taken in ascending order, each as a group of its own.
`evaluate_eq_stagewise` is the equality of the two.
-/

namespace MailTriage.Rule

/-- The stages that rules lie in, ascending, those before stage 0 left out. -/
def stagesOf (rules : List Rule) : List Int :=
  ((rules.map (·.stage)).toFinset.filter (0 ≤ ·)).sort (· ≤ ·)

def inStage (rules : List Rule) (s : Int) : List Rule :=
  rules.filter (·.stage = s)

/-- A list up to the first element with a property, that one included. -/
def throughFirst {α : Type} (p : α → Bool) : List α → List α
  | [] => []
  | a :: l => if p a then [a] else a :: throughFirst p l

/-- Whether nothing more of its stage is run after a rule that matched. -/
def endsStage (r : Rule) : Bool :=
  r.action.followUp = .done || r.action.followUp = .nextStage

/-- The rules of a group that take effect: those that match, up to the first that ends the stage. -/
def taken (m : MessageView) (group : List Rule) : List Rule :=
  throughFirst endsStage (group.filter (·.isMet m))

/-- Whether the next stage is run: nothing matched, or the last rule taken asks for it. -/
def goesOn (taken : List Rule) : Bool :=
  taken.getLast?.all (·.action.followUp = .nextStage)

def stagewiseOver (m : MessageView) (rules : List Rule) : List Int → List Rule
  | [] => []
  | s :: stages =>
    let taken := taken m (inStage rules s)
    taken ++ if goesOn taken then stagewiseOver m rules stages else []

/-- The rules that a message meets, worked out stage by stage. -/
def stagewise (m : MessageView) (rules : List Rule) : List Rule :=
  stagewiseOver m rules (stagesOf rules)

section Group

variable {m : MessageView} {first first' s : Int} {last : Option Int} {group rest : List Rule}

theorem evaluateFrom_of_lt (hs : first ≤ s) (hr : ∀ r ∈ rest, s < r.stage) :
    (evaluateFrom m first (some s) none rest).1 = [] := by
  cases rest with
  | nil => rfl
  | cons r rest =>
    have h : s < r.stage := hr r List.mem_cons_self
    have hf : ¬ r.stage < first := by omega
    simp [evaluateFrom, hf, h]

theorem evaluateFrom_append (hg : ∀ r ∈ group, r.stage < first) :
    evaluateFrom m first last none (group ++ rest) = evaluateFrom m first last none rest := by
  induction group with
  | nil => rfl
  | cons r group ih =>
    rw [List.forall_mem_cons] at hg
    rw [List.cons_append, evaluateFrom, if_pos hg.1, ih hg.2]

theorem evaluateFrom_congr (h : ∀ r ∈ rest, first ≤ r.stage) (h' : ∀ r ∈ rest, first' ≤ r.stage) :
    evaluateFrom m first last none rest = evaluateFrom m first' last none rest := by
  induction rest generalizing last with
  | nil => rfl
  | cons r rest ih =>
    rw [List.forall_mem_cons] at h h'
    have hf : ¬ r.stage < first := by omega
    have hf' : ¬ r.stage < first' := by omega
    simp only [evaluateFrom, if_neg hf, if_neg hf', Option.map_none, ih h.2 h'.2]

theorem taken_cons_of_not_met {r : Rule} (h : ¬ r.isMet m) : taken m (r :: group) = taken m group := by
  simp [taken, h]

theorem taken_cons_of_ends {r : Rule} (h : r.isMet m) (he : endsStage r) :
    taken m (r :: group) = [r] := by
  simp [taken, throughFirst, h, he]

theorem taken_cons_of_not_ends {r : Rule} (h : r.isMet m) (he : ¬ endsStage r) :
    taken m (r :: group) = r :: taken m group := by
  simp [taken, throughFirst, h, he]

/-- Whether the last of some rules asks for the next stage, and `none` if there is no rule. -/
def asksOn (none : Bool) (l : List Rule) : Bool :=
  l.getLast?.elim none (·.action.followUp = .nextStage)

theorem asksOn_cons {r : Rule} {l : List Rule} (b : Bool) (h : r.action.followUp ≠ .nextStage) :
    asksOn b (r :: l) = asksOn false l := by
  cases l with
  | nil => simp [asksOn, h]
  | cons r' l => simp [asksOn, List.getLast?_cons]

theorem asksOn_true (l : List Rule) : asksOn true l = goesOn l := by
  cases h : l.getLast? <;> simp [asksOn, goesOn, h]

/-- What the pass makes of a stage and all that follows it. A pass that finishes the stage, because a
rule before has matched, goes on only if a later rule of the stage asks for it. -/
theorem evaluateFrom_group (hl : last = none ∨ last = some s) (hs : first ≤ s)
    (hg : ∀ r ∈ group, r.stage = s) (hr : ∀ r ∈ rest, s < r.stage) :
    (evaluateFrom m first last none (group ++ rest)).1 =
      taken m group ++
        if asksOn last.isNone (taken m group) then (evaluateFrom m first none none rest).1 else [] := by
  have hfirst : ∀ r ∈ rest, first ≤ r.stage := fun r h => by have := hr r h; omega
  have hnext : evaluateFrom m (s + 1) none none rest = evaluateFrom m first none none rest :=
    evaluateFrom_congr (fun r h => by have := hr r h; omega) hfirst
  -- The first match sets the upper bound, so the induction is for both values of it.
  induction group generalizing last with
  | nil =>
    obtain rfl | rfl := hl
    · simp [taken, throughFirst, asksOn]
    · simp [taken, throughFirst, asksOn, evaluateFrom_of_lt hs hr]
  | cons r group ih =>
    rw [List.forall_mem_cons] at hg
    obtain ⟨rfl, hg⟩ := hg
    have hf : ¬ r.stage < first := by omega
    have hb : ¬ last.any (· < r.stage) := by obtain rfl | rfl := hl <;> simp
    rw [List.cons_append, evaluateFrom, if_neg hf, if_neg hb]
    by_cases hm : r.isMet m
    · rw [if_pos hm]
      have hfinish := ih (.inr rfl) hg
      cases h : r.action.followUp with
      | done => simp [taken_cons_of_ends hm, endsStage, h, asksOn]
      | nextStage =>
        -- The rest of the group now lies before the first stage.
        have hskip : evaluateFrom m (r.stage + 1) none none (group ++ rest) =
            evaluateFrom m first none none rest := by
          rw [evaluateFrom_append (fun r' h => by have := hg r' h; omega), hnext]
        simp [taken_cons_of_ends hm, endsStage, h, asksOn, hskip]
      | finishStage | unset =>
        have he : ¬ endsStage r := by simp [endsStage, h]
        simp [taken_cons_of_not_ends hm he, asksOn_cons, h, hfinish]
    · rw [if_neg hm, taken_cons_of_not_met hm]
      exact ih hl hg

end Group

section Sorted

variable {rules : List Rule} {s : Int} {stages : List Int}

abbrev Sorted (rules : List Rule) : Prop :=
  rules.Pairwise (·.stage ≤ ·.stage)

theorem sorted_sortByStage (rules : List Rule) : Sorted (sortByStage rules) := by
  have h : (sortByStage rules).Pairwise fun a b => decide (a.stage ≤ b.stage) := List.pairwise_mergeSort
    (fun a b c hab hbc => by simp only [decide_eq_true_eq] at *; omega)
    (fun a b => by simp only [Bool.or_eq_true, decide_eq_true_eq]; omega) rules
  simpa [Sorted] using h

theorem mem_sortByStage {r : Rule} : r ∈ sortByStage rules ↔ r ∈ rules :=
  List.mem_mergeSort

theorem inStage_sortByStage (rules : List Rule) (s : Int) :
    inStage (sortByStage rules) s = inStage rules s := by
  have hperm : (inStage (sortByStage rules) s).Perm (inStage rules s) :=
    (List.mergeSort_perm rules _).filter _
  have hsub : (inStage rules s).Sublist (sortByStage rules) := by
    apply List.sublist_mergeSort
    · intro a b c hab hbc
      simp only [decide_eq_true_eq] at *
      omega
    · intro a b
      simp only [Bool.or_eq_true, decide_eq_true_eq]
      omega
    · refine List.pairwise_of_forall_mem_list ?_
      intro a ha b hb
      simp only [inStage, List.mem_filter, decide_eq_true_eq] at ha hb
      simp [ha.2, hb.2]
    · exact List.filter_sublist
  have h := hsub.filter fun r : Rule => decide (r.stage = s)
  rw [show (inStage rules s).filter (fun r : Rule => decide (r.stage = s)) = inStage rules s by
    simp [inStage]] at h
  exact (h.eq_of_length hperm.length_eq.symm).symm

/-- The first stage of sorted rules, and the rules after it. -/
theorem inStage_append_of_sorted (h : Sorted rules) (hs : ∀ r ∈ rules, s ≤ r.stage) :
    rules = inStage rules s ++ rules.filter (·.stage ≠ s) := by
  induction rules with
  | nil => rfl
  | cons r rules ih =>
    rw [List.forall_mem_cons] at hs
    rw [Sorted, List.pairwise_cons] at h
    by_cases hr : r.stage = s
    · simpa [inStage, hr] using ih h.2 hs.2
    · have hlt : ∀ r' ∈ r :: rules, r'.stage ≠ s := by
        rw [List.forall_mem_cons]
        refine ⟨hr, fun r' hr' => ?_⟩
        have := h.1 r' hr'
        omega
      rw [inStage, List.filter_eq_nil_iff.2 (by simpa using hlt),
        List.filter_eq_self.2 (by simpa using hlt)]
      rfl

theorem eq_flatMap_inStage (h : Sorted rules) (hs : stages.Pairwise (· < ·))
    (hmem : ∀ r ∈ rules, r.stage ∈ stages) : rules = stages.flatMap (inStage rules) := by
  induction stages generalizing rules with
  | nil =>
    cases rules with
    | nil => rfl
    | cons r rules => exact absurd (hmem r List.mem_cons_self) List.not_mem_nil
  | cons s stages ih =>
    rw [List.pairwise_cons] at hs
    have hle : ∀ r ∈ rules, s ≤ r.stage := fun r hr => by
      obtain h | h := List.mem_cons.1 (hmem r hr)
      · omega
      · have := hs.1 _ h
        omega
    have hrest : ∀ r ∈ rules.filter (·.stage ≠ s), r.stage ∈ stages := fun r hr => by
      simp only [ne_eq, decide_not, List.mem_filter, Bool.not_eq_true', decide_eq_false_iff_not] at hr
      exact (List.mem_cons.1 (hmem r hr.1)).resolve_left hr.2
    have hsame : stages.flatMap (inStage (rules.filter (·.stage ≠ s))) =
        stages.flatMap (inStage rules) := by
      refine List.flatMap_congr fun s' hs' => ?_
      have := hs.1 s' hs'
      rw [inStage, inStage, List.filter_filter]
      refine List.filter_congr fun r _ => ?_
      by_cases hr : r.stage = s'
      · simp [hr]; omega
      · simp [hr]
    rw [List.flatMap_cons, ← hsame, ← ih (h.sublist List.filter_sublist) hs.2 hrest]
    exact inStage_append_of_sorted h hle

theorem mem_stagesOf : s ∈ stagesOf rules ↔ 0 ≤ s ∧ ∃ r ∈ rules, r.stage = s := by
  simp [stagesOf, and_comm]

theorem pairwise_stagesOf (rules : List Rule) : (stagesOf rules).Pairwise (· < ·) :=
  (Finset.sortedLT_sort _).pairwise

/-- The sorted rules from stage 0 on are the groups of the stages, one behind the other. -/
theorem sortByStage_filter (rules : List Rule) :
    (sortByStage rules).filter (0 ≤ ·.stage) = (stagesOf rules).flatMap (inStage rules) := by
  have hmem : ∀ r ∈ (sortByStage rules).filter (0 ≤ ·.stage), r.stage ∈ stagesOf rules := by
    intro r hr
    simp only [List.mem_filter, mem_sortByStage, decide_eq_true_eq] at hr
    exact mem_stagesOf.2 ⟨hr.2, r, hr.1, rfl⟩
  rw [eq_flatMap_inStage ((sorted_sortByStage rules).sublist List.filter_sublist)
    (pairwise_stagesOf rules) hmem]
  refine List.flatMap_congr fun s hs => ?_
  have hpos := (mem_stagesOf.1 hs).1
  rw [← inStage_sortByStage rules s, inStage, inStage, List.filter_filter]
  refine List.filter_congr fun r _ => ?_
  by_cases hr : r.stage = s
  · simp [hr, hpos]
  · simp [hr]

end Sorted

section Pass

variable {m : MessageView} {first k : Int} {last : Option Int} {rules : List Rule} {stages : List Int}

theorem evaluateFrom_filter (hk : k ≤ first) :
    evaluateFrom m first last none (rules.filter (k ≤ ·.stage)) = evaluateFrom m first last none rules := by
  induction rules generalizing first last with
  | nil => rfl
  | cons r rules ih =>
    by_cases hr : k ≤ r.stage
    · rw [List.filter_cons_of_pos (by simpa using hr)]
      simp only [evaluateFrom, Option.map_none, ih hk, ih (show k ≤ r.stage + 1 by omega)]
    · have hf : r.stage < first := by omega
      rw [List.filter_cons_of_neg (by simpa using hr), ih hk, evaluateFrom, if_pos hf]

theorem evaluateFrom_flatMap (hs : stages.Pairwise (· < ·)) (hfirst : ∀ s ∈ stages, first ≤ s) :
    (evaluateFrom m first none none (stages.flatMap (inStage rules))).1 =
      stagewiseOver m rules stages := by
  induction stages with
  | nil => rfl
  | cons s stages ih =>
    rw [List.pairwise_cons] at hs
    rw [List.forall_mem_cons] at hfirst
    have hg : ∀ r ∈ inStage rules s, r.stage = s := fun r hr => by simpa using (List.mem_filter.1 hr).2
    have hrest : ∀ r ∈ stages.flatMap (inStage rules), s < r.stage := fun r hr => by
      obtain ⟨s', hs', hr⟩ := List.mem_flatMap.1 hr
      have hstage : r.stage = s' := by simpa using (List.mem_filter.1 hr).2
      exact hstage ▸ hs.1 s' hs'
    rw [List.flatMap_cons, evaluateFrom_group (.inl rfl) hfirst.1 hg hrest, ih hs.2 hfirst.2,
      Option.isNone_none, asksOn_true]
    rfl

end Pass

/-- The pass with its two moving bounds meets the rules of the stages from 0 on, one stage after the
other, whether an action is passed along or not. -/
theorem evaluate_eq_stagewise (rules : List Rule) (m : MessageView) (a : Option Action) :
    (evaluate rules m a).1 = stagewise m rules := by
  rw [evaluate_eq]
  show (evaluateFrom m 0 none none (sortByStage rules)).1 = stagewiseOver m rules (stagesOf rules)
  rw [← evaluateFrom_filter (le_refl 0), sortByStage_filter]
  exact evaluateFrom_flatMap (pairwise_stagesOf rules) fun s hs => (mem_stagesOf.1 hs).1

end MailTriage.Rule
