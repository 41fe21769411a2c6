import Mathlib.Logic.Relation
import MailTriage.Proofs.Batch.Preview
import MailTriage.Proofs.Label.Growth

namespace MailTriage

namespace Label

variable {known : LabelSet} {s : List Char} {names : List String} {x : String}

theorem length_le_of_mem_missing? (h : missing? known s = some names) (hx : x ∈ names) :
    x.length ≤ s.length :=
  length_le_of_mem_levels ((mem_missing?_iff names h).1 hx).1

theorem mem_of_missing? (h : missing? known s = some names) :
    String.ofList (Text.trim s) ∈ known ∨ String.ofList (Text.trim s) ∈ names := by
  unfold missing? at h
  dsimp only at h
  split_ifs at h with hne hknown hslash
  · exact .inl hknown
  · obtain ⟨above, -, rfl⟩ := Option.map_eq_some_iff.1 h
    simp
  · cases h
    simp

theorem isName_trim (h : Text.trim s ≠ []) : IsName (String.ofList (Text.trim s)) where
  trimmed := by rw [trimmed_ofList, Text.trim_trim]
  ne_empty := by simpa using h

end Label

namespace Mailbox

inductive Step : Mailbox → Mailbox → Prop
  | create {b : Mailbox} {name : String} (hname : Label.IsName name) (hnew : name ∉ b.known) :
      Step b (b.create name)
  | perform {b : Mailbox} {op : Operation} {places : List Nat} (hop : ∀ n, op ≠ .createLabel n)
      (hknown : ∀ n, op = .addLabel n → n ∈ b.known) : Step b (b.perform op places)

abbrev Steps : Mailbox → Mailbox → Prop :=
  Relation.ReflTransGen Step

variable {b b' : Mailbox} {name s : String} {op : Operation} {places : List Nat}

theorem Step.perform_of_label? (h : op.label? = none) : Step b (b.perform op places) := by
  refine .perform ?_ ?_ <;> rintro n rfl <;> cases h

/-- The labels for a name are created one by one, each of them as a new one. -/
theorem steps_foldl_create {s : List Char} :
    ∀ names, Label.missing? b.known s = some names → Steps b (names.foldl create b) := by
  generalize hb : b.known = known
  fun_induction Label.missing? known s with
  | case1 => simp
  | case2 =>
    intro names h
    cases h
    exact .refl
  | case3 s t ht hknown hslash ih =>
    intro names h
    obtain ⟨above, habove, rfl⟩ := Option.map_eq_some_iff.1 h
    rw [List.foldl_append]
    apply (ih above habove).tail
    refine .create (Label.isName_trim (by simpa using ht)) fun hmem => ?_
    rw [known_foldl_create, LabelSet.mem_insertAll, hb] at hmem
    rcases hmem with hmem | hmem
    · exact hknown hmem
    · -- What was created before is shorter.
      have hle := Label.length_le_of_mem_missing? habove hmem
      have hlt := Text.length_beforeLast_lt hslash
      rw [String.length_ofList] at hle
      omega
  | case4 s t ht hknown hslash =>
    intro names h
    cases h
    exact .single (.create (Label.isName_trim (by simpa using ht)) (hb ▸ hknown))

theorem steps_ensureLabel (h : b.ensureLabel name = .ok (s, b')) : Steps b b' ∧ s ∈ b'.known := by
  unfold ensureLabel at h
  split at h
  · next names hnames =>
    cases h
    refine ⟨steps_foldl_create names hnames, ?_⟩
    rw [known_foldl_create, LabelSet.mem_insertAll]
    exact Label.mem_of_missing? hnames
  · cases h

end Mailbox

namespace Batch

open Mailbox

variable {c : Config} {s : Session} {start stop : Moment} {o : Options} {state state' : State}
  {items : List (Nat × Action)} {groups : List (String × List Nat)} {ops : List (Operation × List Nat)}
  {places : List Nat} {b b' : Mailbox} {name n : String}

theorem steps_addLabel (h : b.ensureLabel name = .ok (n, b')) :
    Steps b (b'.perform (.addLabel n) places) := by
  obtain ⟨hsteps, hmem⟩ := steps_ensureLabel h
  apply hsteps.tail
  apply Step.perform
  · simp
  · rintro m hm
    cases hm
    exact hmem

theorem steps_addLabels : Steps b (addLabels groups b).1 := by
  induction groups generalizing b with
  | nil => exact .refl
  | cons g groups ih =>
    rw [addLabels]
    cases h : b.ensureLabel g.1 with
    | error e => exact .refl
    | ok r => exact (steps_addLabel h).trans ih

theorem steps_performAll (hops : ∀ o ∈ ops, o.1.label? = none) : Steps b (performAll ops b) := by
  induction ops generalizing b with
  | nil => exact .refl
  | cons o ops ih =>
    rw [List.forall_mem_cons] at hops
    exact .head (.perform_of_label? hops.1) (ih hops.2)

theorem steps_markDone : Steps b (markDone c places b).1 := by
  rw [markDone]
  cases h : b.ensureLabel c.processedLabel with
  | error e => exact .refl
  | ok r =>
    apply (steps_addLabel h).tail
    apply Step.perform <;> simp

/-- A batch goes step by step, also where it is cut off. -/
theorem steps_apply : Steps b (apply c items b).1 := by
  have hlabels : Steps b (addLabels (Plan.ofActions items).labels b).1 := steps_addLabels
  have hops (b₁ : Mailbox) : Steps b₁ (performAll (Plan.ofActions items).operations b₁) :=
    steps_performAll Plan.label?_of_mem_operations
  obtain ⟨b₁, e, hb, happly⟩ | ⟨b₁, hb, ⟨-, happly⟩ | ⟨-, happly⟩⟩ := apply_cases c items b
  · rw [hb] at hlabels
    rw [happly]
    exact hlabels
  · rw [hb] at hlabels
    rw [happly]
    exact hlabels.trans (hops b₁)
  · rw [hb] at hlabels
    rw [happly]
    exact (hlabels.trans (hops b₁)).trans steps_markDone

theorem steps_run : Steps state.mailbox (run s start stop o state).1.mailbox := by
  by_cases hdry : o.dryRun
  · rw [state_run_of_dry hdry]
  by_cases hne : fetched s state = []
  · rw [run_of_nil hne]
  cases hp : pendingAt s state.mailbox.store (fetched s state) with
  | error e => rw [run_of_error hne hp]
  | ok ps =>
    have hrun : run s start stop o state = _ := run_of_ok hne (by simpa using hdry) hp
    rw [hrun, (finish_spec s start stop _ _ state).1]
    exact steps_apply

/-- States that runs come to, one after another, whatever they are and whatever becomes of them. -/
inductive Reaches (s : Session) (state : State) : State → Prop
  | refl : Reaches s state state
  | run {state' : State} (h : Reaches s state state') (start stop : Moment) (o : Options) :
      Reaches s state (run s start stop o state').1

theorem steps_of_reaches (h : Reaches s state state') : Steps state.mailbox state'.mailbox := by
  induction h with
  | refl => exact .refl
  | run _ start stop o ih => exact ih.trans steps_run

end Batch

end MailTriage
