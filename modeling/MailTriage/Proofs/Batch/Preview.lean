import MailTriage.Proofs.Batch.Isolation

namespace MailTriage.Batch

/-- Whether a run got to its end. It did so too where it raised that some of its threads failed. -/
def gotThrough : Except RunError RunResult → Bool
  | .ok _ | .error (.failed _) => true
  | .error _ => false

variable {s : Session} {start stop start' stop' : Moment} {o : Options} {raising : Bool}
  {state : State} {ps : List (Nat × PendingThread)} {r : RunResult}

theorem verdict_of_no_threads (o : Options) (n : Nat) : verdict o { fetched := n } = .ok { fetched := n } := by
  simp [verdict, RunResult.failureTexts]

theorem finish_eq_none_of_gotThrough (hne : fetched s state ≠ []) (hdry : o.dryRun = false)
    (hps : pendingAt s state.mailbox.store (fetched s state) = .ok ps)
    (h : gotThrough (run s start stop o state).2) :
    (finish s start stop (itemsOf s ps) (resultOf s ps { fetched := (fetched s state).length })
      state).2 = none := by
  have hrun : run s start stop o state = _ := run_of_ok hne hdry hps
  obtain ⟨-, -, hfailed⟩ := finish_spec s start stop (itemsOf s ps)
    (resultOf s ps { fetched := (fetched s state).length }) state
  rw [hrun] at h
  generalize finish s start stop _ _ state = done at h hfailed ⊢
  obtain ⟨state', e⟩ := done
  cases e with
  | none => rfl
  | some e =>
    -- An error of carrying out the actions is never that some threads failed.
    cases e with
    | failed failures => exact absurd rfl (hfailed failures)
    | calendar e => cases h
    | label e => cases h
    | stats e => cases h

/-- A run that got through has carried out what its threads ask for, and says what was settled for them
before. -/
theorem exists_pending_of_gotThrough (hdry : o.dryRun = false)
    (h : gotThrough (run s start stop o state).2) :
    ∃ ps, pendingAt s state.mailbox.store (fetched s state) = .ok ps ∧
      apply s.config (itemsOf s ps) state.mailbox = ((run s start stop o state).1.mailbox, none) ∧
        (run s start stop o state).2 =
          verdict o (resultOf s ps { fetched := (fetched s state).length }) := by
  by_cases hne : fetched s state = []
  · rw [run_of_nil hne, hne]
    exact ⟨[], rfl, rfl, (verdict_of_no_threads o 0).symm⟩
  cases hp : pendingAt s state.mailbox.store (fetched s state) with
  | error e =>
    rw [run_of_error hne hp] at h
    cases h
  | ok ps =>
    have hrun : run s start stop o state = _ := run_of_ok hne hdry hp
    have hnone := finish_eq_none_of_gotThrough hne hdry hp h
    obtain ⟨hmailbox, hiff, -⟩ := finish_spec s start stop (itemsOf s ps)
      (resultOf s ps { fetched := (fetched s state).length }) state
    rw [hrun, hnone]
    exact ⟨ps, rfl, Prod.ext hmailbox.symm (hiff.1 hnone).1, rfl⟩

theorem run_of_dry (hdry : o.dryRun = true)
    (h : pendingAt s state.mailbox.store (fetched s state) = .ok ps) :
    run s start stop o state =
      (state, verdict o (resultOf s ps { fetched := (fetched s state).length })) := by
  by_cases hne : fetched s state = []
  · rw [hne] at h ⊢
    cases h
    rw [run_of_nil hne]
    exact congrArg _ (verdict_of_no_threads o 0).symm
  have hempty : (fetched s state).isEmpty = false := by simpa using hne
  unfold fetched at h hempty
  simp only [run, h, hempty, hdry, List.foldl_map, if_true]
  rfl

theorem state_run_of_dry (hdry : o.dryRun = true) : (run s start stop o state).1 = state := by
  cases hp : pendingAt s state.mailbox.store (fetched s state) with
  | ok ps => rw [run_of_dry hdry hp]
  | error e =>
    have hne : fetched s state ≠ [] := by
      intro hnil
      rw [hnil] at hp
      cases hp
    rw [run_of_error hne hp]

/-- A dry run changes nothing, and ends as any run from the same state that gets to its end. -/
theorem run_preview (s : Session) (start stop start' stop' : Moment) (raising : Bool) (state : State) :
    (run s start stop { dryRun := true, raising := raising } state).1 = state ∧
      (gotThrough (run s start' stop' { raising := raising } state).2 →
        (run s start stop { dryRun := true, raising := raising } state).2 =
          (run s start' stop' { raising := raising } state).2) := by
  refine ⟨state_run_of_dry rfl, fun h => ?_⟩
  obtain ⟨ps, hps, -, hend⟩ := exists_pending_of_gotThrough rfl h
  rw [run_of_dry rfl hps, hend]
  rfl

/-- A session whose rules have an action for greetings only. -/
def greetingSession : Session where
  config := {}
  rules := (Rule.ofTable true
    [Rule.Column.every.map (·.name), ["(subject hello)", "work/a", "archive"]]).toOption.getD []
  oldest := ⟨63000000000000000, none⟩

def greetingState : State where
  mailbox := .ofStore (.ofThreads
    [⟨"1", [{ author := "a@x.com", subject := "hello" }], ["unprocessed"], {}⟩,
      ⟨"2", [{ author := "b@x.com" }], ["unprocessed"], {}⟩] [])
  stats := some {}

/-- One of the two threads fails, and the run raises after it has carried out what there is to do. -/
theorem run_preview_of_failure :
    (run greetingSession ⟨0, none⟩ ⟨5, none⟩ { raising := true } greetingState).1 ≠ greetingState ∧
      gotThrough (run greetingSession ⟨0, none⟩ ⟨5, none⟩ { raising := true } greetingState).2 ∧
      (run greetingSession ⟨9, none⟩ ⟨9, none⟩ { dryRun := true, raising := true } greetingState).1 =
        greetingState ∧
      (run greetingSession ⟨9, none⟩ ⟨9, none⟩ { dryRun := true, raising := true } greetingState).2 =
        (run greetingSession ⟨0, none⟩ ⟨5, none⟩ { raising := true } greetingState).2 := by
  have hthrough :
      gotThrough (run greetingSession ⟨0, none⟩ ⟨5, none⟩ { raising := true } greetingState).2 := by
    decide +kernel
  obtain ⟨hstate, hend⟩ := run_preview greetingSession ⟨9, none⟩ ⟨9, none⟩ ⟨0, none⟩ ⟨5, none⟩ true
    greetingState
  exact ⟨by decide +kernel, hthrough, hstate, hend hthrough⟩

end MailTriage.Batch
