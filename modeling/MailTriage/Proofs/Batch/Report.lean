import Mathlib.Algebra.GroupWithZero.Nat
import MailTriage.Proofs.Batch.Preview
import MailTriage.Proofs.Except
import MailTriage.Proofs.Stats.Ledger

namespace MailTriage

namespace RunResult

variable {r : RunResult} {e : ThreadResult} {es : List ThreadResult}

/-- The counts agree with the entries. -/
structure Tallied (r : RunResult) : Prop where
  processed : r.processed = (r.threads.filter (·.error.isNone)).length
  messages : r.messages = ((r.threads.filter (·.error.isNone)).map (·.messages)).sum

theorem Tallied.add (h : r.Tallied) (e : ThreadResult) : (r.add e).Tallied := by
  unfold RunResult.add
  cases herror : e.error with
  | none =>
    rw [Option.isSome_none, if_neg Bool.false_ne_true]
    constructor
    · simp [h.processed, herror]
    · simp [h.messages, herror]
  | some text =>
    rw [Option.isSome_some, if_pos rfl]
    constructor
    · simp [h.processed, herror]
    · simp [h.messages, herror]

theorem Tallied.processed_add_failures (h : r.Tallied) :
    r.processed + r.failures.length = r.threads.length := by
  have hfailures : r.failures = r.threads.filter (!·.error.isNone) := by
    simp only [failures, Option.not_isNone]
  rw [h.processed, hfailures, ← List.length_eq_length_filter_add]

theorem map_some_failureTexts (r : RunResult) : r.failureTexts.map some = r.failures.map (·.error) := by
  unfold failureTexts failures
  induction r.threads with
  | nil => rfl
  | cons e es ih => cases herror : e.error <;> simp [herror, ih]

theorem failureTexts_eq_nil_iff : r.failureTexts = [] ↔ r.failures = [] := by
  rw [← List.map_eq_nil_iff (f := some), map_some_failureTexts, List.map_eq_nil_iff]

end RunResult

namespace Batch

/-- What a run says of a thread: how many of its messages were looked at, and what is wrong with the action
that the rules have for it. -/
structure IsReportOf (s : Session) (t : Thread) (e : ThreadResult) : Prop where
  id : e.id = t.id
  subject : e.subject = t.subject
  looked : ∃ x, s.pending t = .ok x ∧ e.messages = x.views.length ∧
    e.error = (x.collect s.rules (some s.config)).problem?.map (·.message)

/-- The first threads of a store that wait, up to the number that a run fetches. -/
def waiting (s : Session) (store : Store) : List Thread :=
  (store.threads.filter fun t => t.labels.contains s.config.unprocessedLabel).take s.config.maxThreads

/-- One entry for each thread, and counts of these entries. -/
structure Reports (s : Session) (ts : List Thread) (r : RunResult) : Prop where
  threads : List.Forall₂ (IsReportOf s) ts r.threads
  fetched : r.fetched = ts.length
  processed : r.processed + r.failures.length = r.fetched
  messages : r.messages = ((r.threads.filter (·.error.isNone)).map (·.messages)).sum
  texts : r.failureTexts.map some = r.failures.map (·.error)

variable {s : Session} {start stop : Moment} {o : Options} {state : State} {store : Store}
  {ps : List (Nat × PendingThread)} {x : PendingThread} {t : Thread} {r : RunResult}

theorem exists_places (s : Session) (state : State) : ∃ found : List (Thread × Nat),
    found.map (·.1) = waiting s state.mailbox.store ∧ found.map (·.2) = fetched s state ∧
      ∀ f ∈ found, state.mailbox.store.threads[f.2]? = some f.1 := by
  refine ⟨(state.mailbox.store.threads.zipIdx.filter fun f =>
    f.1.labels.contains s.config.unprocessedLabel).take s.config.maxThreads, ?_, ?_, fun f hf => ?_⟩
  · rw [List.map_take, waiting]
    congr 1
    conv_rhs => rw [← List.zipIdx_map_fst 0 state.mailbox.store.threads, List.filter_map]
    rfl
  · rw [fetched, Store.search_natCast, List.map_take]
    rfl
  · exact List.mem_zipIdx_iff_getElem?.1 (List.mem_of_mem_filter (List.mem_of_mem_take hf))

theorem forall₂_pendingAt {found : List (Thread × Nat)} (hfound : ∀ f ∈ found, store.threads[f.2]? = some f.1)
    (h : pendingAt s store (found.map (·.2)) = .ok ps) :
    List.Forall₂ (fun f x => s.pending f.1 = .ok x.2) found ps := by
  induction found generalizing ps with
  | nil =>
    cases h
    exact .nil
  | cons f found ih =>
    rw [List.forall_mem_cons] at hfound
    rw [List.map_cons, pendingAt, hfound.1] at h
    obtain ⟨x, hx, h⟩ := exists_of_bind h
    obtain ⟨rest, hrest, h⟩ := exists_of_bind h
    cases h
    exact .cons hx (ih hfound.2 hrest)

theorem thread_of_pending (h : s.pending t = .ok x) : x.thread = t := by
  obtain ⟨shown, -, h⟩ := exists_of_bind h
  cases h
  rfl

theorem isReportOf_settle (h : s.pending t = .ok x) : IsReportOf s t (settle s x).2 := by
  obtain ⟨hid, hsubject⟩ := settle_thread (s := s) (x := x)
  rw [thread_of_pending h] at hid hsubject
  exact ⟨hid, hsubject, x, h, settle_messages, rfl⟩

theorem tallied_resultOf (h : r.Tallied) : (resultOf s ps r).Tallied := by
  induction ps generalizing r with
  | nil => exact h
  | cons x ps ih => exact ih (h.add _)

theorem fetched_resultOf : (resultOf s ps r).fetched = r.fetched := by
  induction ps generalizing r with
  | nil => rfl
  | cons x ps ih =>
    have hadd : (r.add (settle s x.2).2).fetched = r.fetched := by
      unfold RunResult.add
      split_ifs <;> rfl
    exact ih.trans hadd

theorem reports_resultOf (h : pendingAt s state.mailbox.store (fetched s state) = .ok ps) :
    Reports s (waiting s state.mailbox.store)
      (resultOf s ps { fetched := (fetched s state).length }) := by
  obtain ⟨found, hthreads, hplaces, hfound⟩ := exists_places s state
  rw [← hplaces] at h
  have hall : List.Forall₂ (IsReportOf s) (waiting s state.mailbox.store)
      (ps.map fun x => (settle s x.2).2) := by
    rw [← hthreads, List.forall₂_map_left_iff, List.forall₂_map_right_iff]
    exact (forall₂_pendingAt hfound h).imp fun _ _ => isReportOf_settle
  have htallied : (resultOf s ps { fetched := (fetched s state).length }).Tallied :=
    tallied_resultOf ⟨rfl, rfl⟩
  have hentries : (resultOf s ps { fetched := (fetched s state).length }).threads =
      ps.map fun x => (settle s x.2).2 := threads_resultOf
  have hlength : (fetched s state).length = (waiting s state.mailbox.store).length := by
    rw [← hplaces, ← hthreads, List.length_map, List.length_map]
  refine ⟨hentries ▸ hall, fetched_resultOf.trans hlength, ?_, htallied.messages,
    RunResult.map_some_failureTexts _⟩
  rw [htallied.processed_add_failures, hentries, ← hall.length_eq, fetched_resultOf, hlength]

theorem waiting_eq_nil_iff : waiting s state.mailbox.store = [] ↔ fetched s state = [] := by
  obtain ⟨found, hthreads, hplaces, -⟩ := exists_places s state
  rw [← hthreads, ← hplaces, List.map_eq_nil_iff, List.map_eq_nil_iff]

def withRecord (start stop : Moment) (r : RunResult) (stats : Stats) : Stats :=
  { stats with
    records := stats.records ++ [⟨stats.nextRecord, start, r.processed, r.messages,
      Stats.milliseconds (stop.instant - start.instant)⟩]
    nextRecord := stats.nextRecord + 1 }

theorem stats_finish {items : List (Nat × Action)} (h : (finish s start stop items r state).2 = none) :
    (finish s start stop items r state).1.stats = state.stats.map (withRecord start stop r) := by
  obtain ⟨b, e, hb⟩ : ∃ b e, apply s.config items state.mailbox = (b, e) := ⟨_, _, rfl⟩
  simp only [finish, hb] at h ⊢
  cases e with
  | some e => cases h
  | none =>
    cases hstats : state.stats with
    | none => rfl
    | some stats =>
      dsimp only at h ⊢
      cases hadd : stats.addRecord start stop r.processed r.messages with
      | error e =>
        rw [hstats] at h
        simp [hadd] at h
      | ok stats' =>
        exact congrArg some (Stats.addRecord_eq_ok hadd)

theorem verdict_eq (o : Options) (r : RunResult) : verdict o r =
    if o.raising ∧ r.failures ≠ [] then .error (.failed r.failureTexts) else .ok r := by
  unfold verdict
  by_cases hnone : r.failures = []
  · simp [hnone, RunResult.failureTexts_eq_nil_iff.2 hnone]
  · have htexts : r.failureTexts ≠ [] := fun h => hnone (RunResult.failureTexts_eq_nil_iff.1 h)
    simp [hnone, htexts]

/-- A run that gets to its end has one entry for each of the first threads that wait, in their order. If it
raises for threads that failed, it does so with their texts, and everything else is as if it did not: one
record is kept of it, unless it was a dry run or there were no threads. -/
theorem run_report (h : gotThrough (run s start stop o state).2) :
    ∃ r state', Reports s (waiting s state.mailbox.store) r ∧
      (∀ raising, run s start stop { o with raising := raising } state = (state',
        if raising ∧ r.failures ≠ [] then .error (.failed r.failureTexts) else .ok r)) ∧
      (o.dryRun ∨ waiting s state.mailbox.store = [] → state'.stats = state.stats) ∧
      (¬ o.dryRun → waiting s state.mailbox.store ≠ [] →
        state'.stats = state.stats.map (withRecord start stop r)) := by
  by_cases hne : fetched s state = []
  · have hreports : Reports s (waiting s state.mailbox.store)
        (resultOf s [] { fetched := (fetched s state).length }) := reports_resultOf (by rw [hne]; rfl)
    refine ⟨_, state, hreports, fun raising => ?_, fun _ => rfl, fun _ hwaiting => ?_⟩
    · rw [run_of_nil hne, hne]
      simp [resultOf, RunResult.failures]
    · exact absurd (waiting_eq_nil_iff.2 hne) hwaiting
  cases hp : pendingAt s state.mailbox.store (fetched s state) with
  | error e =>
    rw [run_of_error hne hp] at h
    cases h
  | ok ps =>
    by_cases hdry : o.dryRun
    · refine ⟨_, state, reports_resultOf hp, fun raising => ?_, fun _ => rfl, fun hnot => absurd hdry hnot⟩
      have hrun : run s start stop { o with raising := raising } state = _ := run_of_dry hdry hp
      rw [hrun, verdict_eq]
    · have hwet : o.dryRun = false := by simpa using hdry
      have hnone := finish_eq_none_of_gotThrough hne hwet hp h
      refine ⟨_, _, reports_resultOf hp, fun raising => ?_, fun hor => ?_, fun _ _ => stats_finish hnone⟩
      · have hrun : run s start stop { o with raising := raising } state = _ := run_of_ok hne hwet hp
        rw [hrun, hnone, Option.elim_none, verdict_eq]
      · exact absurd hor (not_or.2 ⟨hdry, fun hnil => hne (waiting_eq_nil_iff.1 hnil)⟩)

/-- One of two threads fails, with raising or without. -/
theorem run_report_of_failure :
    gotThrough (run greetingSession ⟨0, none⟩ ⟨5, none⟩ { raising := true } greetingState).2 ∧
      ∃ r state', Reports greetingSession greetingState.mailbox.store.threads r ∧ r.failures.length = 1 ∧
        run greetingSession ⟨0, none⟩ ⟨5, none⟩ { raising := true } greetingState =
          (state', .error (.failed r.failureTexts)) ∧
        run greetingSession ⟨0, none⟩ ⟨5, none⟩ {} greetingState = (state', .ok r) ∧
        state'.stats = some (withRecord ⟨0, none⟩ ⟨5, none⟩ r {}) := by
  have hthrough :
      gotThrough (run greetingSession ⟨0, none⟩ ⟨5, none⟩ { raising := true } greetingState).2 := by
    decide +kernel
  obtain ⟨r, state', hreports, hruns, -, hstats⟩ := run_report hthrough
  have hwaiting : waiting greetingSession greetingState.mailbox.store =
      greetingState.mailbox.store.threads := by decide +kernel
  rw [hwaiting] at hreports hstats
  have hquiet : run greetingSession ⟨0, none⟩ ⟨5, none⟩ {} greetingState = (state', .ok r) := by
    simpa using hruns false
  have hone : r.failures.length = 1 := by
    have hcount : (run greetingSession ⟨0, none⟩ ⟨5, none⟩ {} greetingState).2.toOption.map
        (·.failures.length) = some 1 := by decide +kernel
    rw [hquiet] at hcount
    exact Option.some.inj hcount
  have hne : r.failures ≠ [] := List.ne_nil_of_length_pos (by omega)
  have hraised := hruns true
  rw [if_pos ⟨rfl, hne⟩] at hraised
  exact ⟨hthrough, r, state', hreports, hone, hraised, hquiet,
    hstats (by decide) (by decide +kernel)⟩

end Batch

end MailTriage
