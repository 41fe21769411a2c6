import MailTriage.Batch.Apply
import MailTriage.Session
import MailTriage.Stats.Basic

namespace MailTriage

structure ThreadResult where
  id : String
  subject : String
  action : String
  messages : Nat
  error : Option String
  deriving DecidableEq, Repr

structure RunResult where
  fetched : Nat
  processed : Nat := 0
  messages : Nat := 0
  threads : List ThreadResult := []
  deriving DecidableEq, Repr

inductive RunError where
  | calendar (error : CalendarError)
  | label (error : LabelError)
  | stats (error : StatsError)
  /-- Some threads failed; what is wrong with each of them. -/
  | failed (failures : List String)
  deriving DecidableEq, Repr

def RunError.message? : RunError → Option String
  | label e => some e.message
  | failed failures =>
    some ("Processing failed for " ++ toString failures.length ++ " thread(s), check emails")
  | _ => none

namespace RunResult

/-- Counts a thread in; only threads that did not fail count as processed. -/
def add (r : RunResult) (t : ThreadResult) : RunResult :=
  if t.error.isSome then { r with threads := r.threads ++ [t] }
  else
    { r with
      threads := r.threads ++ [t]
      processed := r.processed + 1
      messages := r.messages + t.messages }

def failures (r : RunResult) : List ThreadResult :=
  r.threads.filter (·.error.isSome)

def failureTexts (r : RunResult) : List String :=
  r.threads.filterMap (·.error)

end RunResult

namespace Batch

/-- What a run works on. Statistics are kept if there are any. -/
structure State where
  mailbox : Mailbox
  stats : Option Stats := none
  deriving DecidableEq, Repr

structure Options where
  dryRun : Bool := false
  /-- Whether a run with failed threads is an error in the end. -/
  raising : Bool := false

def settle (s : Session) (p : PendingThread) : Action × ThreadResult :=
  let p := p.collect s.rules (some s.config)
  let problem := p.problem?
  let p := if problem.isSome then p.failed s.config.failedLabel else p
  (p.action,
    { id := p.thread.id
      subject := p.thread.subject
      action := p.action.summary
      messages := p.views.length
      error := problem.map (·.message) })

/-- The threads at some places, on their way through a run. -/
def pendingAt (s : Session) (store : Store) : List Nat → Except CalendarError (List (Nat × PendingThread))
  | [] => .ok []
  | place :: places =>
    match store.threads[place]? with
    | none => pendingAt s store places
    | some t => do
      let p ← s.pending t
      return (place, p) :: (← pendingAt s store places)

def finish (s : Session) (start finish : Moment) (items : List (Nat × Action)) (r : RunResult)
    (state : State) : State × Option RunError :=
  match apply s.config items state.mailbox with
  | (b, some e) => ({ state with mailbox := b }, some (.label e))
  | (b, none) =>
    match state.stats with
    | none => (⟨b, none⟩, none)
    | some stats =>
      match stats.addRecord start finish r.processed r.messages with
      | .ok stats => (⟨b, some stats⟩, none)
      | .error e => (⟨b, some stats⟩, some (.stats e))

def verdict (o : Options) (r : RunResult) : Except RunError RunResult :=
  if o.raising && !r.failureTexts.isEmpty then .error (.failed r.failureTexts) else .ok r

/-- One run between two moments: fetches the threads that wait, works out their actions and, unless it
is a dry run, carries them out. -/
def run (s : Session) (start stop : Moment) (o : Options) (state : State) :
    State × Except RunError RunResult :=
  let places := state.mailbox.store.search s.config.unprocessedLabel s.config.maxThreads
  if places.isEmpty then (state, .ok { fetched := 0 })
  else
    -- All threads are looked at before anything is done to the first of them.
    match pendingAt s state.mailbox.store places with
    | .error e => (state, .error (.calendar e))
    | .ok pending =>
      let settled := pending.map fun (place, p) => (place, settle s p)
      let r := settled.foldl (fun r x => r.add x.2.2) { fetched := places.length }
      if o.dryRun then (state, verdict o r)
      else
        match finish s start stop (settled.map fun x => (x.1, x.2.1)) r state with
        | (state, some e) => (state, .error e)
        | (state, none) => (state, verdict o r)

end Batch

end MailTriage
