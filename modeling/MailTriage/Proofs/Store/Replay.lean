import Mathlib.Data.List.Forall2
import Mathlib.Data.List.Nodup
import MailTriage.Store.Basic

namespace MailTriage

/-- An entry of the log as it is read. -/
structure LogLine where
  operation : String
  label : Option String
  threads : List String
  deriving DecidableEq, Repr

def LogEntry.line (e : LogEntry) : LogLine where
  operation := e.operation.name
  label := e.operation.label?
  threads := e.threads

/-- Threads and labels, without a log. -/
structure Contents where
  threads : List Thread
  labels : LabelSet
  deriving DecidableEq, Repr

def Store.contents (s : Store) : Contents where
  threads := s.threads
  labels := s.labels

namespace LogLine

def onLabels (l : LogLine) (labels : List String) : List String :=
  match l.operation, l.label with
  | "add_label", some name => if name ∈ labels then labels else labels ++ [name]
  | "remove_label", some name => labels.erase name
  | _, _ => labels

/-- What a line says about the state of a thread. A thread in the trash is not in the inbox, and the other
way round; an archived one is where it was otherwise. -/
def onState (l : LogLine) (s : ThreadState) : ThreadState :=
  match l.operation with
  | "move_to_inbox" => { s with inInbox := true, inTrash := false }
  | "move_to_archive" => { s with inInbox := false }
  | "move_to_trash" => { s with inInbox := false, inTrash := true }
  | "mark_important" => { s with important := true }
  | "mark_unimportant" => { s with important := false }
  | "mark_read" => { s with unread := false }
  | "mark_unread" => { s with unread := true }
  | _ => s

def onThread (l : LogLine) (t : Thread) : Thread :=
  { t with labels := l.onLabels t.labels, state := l.onState t.state }

def onKnown (l : LogLine) (labels : LabelSet) : LabelSet :=
  match l.operation, l.label with
  | "create_label", some name => labels.insert name
  | _, _ => labels

def onNamed (l : LogLine) (threads : List Thread) (id : String) : List Thread :=
  threads.map fun t => if t.id = id then l.onThread t else t

def onContents (l : LogLine) (c : Contents) : Contents where
  threads := l.threads.foldl l.onNamed c.threads
  labels := l.onKnown c.labels

end LogLine

/-- Does over again what lines of a log say, the first of them first. -/
def replay (lines : List LogLine) (c : Contents) : Contents :=
  lines.foldl (fun c l => l.onContents c) c

namespace Store

def performAll (calls : List (Operation × List Nat)) (s : Store) : Store :=
  calls.foldl (fun s c => s.perform c.1 c.2) s

/-- What no operation changes in a thread. -/
structure SameMail (t u : Thread) : Prop where
  id : u.id = t.id
  messages : u.messages = t.messages
  starred : u.state.starred = t.state.starred
  inSpam : u.state.inSpam = t.state.inSpam
  inPriorityInbox : u.state.inPriorityInbox = t.state.inPriorityInbox

variable {op : Operation} {places : List Nat} {threads : List Thread} {s : Store}
  {calls : List (Operation × List Nat)} {t u : Thread} {ids : List String}

theorem SameMail.refl (t : Thread) : SameMail t t := ⟨rfl, rfl, rfl, rfl, rfl⟩

theorem SameMail.onThread (h : SameMail t u) (op : Operation) : SameMail t (op.onThread u) where
  id := h.id
  messages := h.messages
  starred := by rw [← h.starred]; cases op <;> rfl
  inSpam := by rw [← h.inSpam]; cases op <;> rfl
  inPriorityInbox := by rw [← h.inPriorityInbox]; cases op <;> rfl

theorem sameMail_modify {before : List Thread} (h : List.Forall₂ SameMail before threads)
    (op : Operation) (p : Nat) : List.Forall₂ SameMail before (threads.modify p op.onThread) := by
  induction h generalizing p with
  | nil => simp
  | cons hs h ih =>
    cases p with
    | zero => exact .cons (hs.onThread op) h
    | succ p => exact .cons hs (ih p)

theorem sameMail_afterOperation {before : List Thread} (h : List.Forall₂ SameMail before threads) :
    List.Forall₂ SameMail before (afterOperation op places threads) := by
  induction places generalizing threads with
  | nil => exact h
  | cons p places ih => exact ih (sameMail_modify h op p)

theorem sameMail_performAll {before : List Thread} (h : List.Forall₂ SameMail before s.threads) :
    List.Forall₂ SameMail before (performAll calls s).threads := by
  induction calls generalizing s with
  | nil => exact h
  | cons c calls ih => exact ih (s := s.perform c.1 c.2) (sameMail_afterOperation h)

theorem ids_eq_of_sameMail {before : List Thread} (h : List.Forall₂ SameMail before threads) :
    threads.map (·.id) = before.map (·.id) := by
  induction h with
  | nil => rfl
  | cons hs _ ih => rw [List.map_cons, List.map_cons, hs.id, ih]

theorem sameMail_self (threads : List Thread) : List.Forall₂ SameMail threads threads :=
  List.forall₂_same.2 fun t _ => .refl t

theorem ids_afterOperation : (afterOperation op places threads).map (·.id) = threads.map (·.id) :=
  ids_eq_of_sameMail (sameMail_afterOperation (sameMail_self threads))

theorem namesAt_eq (places : List Nat) (threads : List Thread) :
    namesAt places threads = places.filterMap fun p => (threads.map (·.id))[p]? := by
  unfold namesAt
  simp only [List.getElem?_map]

theorem onThread_line : (LogEntry.line ⟨op, ids⟩).onThread t = op.onThread t := by
  cases op <;> simp [LogEntry.line, LogLine.onThread, LogLine.onLabels, LogLine.onState, Operation.name,
    Operation.label?, Operation.onThread, Operation.onLabels, Operation.onState]

theorem onKnown_line : (LogEntry.line ⟨op, ids⟩).onKnown s.labels = (s.perform op places).labels := by
  cases op <;> simp [LogEntry.line, LogLine.onKnown, Operation.name, Operation.label?, perform]

/-- Where no two threads have one name, a name is as good as a place. -/
theorem modify_eq_map {p : Nat} {f : Thread → Thread} (hd : (threads.map (·.id)).Nodup)
    (ht : threads[p]? = some t) :
    threads.modify p f = threads.map fun u => if u.id = t.id then f u else u := by
  apply List.ext_getElem?
  intro q
  rw [List.getElem?_modify, List.getElem?_map]
  cases hu : threads[q]? with
  | none => rfl
  | some u =>
    have hiff : u.id = t.id ↔ p = q := by
      obtain ⟨hp, rfl⟩ := List.getElem?_eq_some_iff.1 ht
      obtain ⟨hq, rfl⟩ := List.getElem?_eq_some_iff.1 hu
      constructor
      · intro heq
        have hget : (threads.map (·.id))[p]? = (threads.map (·.id))[q]? := by
          rw [List.getElem?_map, List.getElem?_map, ht, hu, Option.map_some, Option.map_some, heq]
        exact (List.getElem?_inj (by simpa using hp) hd).mp hget
      · rintro rfl
        rfl
    simp only [Option.map_some, hiff]
    split_ifs <;> rfl

/-- An operation and the line about it do the same to threads, one by its places, the other by names. -/
theorem foldl_onNamed {line : LogLine} (hline : line.onThread = op.onThread)
    (hd : (threads.map (·.id)).Nodup) :
    (namesAt places threads).foldl line.onNamed threads = afterOperation op places threads := by
  rw [namesAt_eq]
  generalize hids : threads.map (·.id) = ids at hd ⊢
  induction places generalizing threads with
  | nil => rfl
  | cons p places ih =>
    have hstep : afterOperation op (p :: places) threads =
        afterOperation op places (threads.modify p op.onThread) := rfl
    have hrest := ih ((ids_eq_of_sameMail (sameMail_modify (sameMail_self threads) op p)).trans hids)
    rw [hstep, ← hrest, List.filterMap_cons, ← hids, List.getElem?_map]
    cases ht : threads[p]? with
    | none => rw [List.modify_eq_self (List.getElem?_eq_none_iff.1 ht), Option.map_none]
    | some t =>
      have hone : line.onNamed threads t.id = threads.modify p op.onThread := by
        rw [modify_eq_map (by rwa [hids]) ht, ← hline]
        rfl
      rw [Option.map_some, List.foldl_cons, hone]

theorem onContents_line (hd : (s.threads.map (·.id)).Nodup) :
    (LogEntry.line ⟨op, namesAt places s.threads⟩).onContents s.contents =
      (s.perform op places).contents := by
  have hthreads : (namesAt places s.threads).foldl
      (LogEntry.line ⟨op, namesAt places s.threads⟩).onNamed s.threads =
        afterOperation op places s.threads :=
    foldl_onNamed (funext fun t => onThread_line) hd
  have hlabels : (LogEntry.line ⟨op, namesAt places s.threads⟩).onKnown s.labels =
      (s.perform op places).labels := onKnown_line
  unfold LogLine.onContents contents
  rw [hlabels]
  exact congrArg (Contents.mk · _) hthreads

theorem namesAt_perform (places' : List Nat) :
    namesAt places (s.perform op places').threads = namesAt places s.threads := by
  have hids : (s.perform op places').threads.map (·.id) = s.threads.map (·.id) := ids_afterOperation
  rw [namesAt_eq, namesAt_eq, hids]

/-- Each operation writes one entry, under the names that the threads have had from the beginning. -/
theorem log_performAll : (performAll calls s).log =
    s.log ++ calls.map fun c => ⟨c.1, namesAt c.2 s.threads⟩ := by
  induction calls generalizing s with
  | nil => simp [performAll]
  | cons c calls ih =>
    have hstep : performAll (c :: calls) s = performAll calls (s.perform c.1 c.2) := rfl
    have hlog : (s.perform c.1 c.2).log = s.log ++ [⟨c.1, namesAt c.2 s.threads⟩] := rfl
    rw [hstep, ih, hlog]
    simp only [namesAt_perform, List.append_assoc, List.singleton_append, List.map_cons]

theorem replay_performAll (hd : (s.threads.map (·.id)).Nodup) :
    replay (calls.map fun c => LogEntry.line ⟨c.1, namesAt c.2 s.threads⟩) s.contents =
      (performAll calls s).contents := by
  induction calls generalizing s with
  | nil => rfl
  | cons c calls ih =>
    have hids : (s.perform c.1 c.2).threads.map (·.id) = s.threads.map (·.id) := ids_afterOperation
    have hrest := ih (s := s.perform c.1 c.2) (hids ▸ hd)
    simp only [namesAt_perform] at hrest
    rw [List.map_cons, replay, List.foldl_cons, onContents_line hd]
    exact hrest

/-- The log of a store has one entry for each operation, and what the entries say leads from the threads
and labels of the beginning to those of the store. -/
theorem replay_log (hd : (threads.map (·.id)).Nodup) (labels : List String)
    (calls : List (Operation × List Nat)) :
    let initial := ofThreads threads labels
    let final := performAll calls initial
    final.log = calls.map (fun c => ⟨c.1, namesAt c.2 threads⟩) ∧
      replay (final.log.map LogEntry.line) initial.contents = final.contents ∧
      List.Forall₂ SameMail threads final.threads := by
  intro initial final
  have hlog : final.log = calls.map fun c => ⟨c.1, namesAt c.2 threads⟩ := log_performAll
  refine ⟨hlog, ?_, sameMail_performAll (sameMail_self threads)⟩
  rw [hlog, List.map_map]
  exact replay_performAll hd

/-- Two threads, of which one is in the trash. -/
def loggedThreads : List Thread :=
  [{ id := "1", messages := [], labels := ["work", "new", "work"] },
    { id := "2", messages := [], labels := ["new"], state := { inInbox := false, inTrash := true } }]

/-- A thread that is listed twice loses a label twice; one that leaves the trash for the inbox is archived
from there. -/
def loggedCalls : List (Operation × List Nat) :=
  [(.createLabel "done", []), (.addLabel "done", [0, 1]), (.removeLabel "work", [0, 0]),
    (.moveToInbox, [1]), (.moveToArchive, [1]), (.markImportant, [0])]

theorem replay_log_mixed : (loggedThreads.map (·.id)).Nodup ∧
    let final := performAll loggedCalls (ofThreads loggedThreads [])
    replay (final.log.map LogEntry.line) (ofThreads loggedThreads []).contents = final.contents ∧
      final.threads.map (·.labels) = [["new", "done"], ["new", "done"]] ∧
      final.log.map (·.threads) = [[], ["1", "2"], ["1", "1"], ["2"], ["2"], ["1"]] := by
  have hd : (loggedThreads.map (·.id)).Nodup := by decide
  exact ⟨hd, (replay_log hd [] loggedCalls).2.1, by decide, by decide⟩

end Store

end MailTriage
