import MailTriage.Label.Basic
import MailTriage.Mail.Thread

namespace MailTriage

/-- What can be done to threads of a store. Creating a label is done to no thread. -/
inductive Operation where
  | createLabel (name : String)
  | addLabel (name : String)
  | removeLabel (name : String)
  | moveToInbox
  | moveToArchive
  | moveToTrash
  | markImportant
  | markUnimportant
  | markRead
  | markUnread
  deriving DecidableEq, Repr

namespace Operation

def name : Operation → String
  | createLabel _ => "create_label"
  | addLabel _ => "add_label"
  | removeLabel _ => "remove_label"
  | moveToInbox => "move_to_inbox"
  | moveToArchive => "move_to_archive"
  | moveToTrash => "move_to_trash"
  | markImportant => "mark_important"
  | markUnimportant => "mark_unimportant"
  | markRead => "mark_read"
  | markUnread => "mark_unread"

def label? : Operation → Option String
  | createLabel name | addLabel name | removeLabel name => some name
  | _ => none

/-- The labels of a thread afterwards. A label is added at the end, unless it is there already; the
first of several equal labels is removed. -/
def onLabels (op : Operation) (labels : List String) : List String :=
  match op with
  | addLabel name => if labels.contains name then labels else labels ++ [name]
  | removeLabel name => labels.erase name
  | _ => labels

def onState (op : Operation) (s : ThreadState) : ThreadState :=
  match op with
  | moveToInbox => { s with inInbox := true, inTrash := false }
  | moveToArchive => { s with inInbox := false }
  | moveToTrash => { s with inInbox := false, inTrash := true }
  | markImportant => { s with important := true }
  | markUnimportant => { s with important := false }
  | markRead => { s with unread := false }
  | markUnread => { s with unread := true }
  | _ => s

def onThread (op : Operation) (t : Thread) : Thread :=
  { t with labels := op.onLabels t.labels, state := op.onState t.state }

end Operation

/-- One entry of the log: what was done, and to which threads, by their names. -/
structure LogEntry where
  operation : Operation
  threads : List String
  deriving DecidableEq, Repr

structure Store where
  threads : List Thread
  labels : LabelSet
  log : List LogEntry := []
  deriving DecidableEq, Repr

namespace Store

/-- A store of threads, which knows their labels and some more. -/
def ofThreads (threads : List Thread) (labels : List String) : Store where
  threads := threads
  labels := LabelSet.ofList (labels ++ threads.flatMap (·.labels))

/-- Threads after an operation on some of them, one after another. -/
def afterOperation (op : Operation) (places : List Nat) (threads : List Thread) : List Thread :=
  places.foldl (fun ts place => ts.modify place op.onThread) threads

def namesAt (places : List Nat) (threads : List Thread) : List String :=
  places.filterMap fun place => (threads[place]?).map (·.id)

/-- Does an operation on some threads and writes it to the log. Only creating a label makes it known to
the store. -/
def perform (op : Operation) (places : List Nat) (s : Store) : Store where
  threads := afterOperation op places s.threads
  labels :=
    match op with
    | .createLabel name => s.labels.insert name
    | _ => s.labels
  log := s.log ++ [⟨op, namesAt places s.threads⟩]

def carrying (label : String) (s : Store) : List Nat :=
  (s.threads.zipIdx.filter fun p => p.1.labels.contains label).map (·.2)

/-- The first `limit` threads that carry a label; a negative limit leaves out as many at the end. -/
def search (label : String) (limit : Int) (s : Store) : List Nat :=
  let found := s.carrying label
  found.take (if limit < 0 then found.length + limit else limit).toNat

end Store

end MailTriage
