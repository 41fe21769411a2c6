import MailTriage.Action
import MailTriage.Store.Basic

namespace MailTriage

/-- Threads stand in the order in which they came; labels in the order in which they were first asked
for. -/
structure Plan where
  labels : List (String × List Nat) := []
  moves : Destination → List Nat := fun _ => []
  important : Switch → List Nat := fun _ => []
  read : Switch → List Nat := fun _ => []

namespace Plan

def addToGroup (thread : Nat) (name : String) : List (String × List Nat) → List (String × List Nat)
  | [] => [(name, [thread])]
  | (n, threads) :: groups =>
    if n = name then (n, threads ++ [thread]) :: groups
    else (n, threads) :: addToGroup thread name groups

/-- Adds a thread behind those that go with one value of a setting. -/
def addUnder {α : Type} [DecidableEq α] (value : α) (thread : Nat) (groups : α → List Nat) (a : α) :
    List Nat :=
  if a = value then groups a ++ [thread] else groups a

def add (p : Plan) (item : Nat × Action) : Plan :=
  let (thread, a) := item
  { labels := a.labels.names.foldl (fun groups name => addToGroup thread name groups) p.labels
    moves := addUnder a.moveTo thread p.moves
    important := addUnder a.important thread p.important
    read := addUnder a.read thread p.read }

def ofActions (items : List (Nat × Action)) : Plan :=
  items.foldl add {}

/-- The operations on the state of threads, in the order in which they are done; no operation is done to
no thread. -/
def operations (p : Plan) : List (Operation × List Nat) :=
  [(Operation.moveToInbox, p.moves .inbox), (.moveToArchive, p.moves .archive),
    (.moveToTrash, p.moves .trash), (.markImportant, p.important .enable),
    (.markUnimportant, p.important .disable), (.markRead, p.read .enable),
    (.markUnread, p.read .disable)].filter fun o => !o.2.isEmpty

end Plan

end MailTriage
