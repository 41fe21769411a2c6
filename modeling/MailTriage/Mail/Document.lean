import MailTriage.Calendar.Iso
import MailTriage.Document.Basic
import MailTriage.Mail.Thread

/-!
Threads written in a document. Keys may be left out or without a value; values that are no texts are
taken as they are shown.
-/

namespace MailTriage.Mail

inductive DocumentError where
  | notMapping
  | notList
  | noMessages (position : Nat)
  | invalidDate (text : String)
  deriving DecidableEq, Repr

/-- The words for a document that is refused; none, where a part of it has the wrong kind. -/
def DocumentError.message? : DocumentError → Option String
  | noMessages n => some ("Thread #" ++ toString n ++ " has no messages")
  | invalidDate s => some ("Invalid message date: " ++ s)
  | _ => none

def textOf : Option Document → String
  | none | some .null => ""
  | some d => d.shown

def momentOf : Option Document → Except DocumentError (Option Moment)
  | none | some .null => .ok none
  | some (.moment m) => .ok (some m)
  | some d =>
    if d.shown.isEmpty then .ok none
    else
      match Calendar.readMoment? d.shown with
      | some m => .ok (some m)
      | none => .error (.invalidDate d.shown)

/-- What a value holds one by one: items, keys, or characters. What is not present holds nothing. -/
def itemsOf (d : Option Document) : Except DocumentError (List Document) :=
  match d with
  | none => .ok []
  | some d =>
    if !d.isPresent then .ok []
    else
      match d with
      | .list items => .ok items
      | .map entries => .ok (entries.map fun e => .text e.1)
      | .text s => .ok (s.toList.map fun c => .text (String.singleton c))
      | _ => .error .notList

def entriesOf : Document → Except DocumentError (List (String × Document))
  | .map entries => .ok entries
  | _ => .error .notMapping

def headersOf (d : Option Document) : Except DocumentError (List (String × String)) :=
  match d with
  | none => .ok []
  | some d =>
    if d.isPresent then do
      return (← entriesOf d).map fun (k, v) => (k, textOf (some v))
    else .ok []

def messageOf (d : Document) : Except DocumentError Message := do
  let e ← entriesOf d
  let text (key : String) : String := textOf (Document.lookup? key e)
  let date ← momentOf (Document.lookup? "date" e)
  let headers ← headersOf (Document.lookup? "headers" e)
  return {
    author := text "from", recipient := text "to", cc := text "cc", bcc := text "bcc"
    replyTo := text "reply_to", subject := text "subject", body := text "body"
    date := date, headers := headers, raw := text "raw" }

/-- Whether a key has a value that is present; `default`, if the key is missing. -/
def flagOf (e : List (String × Document)) (key : String) (default : Bool) : Bool :=
  match Document.lookup? key e with
  | some d => d.isPresent
  | none => default

def threadOf (position : Nat) (d : Document) : Except DocumentError Thread := do
  let e ← entriesOf d
  let messages ← (← itemsOf (Document.lookup? "messages" e)).mapM messageOf
  if messages.isEmpty then throw (.noMessages position)
  let labels ← itemsOf (Document.lookup? "labels" e)
  return {
    id := match Document.lookup? "id" e with
      | some d => d.shown
      | none => toString position
    messages := messages
    labels := labels.map (·.shown)
    state := {
      important := flagOf e "important" false
      inInbox := flagOf e "in_inbox" true
      inPriorityInbox := flagOf e "in_priority_inbox" false
      inSpam := flagOf e "in_spam" false
      inTrash := flagOf e "in_trash" false
      starred := flagOf e "starred" false
      unread := flagOf e "unread" true } }

def threadsFrom (position : Nat) : List Document → Except DocumentError (List Thread)
  | [] => .ok []
  | d :: ds => do
    let t ← threadOf position d
    return t :: (← threadsFrom (position + 1) ds)

def threadsOf (entries : List (String × Document)) : Except DocumentError (List Thread) := do
  threadsFrom 1 (← itemsOf (Document.lookup? "threads" entries))

inductive ThreadsError where
  | notMapping (file : String)
  | document (error : DocumentError)
  deriving DecidableEq, Repr

def ThreadsError.message? : ThreadsError → Option String
  | notMapping file => some ("Threads file " ++ file ++ " should contain a mapping")
  | document e => e.message?

def threadsOfFile (file : String) (d : Document) : Except ThreadsError (List Thread) :=
  if !d.isPresent then .ok []
  else
    match d with
    | .map entries => (threadsOf entries).mapError .document
    | _ => .error (.notMapping file)

end MailTriage.Mail
