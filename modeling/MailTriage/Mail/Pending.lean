import MailTriage.Mail.View
import MailTriage.Rule.Evaluate

namespace MailTriage

/-- A moment that the calendar cannot hold was come across. -/
inductive CalendarError where
  | outOfRange
  deriving DecidableEq, Repr

/-- Whether a message is newer than the start of the window; messages without a date are. A clock that
is known on one side only is set to universal time there. -/
def isNewer (oldest : Moment) (date : Option Moment) : Except CalendarError Bool :=
  match date with
  | none => .ok true
  | some d =>
    match d.offset, oldest.offset with
    | some _, none =>
      match d.universal? with
      | some t => .ok (oldest.wall < t)
      | none => .error .outOfRange
    | none, some _ =>
      match oldest.universal? with
      | some t => .ok (t < d.wall)
      | none => .error .outOfRange
    | _, _ => .ok (oldest.instant < d.instant)

def newerMessages (oldest : Moment) : List Message → Except CalendarError (List Message)
  | [] => .ok []
  | m :: ms => do
    let newer ← isNewer oldest m.date
    let rest ← newerMessages oldest ms
    return if newer then m :: rest else rest

/-- The messages to look at: the newer ones, or the last one if there are none. -/
def messagesToShow (oldest : Moment) (messages : List Message) :
    Except CalendarError (List Message) := do
  let newer ← newerMessages oldest messages
  return if newer.isEmpty then messages.getLast?.toList else newer

structure PendingThread where
  thread : Thread
  views : List MessageView
  /-- What is told about messages left out or cut. -/
  notes : List String := []
  action : Action := .none
  deriving Repr

/-- Why no action can be applied to a thread: none of its messages asked for one. -/
structure Unmatched where
  subject : String
  sender : String
  receiver : String
  action : Action
  deriving DecidableEq, Repr

def Unmatched.message (u : Unmatched) : String :=
  "Thread \"" ++ u.subject ++ "\" from " ++ u.sender ++ " to " ++ u.receiver ++
    " has default action (" ++ u.action.summary ++ "), does it match any rule?"

namespace PendingThread

def cutNote (m : Message) : String :=
  "Ignoring the end of long message with subject \"" ++ m.subject ++ "\""

def dropNote (count : Nat) (t : Thread) : String :=
  "Ignoring oldest " ++ toString count ++ " messages in thread \"" ++ t.subject ++ "\""

def ofThread (oldest : Moment) (requested : Option (List String)) (t : Thread) :
    Except CalendarError PendingThread := do
  let shown ← messagesToShow oldest t.messages
  let dropped := t.messages.length - shown.length
  return {
    thread := t
    views := shown.map (MessageView.ofMessage requested t)
    notes := (shown.filter MessageView.isCut).map cutNote ++
      (if dropped = 0 then [] else [dropNote dropped t]) }

def unmatched (p : PendingThread) : Unmatched where
  subject := p.thread.subject
  sender := (p.thread.messages.getLast?.map (·.author)).getD ""
  receiver := (p.thread.messages.getLast?.map (·.recipient)).getD ""
  action := p.action

def collect (rules : List Rule) (config : Option Config) (p : PendingThread) : PendingThread :=
  { p with action := Rule.afterMessages rules config p.action p.views }

def problem? (p : PendingThread) : Option Unmatched :=
  if p.action.hasEffect then none else some p.unmatched

def failed (label : String) (p : PendingThread) : PendingThread :=
  { p with action := p.action.failed label }

end PendingThread

end MailTriage
