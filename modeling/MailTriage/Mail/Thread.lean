import MailTriage.Calendar.Moment

namespace MailTriage

structure Message where
  author : String
  recipient : String := ""
  cc : String := ""
  bcc : String := ""
  replyTo : String := ""
  subject : String := ""
  body : String := ""
  date : Option Moment := none
  headers : List (String × String) := []
  raw : String := ""
  deriving DecidableEq, Repr

namespace Message

def header? (m : Message) (name : String) : Option String :=
  (m.headers.find? (·.1 == name)).map (·.2)

end Message

structure ThreadState where
  important : Bool := false
  inInbox : Bool := true
  inPriorityInbox : Bool := false
  inSpam : Bool := false
  inTrash : Bool := false
  starred : Bool := false
  unread : Bool := true
  deriving DecidableEq, Repr

structure Thread where
  id : String
  messages : List Message
  labels : List String := []
  state : ThreadState := {}
  deriving DecidableEq, Repr

namespace Thread

def subject (t : Thread) : String :=
  (t.messages.head?.map (·.subject)).getD ""

end Thread

end MailTriage
