import MailTriage.Condition.Basic
import MailTriage.Mail.Address
import MailTriage.Mail.Thread

namespace MailTriage

structure MessageView where
  author : String
  recipients : List String
  cc : List String
  bcc : List String
  list : String
  replyTo : List String
  subject : String
  body : String
  headers : List (String × String)
  state : ThreadState
  threadSubject : String
  labels : List String
  deriving DecidableEq, Repr

namespace MessageView

/-- Bodies are looked at up to this many characters. -/
def maxBody : Nat := 65535

def isCut (m : Message) : Bool :=
  maxBody < m.body.length

def shownBody (m : Message) : String :=
  if isCut m then String.ofList (m.body.toList.take maxBody) else m.body

/-- The headers that are asked for, where the message has them; all of them, if `requested` is
`none`. -/
def shownHeaders (requested : Option (List String)) (m : Message) : List (String × String) :=
  match requested with
  | none => m.headers
  | some names => names.filterMap fun name => (m.header? name).map fun value => (name, value)

def ofMessage (requested : Option (List String)) (t : Thread) (m : Message) : MessageView where
  author := m.author
  recipients := Mail.addresses m.recipient
  cc := Mail.addresses m.cc
  bcc := Mail.addresses m.bcc
  list := Mail.listAddress m.raw
  replyTo := Mail.addresses m.replyTo
  subject := m.subject
  body := shownBody m
  headers := shownHeaders requested m
  state := t.state
  threadSubject := t.subject
  labels := t.labels

def senders (m : MessageView) : List String :=
  m.author :: m.replyTo

/-- All addresses that the message went to, the mailing list among them. -/
def receivers (m : MessageView) : List String :=
  m.recipients ++ m.cc ++ m.bcc ++ (if m.list.isEmpty then [] else [m.list])

def header? (m : MessageView) (name : String) : Option String :=
  (m.headers.find? (·.1 == name)).map (·.2)

/-- The texts of a field, of which a pattern has to match one. -/
def texts (m : MessageView) : Field → List String
  | .subject => [m.subject]
  | .fromAddress => [m.author]
  | .toAddress => m.recipients
  | .ccAddress => m.cc
  | .bccAddress => m.bcc
  | .list => [m.list]
  | .sender => m.senders
  | .receiver => m.receivers
  | .body => [m.body]

def threadTexts (m : MessageView) : ThreadText → List String
  | .firstSubject => [m.threadSubject]
  | .label => m.labels

end MessageView

def ThreadState.has (s : ThreadState) : ThreadFlag → Bool
  | .starred => s.starred
  | .important => s.important
  | .inInbox => s.inInbox
  | .inPriorityInbox => s.inPriorityInbox
  | .inSpam => s.inSpam
  | .inTrash => s.inTrash
  | .unread => s.unread

namespace Condition

mutual

/-- Whether a condition holds of a message. A header that is not there matches no pattern. -/
def holds (m : MessageView) : Condition → Bool
  | all cs => allHold m cs
  | any cs => anyHolds m cs
  | not c => !holds m c
  | field f p => (m.texts f).any p.found
  | header name p => (m.header? name).any p.found
  | threadText t p => (m.threadTexts t).any p.found
  | threadFlag f => m.state.has f

def allHold (m : MessageView) : List Condition → Bool
  | [] => true
  | c :: cs => holds m c && allHold m cs

def anyHolds (m : MessageView) : List Condition → Bool
  | [] => false
  | c :: cs => holds m c || anyHolds m cs

end

end Condition

end MailTriage
