import MailTriage.Pattern

namespace MailTriage

/-- What a pattern can be held against in a message. `sender` is the author and the addresses for
replies, `receiver` all addresses that the message went to. -/
inductive Field where
  | subject | fromAddress | toAddress | ccAddress | bccAddress | list | sender | receiver | body
  deriving DecidableEq, Repr

inductive ThreadText where
  | firstSubject | label
  deriving DecidableEq, Repr

inductive ThreadFlag where
  | starred | important | inInbox | inPriorityInbox | inSpam | inTrash | unread
  deriving DecidableEq, Repr

inductive Condition where
  | all (conditions : List Condition)
  | any (conditions : List Condition)
  | not (condition : Condition)
  | field (f : Field) (pattern : Pattern)
  | header (name : String) (pattern : Pattern)
  | threadText (t : ThreadText) (pattern : Pattern)
  | threadFlag (f : ThreadFlag)
  deriving Repr

namespace Field

def name : Field → String
  | subject => "subject"
  | fromAddress => "from"
  | toAddress => "to"
  | ccAddress => "cc"
  | bccAddress => "bcc"
  | list => "list"
  | sender => "sender"
  | receiver => "receiver"
  | body => "body"

def every : List Field :=
  [subject, fromAddress, toAddress, ccAddress, bccAddress, list, sender, receiver, body]

/-- Whether the field holds addresses, so that bare patterns stand for whole addresses. -/
def isAddress : Field → Bool
  | subject | body => false
  | _ => true

end Field

namespace ThreadText

def name : ThreadText → String
  | firstSubject => "first_message_subject"
  | label => "label"

def every : List ThreadText :=
  [firstSubject, label]

/-- Labels are matched as a whole, like addresses. -/
def isAddress : ThreadText → Bool
  | firstSubject => false
  | label => true

end ThreadText

namespace ThreadFlag

def name : ThreadFlag → String
  | starred => "is_starred"
  | important => "is_important"
  | inInbox => "is_in_inbox"
  | inPriorityInbox => "is_in_priority_inbox"
  | inSpam => "is_in_spam"
  | inTrash => "is_in_trash"
  | unread => "is_unread"

def every : List ThreadFlag :=
  [starred, important, inInbox, inPriorityInbox, inSpam, inTrash, unread]

end ThreadFlag

namespace Condition

mutual

/-- The headers that the condition looks at, in the order and as often as they stand in it. -/
def headers : Condition → List String
  | all cs | any cs => headersOf cs
  | not c => c.headers
  | header name _ => [name]
  | _ => []

def headersOf : List Condition → List String
  | [] => []
  | c :: cs => c.headers ++ headersOf cs

end

mutual

/-- The condition as text: keywords in small letters, one space between parts. -/
def toExpression : Condition → String
  | all cs => "(" ++ "and" ++ expressions cs ++ ")"
  | any cs => "(" ++ "or" ++ expressions cs ++ ")"
  | not c => "(" ++ "not" ++ " " ++ c.toExpression ++ ")"
  | field f p => "(" ++ f.name ++ " " ++ p.source ++ ")"
  | header name p => "(" ++ "header" ++ " " ++ name ++ " " ++ p.source ++ ")"
  | threadText t p => "(" ++ "thread" ++ " " ++ t.name ++ " " ++ p.source ++ ")"
  | threadFlag f => "(" ++ "thread" ++ " " ++ f.name ++ ")"

def expressions : List Condition → String
  | [] => ""
  | c :: cs => " " ++ c.toExpression ++ expressions cs

end

end Condition

end MailTriage
