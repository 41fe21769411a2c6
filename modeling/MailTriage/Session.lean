import MailTriage.Mail.Pending

namespace MailTriage

/-- Messages from `oldest` on are looked at. -/
structure Session where
  config : Config
  rules : List Rule
  oldest : Moment
  deriving Repr

namespace Session

/-- The length of the window in seconds: twice the time between two runs, so that none of them misses a
message. -/
def windowSeconds (c : Config) : Nat :=
  2 * c.frequency * 60

def starting (c : Config) (rules : List Rule) (start : Moment) : Except CalendarError Session :=
  match start.before? (windowSeconds c * Moment.second) with
  | some oldest => .ok ⟨c, rules, oldest⟩
  | none => .error .outOfRange

/-- The headers that the rules look at; views of messages hold no others. -/
def requestedHeaders (s : Session) : List String :=
  Rule.requestedHeaders s.rules

def pending (s : Session) (t : Thread) : Except CalendarError PendingThread :=
  PendingThread.ofThread s.oldest s.requestedHeaders t

end Session

end MailTriage
