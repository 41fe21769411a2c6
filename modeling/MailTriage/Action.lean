import MailTriage.Label.Basic

namespace MailTriage

inductive Switch where
  | unset | enable | disable
  deriving DecidableEq, Repr

/-- Where a thread goes. To nowhere is a decision too, unlike no setting. -/
inductive Destination where
  | unset | inbox | archive | trash | nothing
  deriving DecidableEq, Repr

/-- What follows when a rule has matched a message: nothing more, the rest of its stage, or the later
stages. -/
inductive FollowUp where
  | unset | done | finishStage | nextStage
  deriving DecidableEq, Repr

namespace Switch

def name : Switch → String
  | unset => "default"
  | enable => "enable"
  | disable => "disable"

/-- The later of two settings, unless it says nothing. -/
def merge (a : Switch) : Switch → Switch
  | unset => a
  | b => b

def every : List Switch :=
  [unset, enable, disable]

end Switch

namespace Destination

def name : Destination → String
  | unset => "default"
  | inbox => "inbox"
  | archive => "archive"
  | trash => "trash"
  | nothing => "nothing"

def capitals : Destination → String
  | unset => "DEFAULT"
  | inbox => "INBOX"
  | archive => "ARCHIVE"
  | trash => "TRASH"
  | nothing => "NOTHING"

def merge (a : Destination) : Destination → Destination
  | unset => a
  | b => b

def every : List Destination :=
  [unset, inbox, archive, trash, nothing]

end Destination

namespace FollowUp

def name : FollowUp → String
  | unset => "default"
  | done => "done"
  | finishStage => "finish_stage"
  | nextStage => "next_stage"

def capitals : FollowUp → String
  | unset => "DEFAULT"
  | done => "DONE"
  | finishStage => "FINISH_STAGE"
  | nextStage => "NEXT_STAGE"

def merge (a : FollowUp) : FollowUp → FollowUp
  | unset => a
  | b => b

def every : List FollowUp :=
  [unset, done, finishStage, nextStage]

end FollowUp

structure Action where
  labels : LabelSet := .empty
  moveTo : Destination := .unset
  important : Switch := .unset
  read : Switch := .unset
  autoLabel : Switch := .unset
  followUp : FollowUp := .unset
  deriving DecidableEq, Repr

namespace Action

def none : Action := {}

/-- Whether the action would change a thread, or says that it is to stay where it is. -/
def hasEffect (a : Action) : Bool :=
  !a.labels.isEmpty || a.moveTo != .unset || a.important != .unset || a.read != .unset

def merge (a b : Action) : Action where
  labels := a.labels.union b.labels
  moveTo := a.moveTo.merge b.moveTo
  important := a.important.merge b.important
  read := a.read.merge b.read
  autoLabel := a.autoLabel.merge b.autoLabel
  followUp := a.followUp.merge b.followUp

def addLabels (a : Action) (names : List String) (parents : Bool) : Action :=
  { a with labels := a.labels.insertAll (if parents then names.flatMap Label.withParents else names) }

def switchText (letter : String) : Switch → String
  | .unset => ""
  | .enable => " +" ++ letter
  | .disable => " -" ++ letter

def summary (a : Action) : String :=
  ">" ++ a.moveTo.capitals ++ " +L[" ++ ", ".intercalate a.labels.names ++ "]" ++
    switchText "I" a.important ++ switchText "R" a.read ++ switchText "A" a.autoLabel

/-- The action for a thread that could not be handled: into the inbox under one label, whatever its
labels were to be. -/
def failed (a : Action) (label : String) : Action :=
  { a with moveTo := .inbox, labels := LabelSet.empty.insert label }

end Action

end MailTriage
