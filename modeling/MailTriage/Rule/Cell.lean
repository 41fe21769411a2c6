import MailTriage.Action
import MailTriage.Number.Whole
import MailTriage.Text.LetterCase
import MailTriage.Text.Split

namespace MailTriage.Rule

inductive CellError where
  | unknownDestination (text : String)
  | unknownFollowUp (text : String)
  | numberTooLong
  deriving DecidableEq, Repr

namespace CellError

/-- The words for what is wrong; none, where only a number is out of bounds. -/
def message? : CellError → Option String
  | unknownDestination t => some ("Can't parse inbox action value " ++ t ++ ".")
  | unknownFollowUp t => some ("Can't parse action_after_match value " ++ t ++ ".")
  | numberTooLong => none

end CellError

def negations : List String :=
  ["-1", "0", "no", "n", "false", "f"]

/-- Whether a cell means "yes": whatever is not blank and does not mean "no". -/
def readFlag (cell : String) : Bool :=
  let cell := trimmed cell
  !cell.isEmpty && !negations.contains (lowerCase cell)

def readSwitch (cell : String) : Switch :=
  if (trimmed cell).isEmpty then .unset else if readFlag cell then .enable else .disable

def readDestination (cell : String) : Except CellError Destination :=
  let cell := trimmed cell
  if cell.isEmpty then .ok .unset
  else
    match Destination.every.find? (·.capitals == upperCase cell) with
    | some d => .ok d
    | none => .error (.unknownDestination cell)

def readFollowUp (cell : String) : Except CellError FollowUp :=
  let cell := trimmed cell
  if cell.isEmpty then .ok .unset
  else
    match FollowUp.every.find? (·.capitals == upperCase cell) with
    | some f => .ok f
    | none => .error (.unknownFollowUp cell)

/-- The number that a text starts with: its sign and digits, if it has any. -/
def leadingInt? (s : List Char) : Option (Bool × List Nat) :=
  let (negative, s) :=
    match s with
    | '-' :: s => (true, s)
    | '+' :: s => (false, s)
    | s => (false, s)
  let digits := (s.takeWhile Text.isDigit).filterMap Text.digitValue?
  if digits.isEmpty then none else some (negative, digits)

/-- The stage that a cell starts with; a cell without one names no stage. -/
def readStage (unnumbered : Int) (cell : String) : Except CellError Int :=
  match leadingInt? (Text.trim cell.toList) with
  | none => .ok unnumbered
  | some (negative, digits) =>
    if Number.maxDigits < digits.length then .error .numberTooLong
    else
      let n : Int := Number.ofDigits 0 digits
      .ok (if negative then -n else n)

def readList? (delimiter cell : String) : Option (List String) :=
  if delimiter.isEmpty then none
  else
    some ((Text.trimmedPieces (Text.splitAtText delimiter.toList cell.toList)).map String.ofList)

def readLabels (cell : String) : List String :=
  (Text.trimmedPieces (Text.splitAtChar ',' cell.toList)).map String.ofList

end MailTriage.Rule
