import MailTriage.Rule.Basic
import MailTriage.Rule.Cell

/-!
Rule tables. The first row names the columns, every further row is a rule; rows without a condition
and disabled rows are passed over unread.
-/

namespace MailTriage.Rule

inductive Column where
  | conditions | addLabels | moveTo | markImportant | markRead | stage | autoLabel | disabled
  | followUp
  deriving DecidableEq, Repr

namespace Column

def name : Column → String
  | conditions => "conditions"
  | addLabels => "add_labels"
  | moveTo => "move_to"
  | markImportant => "mark_important"
  | markRead => "mark_read"
  | stage => "stage"
  | autoLabel => "auto_label"
  | disabled => "disabled"
  | followUp => "action_after_match"

def every : List Column :=
  [conditions, addLabels, moveTo, markImportant, markRead, stage, autoLabel, disabled, followUp]

def named? (s : String) : Option Column :=
  every.find? (·.name == s)

end Column

inductive RowError where
  | cell (error : CellError)
  | condition (error : ConditionError)
  deriving DecidableEq, Repr

inductive TableError where
  | unknownColumn (name : String)
  | missingColumns (names : List String)
  | row (number : Nat) (error : RowError)
  deriving DecidableEq, Repr

/-- The words for what is wrong; none, where only a number is out of bounds. -/
def RowError.message? : RowError → Option String
  | cell e => e.message?
  | condition e => e.message?

def TableError.message? : TableError → Option String
  | unknownColumn name => some ("Invalid rule header:\"" ++ name ++ "\"")
  | missingColumns names => some ("Missing rule headers: " ++ ", ".intercalate names)
  | row n e => e.message?.map fun m => "Rule in row " ++ toString n ++ ": " ++ m

/-- Where each column stands, for the columns named so far; of two columns with one name the later
one counts. -/
abbrev Layout := Column → Option Nat

def layoutFrom (index : Nat) (layout : Layout) : List String → Except TableError Layout
  | [] => .ok layout
  | s :: header =>
    match Column.named? (trimmed s) with
    | none => .error (.unknownColumn (trimmed s))
    | some c => layoutFrom (index + 1) (fun d => if d = c then some index else layout d) header

def layout (header : List String) : Except TableError Layout := do
  let l ← layoutFrom 0 (fun _ => none) header
  let missing := Column.every.filter fun c => (l c).isNone
  if missing.isEmpty then return l else throw (.missingColumns (missing.map (·.name)))

/-- The trimmed cell of a column; cells missing at the end of a row are empty. -/
def cell (l : Layout) (row : List String) (c : Column) : String :=
  match l c with
  | some index => trimmed (row.getD index "")
  | none => ""

def isEnabled (l : Layout) (row : List String) : Bool :=
  !(cell l row .conditions).isEmpty && !readFlag (cell l row .disabled)

def liftCell {α : Type} (a : Except CellError α) : Except RowError α :=
  a.mapError .cell

/-- The rule of an enabled row. Cells are read in a fixed order, the condition last. -/
def ofRow (l : Layout) (parents : Bool) (row : List String) : Except RowError Rule := do
  let moveTo ← liftCell (readDestination (cell l row .moveTo))
  let followUp ← liftCell (readFollowUp (cell l row .followUp))
  let action : Action :=
    { moveTo := moveTo
      important := readSwitch (cell l row .markImportant)
      read := readSwitch (cell l row .markRead)
      autoLabel := readSwitch (cell l row .autoLabel)
      followUp := followUp }
  let stage ← liftCell (readStage lastStage (cell l row .stage))
  let condition ← (Condition.parse (cell l row .conditions)).mapError RowError.condition
  return ⟨condition, action.addLabels (readLabels (cell l row .addLabels)) parents, stage⟩

def ofRows (l : Layout) (parents : Bool) (number : Nat) :
    List (List String) → Except TableError (List (Nat × Rule))
  | [] => .ok []
  | row :: rows =>
    if isEnabled l row then
      match ofRow l parents row with
      | .error e => .error (.row number e)
      | .ok r => do return (number, r) :: (← ofRows l parents (number + 1) rows)
    else ofRows l parents (number + 1) rows

def numberedRules (parents : Bool) : List (List String) → Except TableError (List (Nat × Rule))
  | [] => .ok []
  -- The header is row 1.
  | header :: rows => do ofRows (← layout header) parents 2 rows

def ofTable (parents : Bool) (rows : List (List String)) : Except TableError (List Rule) := do
  return sortByStage ((← numberedRules parents rows).map (·.2))

/-- The warning about a rule whose stage comes before the first one that is run. -/
def warning? (number : Nat) (r : Rule) : Option String :=
  if r.stage < 0 then
    some ("Rule in row " ++ toString number ++ " has negative stage " ++ toString r.stage ++
      " and will never run: " ++ r.condition.toExpression)
  else none

def warnings (parents : Bool) (rows : List (List String)) : List String :=
  match numberedRules parents rows with
  | .ok rules => rules.filterMap fun (n, r) => warning? n r
  | .error _ => []

end MailTriage.Rule
