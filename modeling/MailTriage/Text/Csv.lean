import MailTriage.Text.Blank

/-!
Tables as text: rows end with their lines, and cells stand between commas. A cell that starts with a
double quote goes on to the next one, over commas and ends of lines; two of them in a row stand for one.
-/

namespace MailTriage.Csv

/-- Cells have at most this many characters. -/
def maxCell : Nat := 131072

inductive Error where
  | cellTooLong
  deriving DecidableEq, Repr

/-- How far a row has been read: nothing of it yet, a cell is about to start, inside a cell, inside
quotes, or behind a quote inside quotes. -/
inductive Place where
  | rowStart | cellStart | inCell | inQuotes | afterQuote
  deriving DecidableEq, Repr

/-- What was read so far; the last character and the last cell come first. -/
structure Reader where
  rows : List (List (List Char)) := []
  row : List (List Char) := []
  cell : List Char := []
  length : Nat := 0
  place : Place := .rowStart

namespace Reader

def push (c : Char) (place : Place) (r : Reader) : Except Error Reader :=
  if maxCell ≤ r.length then .error .cellTooLong
  else .ok { r with cell := c :: r.cell, length := r.length + 1, place := place }

def endCell (r : Reader) : Reader :=
  { r with row := r.cell.reverse :: r.row, cell := [], length := 0, place := .cellStart }

/-- Ends a row; an empty line is a row without cells. -/
def endRow (r : Reader) : Reader :=
  match r.place with
  | .rowStart => { r with rows := [] :: r.rows }
  | _ =>
    let r := r.endCell
    { r with rows := r.row.reverse :: r.rows, row := [], place := .rowStart }

/-- Takes a character that does not end a line, or that stands inside quotes. -/
def take (c : Char) (r : Reader) : Except Error Reader :=
  match r.place with
  | .rowStart | .cellStart =>
    if c = '"' then .ok { r with place := .inQuotes }
    else if c = ',' then .ok r.endCell
    else r.push c .inCell
  | .inCell => if c = ',' then .ok r.endCell else r.push c .inCell
  | .inQuotes => if c = '"' then .ok { r with place := .afterQuote } else r.push c .inQuotes
  | .afterQuote =>
    if c = '"' then r.push c .inQuotes
    else if c = ',' then .ok r.endCell
    -- Text behind the closing quote belongs to the cell all the same.
    else r.push c .inCell

def finish (r : Reader) : List (List (List Char)) :=
  match r.place with
  | .rowStart => r.rows.reverse
  | _ => r.endRow.rows.reverse

end Reader

/-- Reads on. Lines end with a newline, a return, or both. -/
def readFrom (r : Reader) : List Char → Except Error (List (List (List Char)))
  | [] => .ok r.finish
  | '\r' :: '\n' :: s =>
    if r.place = .inQuotes then do readFrom (← (← r.take '\r').take '\n') s else readFrom r.endRow s
  | c :: s =>
    if (c = '\n' || c = '\r') && r.place != .inQuotes then readFrom r.endRow s
    else do readFrom (← r.take c) s

def read (text : String) : Except Error (List (List String)) := do
  let rows ← readFrom {} text.toList
  return rows.map fun row => row.map fun cell => String.ofList (Text.trim cell)

end MailTriage.Csv
