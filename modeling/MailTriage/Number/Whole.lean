import MailTriage.Text.Blank
import MailTriage.Text.Category

namespace MailTriage.Number

/-- The number that digits write, after the digits of `n`. -/
def ofDigits (n : Nat) : List Nat → Nat
  | [] => n
  | d :: s => ofDigits (10 * n + d) s

/-- Longer runs of digits are not read. -/
def maxDigits : Nat := 4300

/-- Digits, single low lines between them allowed; `digits` holds those read, last one first. -/
def groupedDigits? (digits : List Nat) : List Char → Option (List Nat)
  | [] => if digits.isEmpty then none else some digits.reverse
  | '_' :: c :: s =>
    if digits.isEmpty then none
    else
      match Text.digitValue? c with
      | some d => groupedDigits? (d :: digits) s
      | none => none
  | c :: s =>
    match Text.digitValue? c with
    | some d => groupedDigits? (d :: digits) s
    | none => none

/-- A number as people write it: white space around it, a sign, low lines between digits. -/
def readInt? (s : List Char) : Option Int :=
  let unsigned (s : List Char) : Option Nat := do
    let digits ← groupedDigits? [] s
    if digits.length ≤ maxDigits then some (ofDigits 0 digits) else none
  match Text.trim s with
  | '-' :: s => (unsigned s).map fun n => -(n : Int)
  | '+' :: s => (unsigned s).map fun n => (n : Int)
  | s => (unsigned s).map fun n => (n : Int)

end MailTriage.Number
