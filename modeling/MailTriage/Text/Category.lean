import MailTriage.Text.CategoryTable

namespace MailTriage.Text

/-- General categories, merged where nothing here tells them apart. -/
inductive Category where
  | casedLetter | modifierLetter | otherLetter
  | nonspacingMark | spacingMark | enclosingMark
  | decimalDigit | letterNumber | otherNumber
  | connector | format | modifierSymbol | blankSeparator
  | otherPrintable | otherUnprintable
  deriving DecidableEq, Repr

def Category.ofNumber : Nat → Category
  | 0 => casedLetter
  | 1 => modifierLetter
  | 2 => otherLetter
  | 3 => nonspacingMark
  | 4 => spacingMark
  | 5 => enclosingMark
  | 6 => decimalDigit
  | 7 => letterNumber
  | 8 => otherNumber
  | 9 => connector
  | 10 => format
  | 11 => modifierSymbol
  | 12 => blankSeparator
  | 13 => otherPrintable
  | _ => otherUnprintable

/-- The last entry of an ascending table, at an index from `lo` on and below `hi`, that is at most
`key`; the entry at `lo` is taken to be so. Each step halves the range. -/
def lastBelow (table : Array Nat) (key : Nat) : (fuel lo hi : Nat) → Nat
  | 0, lo, _ => table.getD lo 0
  | fuel + 1, lo, hi =>
    let mid := (lo + hi) / 2
    if mid == lo then table.getD lo 0
    else if table.getD mid 0 ≤ key then lastBelow table key fuel mid hi
    else lastBelow table key fuel lo mid

def categoryRun (code : Nat) : Nat :=
  lastBelow categoryRuns (16 * code + 15) 13 0 categoryRuns.size

def categoryOf (code : Nat) : Category :=
  .ofNumber (categoryRun code % 16)

/-- The value of a decimal digit of any script. The digits of a script are consecutive, and so
are the scripts of one run. -/
def digitValue? (c : Char) : Option Nat :=
  if c.toNat < 128 then
    if c.isDigit then some (c.toNat - '0'.toNat) else none
  else
    let run := categoryRun c.toNat
    if Category.ofNumber (run % 16) = .decimalDigit then some ((c.toNat - run / 16) % 10) else none

def isDigit (c : Char) : Bool :=
  (digitValue? c).isSome

def Category.isLetter : Category → Bool
  | casedLetter | modifierLetter | otherLetter => true
  | _ => false

def isLetter (c : Char) : Bool :=
  if c.toNat < 128 then c.isAlpha else (categoryOf c.toNat).isLetter

/-- Letters and numbers of every kind, and the low line. -/
def isWordChar (c : Char) : Bool :=
  if c.toNat < 128 then c.isAlphanum || c == '_'
  else
    match categoryOf c.toNat with
    | .decimalDigit | .letterNumber | .otherNumber => true
    | k => k.isLetter

/-- Characters shown as themselves: no controls, no separators but the space, nothing unassigned. -/
def isPrintable (c : Char) : Bool :=
  if c.toNat < 128 then 32 ≤ c.toNat && c.toNat < 127
  else
    match categoryOf c.toNat with
    | .blankSeparator | .format | .otherUnprintable => false
    | _ => true

/-- Letters whose compatibility form begins with a mark or a space, and so cannot start a name. -/
def isDetachedLetter (code : Nat) : Bool :=
  code == 0x37a || code == 0x2e2f || (0xfc5e ≤ code && code ≤ 0xfc63) || code == 0xfdfa ||
    code == 0xfdfb ||
    code == 0xfe70 || code == 0xfe72 || code == 0xfe74 || code == 0xfe76 || code == 0xfe78 ||
    code == 0xfe7a || code == 0xfe7c || code == 0xfe7e

def isNameStart (c : Char) : Bool :=
  let n := c.toNat
  if n < 128 then c.isAlpha || c == '_'
  else if n == 0x1885 || n == 0x1886 || n == 0x2118 || n == 0x212e then true
  else if isDetachedLetter n || n == 0xe33 || n == 0xeb3 || n == 0xff9e || n == 0xff9f then false
  else
    match categoryOf n with
    | .letterNumber => true
    | k => k.isLetter

def isNamePart (c : Char) : Bool :=
  let n := c.toNat
  if n < 128 then c.isAlphanum || c == '_'
  else if n == 0xb7 || n == 0x387 || (0x1369 ≤ n && n ≤ 0x1371) || n == 0x19da || n == 0x2118 ||
    n == 0x212e then true
  else if isDetachedLetter n then false
  else
    match categoryOf n with
    | .letterNumber | .decimalDigit | .nonspacingMark | .spacingMark | .connector => true
    | k => k.isLetter

/-- A name: a start character followed by name characters. -/
def isName : List Char → Bool
  | [] => false
  | c :: s => isNameStart c && s.all isNamePart

end MailTriage.Text
