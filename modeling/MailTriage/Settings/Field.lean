import MailTriage.Document.Basic
import MailTriage.Number.Whole

namespace MailTriage.Settings

inductive Problem where
  | notWhole
  | notFinite
  | unreadableInt
  | oversizedInt
  | notInt
  | unreadableBool
  | notBool
  | notText
  | tooShort
  | tooSmall
  | tooLarge
  | unknownField
  deriving DecidableEq, Repr

def Problem.code : Problem → String
  | notWhole => "int_from_float"
  | notFinite => "finite_number"
  | unreadableInt => "int_parsing"
  | oversizedInt => "int_parsing_size"
  | notInt => "int_type"
  | unreadableBool => "bool_parsing"
  | notBool => "bool_type"
  | notText => "string_type"
  | tooShort => "string_too_short"
  | tooSmall => "greater_than_equal"
  | tooLarge => "less_than_equal"
  | unknownField => "extra_forbidden"

/-- White space around numbers: all of it but the separators of records. -/
def isPadding (c : Char) : Bool :=
  Text.isBlank c && !(28 ≤ c.toNat && c.toNat ≤ 31)

/-- A whole number as it is written in the end: a minus, and digits that start with no zero too many. -/
def plainInt? (s : List Char) : Except Problem Int :=
  let (negative, digits) :=
    match s with
    | '-' :: s => (true, s)
    | s => (false, s)
  if digits.isEmpty || !digits.all Char.isDigit then .error .unreadableInt
  else if digits.head? = some '0' && 1 < digits.length then .error .unreadableInt
  else if Number.maxDigits < digits.length then .error .oversizedInt
  else
    let n : Int := Number.ofDigits 0 (digits.filterMap Text.digitValue?)
    .ok (if negative then -n else n)

/-- A number without its leading zeros, the low lines among them included; `last` is the character
before. What starts with neither a digit nor a minus is no number. -/
def dropLeadingZeros? (last : Char) : List Char → Option (List Char)
  | [] => some [last]
  | c :: s =>
    if c == '0' || c == '_' then dropLeadingZeros? c s
    else if c.isDigit then some (c :: s)
    else if c == '.' then some (last :: c :: s)
    else none

def withoutLeadingZeros? : List Char → Option (List Char)
  | '0' :: s => dropLeadingZeros? '0' s
  | c :: s => if c.isDigit || c == '-' then some (c :: s) else none
  | [] => none

def withoutZeroFraction (s : List Char) : List Char :=
  match s.dropWhile (· != '.') with
  | '.' :: fraction => if fraction.all (· == '0') then s.takeWhile (· != '.') else s
  | _ => s

/-- Whether low lines stand only one by one between other characters. -/
def isGrouped (last : Char) : List Char → Bool
  | [] => last != '_'
  | c :: s => !(last == '_' && c == '_') && isGrouped c s

def withoutLowLines (s : List Char) : List Char :=
  if isGrouped '_' s then s.filter (· != '_') else s

/-- A number with white space around it, a plus, leading zeros, low lines or a fraction of zeros. -/
def tidyInt? (s : List Char) : Option (List Char) :=
  let s := ((s.dropWhile isPadding).reverse.dropWhile isPadding).reverse
  let s :=
    match s with
    | '+' :: s => s
    | s => s
  (withoutLeadingZeros? s).map fun s => withoutLowLines (withoutZeroFraction s)

def intOfText (s : List Char) : Except Problem Int :=
  match plainInt? s with
  | .ok n => .ok n
  | .error .oversizedInt => .error .oversizedInt
  | .error _ =>
    match tidyInt? s with
    | some s => plainInt? s
    | none => .error .unreadableInt

/-- Floating-point numbers are read as whole ones within these bounds. -/
def maxWhole : Int := 0x8000000000000000

def intOfFloat (x : Binary64) : Except Problem Int :=
  match x with
  | .finite .. =>
    match x.toInt? with
    | some n => if -maxWhole < n && n < maxWhole then .ok n else .error .oversizedInt
    | none => .error .notWhole
  | _ => .error .notFinite

def readInt : Document → Except Problem Int
  | .int n => .ok n
  | .bool b => .ok (if b then 1 else 0)
  | .float x => intOfFloat x
  | .text s => intOfText s.toList
  | _ => .error .notInt

def yesWords : List String := ["1", "on", "t", "true", "y", "yes"]

def noWords : List String := ["0", "off", "f", "false", "n", "no"]

def boolOfInt (n : Int) : Except Problem Bool :=
  if n = 0 then .ok false
  else if n = 1 then .ok true
  else if -maxWhole ≤ n && n < maxWhole then .error .unreadableBool
  else .error .notBool

def readBool : Document → Except Problem Bool
  | .bool b => .ok b
  | .int n => boolOfInt n
  | .float x =>
    match intOfFloat x with
    | .ok n => boolOfInt n
    | .error _ => .error .notBool
  | .text s =>
    let word := String.ofList (s.toList.map Char.toLower)
    if yesWords.contains word then .ok true
    else if noWords.contains word then .ok false
    else .error .unreadableBool
  | _ => .error .notBool

def readText : Document → Except Problem String
  | .text s => .ok s
  | _ => .error .notText

/-- What passes for a number, for a switch and for a text. Each of them passes for itself, and nothing but
a text passes for a text. -/
structure Coercion where
  int : Document → Except Problem Int
  bool : Document → Except Problem Bool
  text : Document → Except Problem String
  int_int : ∀ n, int (.int n) = .ok n
  bool_bool : ∀ b, bool (.bool b) = .ok b
  text_eq_ok_iff : ∀ d s, text d = .ok s ↔ d = .text s

/-- Numbers and switches may be written as text, and as one another where nothing is lost. -/
def Coercion.lax : Coercion where
  int := readInt
  bool := readBool
  text := readText
  int_int _ := rfl
  bool_bool _ := rfl
  text_eq_ok_iff d s := by cases d <;> simp [readText]

def readBounded (k : Coercion) (least : Int) (most : Option Int) (d : Document) :
    Except Problem Nat := do
  let n ← k.int d
  if n < least then throw .tooSmall
  else if most.any (· < n) then throw .tooLarge
  else return n.toNat

def trimText : Document → Document
  | .text s => .text (trimmed s)
  | d => d

/-- The name of a label, which is trimmed before anything else. -/
def readLabel (k : Coercion) (d : Document) : Except Problem String := do
  let s ← k.text (trimText d)
  if s.isEmpty then throw .tooShort else return s

def readField {α : Type} (read : Document → Except Problem α) (default : α)
    (entries : List (String × Document)) (key : String) : Except Problem α :=
  match Document.lookup? key entries with
  | some d => read d
  | none => .ok default

def problemOf {α : Type} (key : String) : Except Problem α → List (String × Problem)
  | .ok _ => []
  | .error p => [(key, p)]

def valueOr {α : Type} (default : α) : Except Problem α → α
  | .ok a => a
  | .error _ => default

end MailTriage.Settings
