import MailTriage.Text.Category
import MailTriage.Text.LetterCaseTable

namespace MailTriage.Text

/-- The run of an ascending table that covers a code point. Each step halves the range, whose
first run starts at or before the code point. -/
def findRun (table : Array CaseRun) (code : Nat) : (fuel lo hi : Nat) → Option CaseRun
  | 0, _, _ => none
  | fuel + 1, lo, hi =>
    let mid := (lo + hi) / 2
    match table[mid]? with
    | none => none
    | some r =>
      if mid == lo then if r.covers code then some r else none
      else if r.first ≤ code then findRun table code fuel mid hi
      else findRun table code fuel lo mid

def valueAt? {α : Type} (table : Array (Nat × α)) (key : Nat) : Option α :=
  (table.find? (·.1 == key)).map (·.2)

/-- The lower case of a code point; of several code points, the first. -/
def lowerCode (code : Nat) : Nat :=
  if code < 128 then if 65 ≤ code && code ≤ 90 then code + 32 else code
  else if code == 0x130 then 0x69
  else
    match findRun lowerRuns code 9 0 lowerRuns.size with
    | some r => r.apply code
    | none => code

def upperCodes (code : Nat) : List Nat :=
  if code < 128 then if 97 ≤ code && code ≤ 122 then [code - 32] else [code]
  else
    match findRun upperRuns code 9 0 upperRuns.size with
    | some r => [r.apply code]
    | none => (valueAt? longUpper code).getD [code]

/-- The upper case of a code point; of several code points, the first. -/
def upperCode (code : Nat) : Nat :=
  (upperCodes code).headD code

def upperChar (c : Char) : List Char :=
  (upperCodes c.toNat).map Char.ofNat

def upper (s : List Char) : List Char :=
  s.flatMap upperChar

/-- Characters that do not end a word for the form of a final sigma. -/
def isCaseIgnorable (c : Char) : Bool :=
  let n := c.toNat
  if n < 128 then n == 0x27 || n == 0x2e || n == 0x3a || n == 0x5e || n == 0x60
  else if n == 0xb7 || n == 0x387 || n == 0x55f || n == 0x5f4 || n == 0x2018 || n == 0x2019 ||
    n == 0x2024 || n == 0x2027 || n == 0xfe13 || n == 0xfe52 || n == 0xfe55 || n == 0xff07 ||
    n == 0xff0e || n == 0xff1a then true
  else
    match categoryOf n with
    | .nonspacingMark | .enclosingMark | .format | .modifierLetter | .modifierSymbol => true
    | _ => false

def isCased (c : Char) : Bool :=
  let n := c.toNat
  if n < 128 then c.isAlpha
  else if n == 0xaa || n == 0xba || (0x2160 ≤ n && n ≤ 0x217f) || (0x24b6 ≤ n && n ≤ 0x24e9) ||
    (0x1f130 ≤ n && n ≤ 0x1f149) || (0x1f150 ≤ n && n ≤ 0x1f169) ||
    (0x1f170 ≤ n && n ≤ 0x1f189) then true
  else categoryOf n == .casedLetter

/-- Whether the first character that is not case-ignorable has a letter case. -/
def meetsCased (s : List Char) : Bool :=
  (s.dropWhile isCaseIgnorable).head?.any isCased

/-- The lower case of a character between the texts `before`, last character first, and `after`.
A capital sigma that ends a word has a form of its own. -/
def lowerChar (before : List Char) (c : Char) (after : List Char) : List Char :=
  if c == 'Σ' then
    if meetsCased before && !meetsCased after then ['ς'] else ['σ']
  else if c == 'İ' then ['i', Char.ofNat 0x307]
  else [Char.ofNat (lowerCode c.toNat)]

/-- `done` is the lower case of `before`; both are kept last character first. -/
def lowerOnto (done before : List Char) : List Char → List Char
  | [] => done.reverse
  | c :: s => lowerOnto ((lowerChar before c s).reverse ++ done) (c :: before) s

def lower (s : List Char) : List Char :=
  lowerOnto [] [] s

def hasCase (code : Nat) : Bool :=
  lowerCode code != code || upperCode code != code

def variants (code : Nat) : List Nat :=
  (valueAt? lowerVariants code).getD []

def lowerSources (code : Nat) : List Nat :=
  let mapped := lowerRuns.toList.filterMap (·.source? code)
  let mapped := if code == 0x69 then 0x130 :: mapped else mapped
  if lowerCode code == code then code :: mapped else mapped

end MailTriage.Text

namespace MailTriage

def upperCase (s : String) : String :=
  String.ofList (Text.upper s.toList)

def lowerCase (s : String) : String :=
  String.ofList (Text.lower s.toList)

end MailTriage
