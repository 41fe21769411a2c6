import MailTriage.Calendar.Moment
import MailTriage.Text.CharName

/-!
Reading moments from texts in the basic and extended formats of ISO 8601. A day is written by its
month or by its week; any one character may stand between day and time.
-/

namespace MailTriage.Calendar

/-- Texts are read byte by byte, each byte standing for the character with its number. -/
def bytesOf (s : String) : List Char :=
  s.toUTF8.toList.map fun b => Char.ofNat b.toNat

def digits? : (n : Nat) → (value : Nat) → List Char → Option (Nat × List Char)
  | 0, value, s => some (value, s)
  | n + 1, value, c :: s => if c.isDigit then digits? n (10 * value + (c.toNat - 48)) s else none
  | _ + 1, _, [] => none

/-- Where the day ends. A week date without dashes ends before its weekday when that leaves whole
pairs of digits for the time. -/
def dayLengthOf? (s : List Char) : Option Nat :=
  let n := s.length
  if n < 7 then none
  else if n = 7 then some 7
  else if s[4]? = some '-' then
    if s[5]? = some 'W' then
      if s[8]? = some '-' then
        if n = 9 then none
        else if (s[10]?).any Char.isDigit then some 8
        else some 10
      else some 8
    else some 10
  else if s[4]? = some 'W' then
    let n := 7 + ((s.drop 7).takeWhile Char.isDigit).length
    if n < 9 then some n else if n % 2 == 0 then some 7 else some 8
  else some 8

def dash? (used : Bool) (s : List Char) : Option (List Char) :=
  if used then
    match s with
    | '-' :: s => some s
    | _ => none
  else some s

/-- The number of the day that a text starts with; the day is `n` characters long. -/
def readDay? (n : Nat) (s : List Char) : Option Int := do
  let (year, s) ← digits? 4 0 s
  let dashes := s.head? == some '-'
  let s := if dashes then s.drop 1 else s
  match s with
  | 'W' :: s =>
    let (week, s) ← digits? 2 0 s
    if (if dashes then 8 else 7) < n then
      let s ← dash? dashes s
      let (day, _) ← digits? 1 0 s
      weekDate? year week day
    else weekDate? year week 1
  | s =>
    let (month, s) ← digits? 2 0 s
    let s ← dash? dashes s
    let (day, _) ← digits? 2 0 s
    let d : Date := ⟨year, month, day⟩
    if d.isValid then some (d.number : Int) else none

structure Clock where
  hour : Nat := 0
  minute : Nat := 0
  second : Nat := 0
  micro : Nat := 0
  deriving Repr

/-- A decimal fraction of a second, of which six digits count. Also whether something else follows it
in the whole text, where `last` stands behind it. -/
def readFraction? (last : Char) (s : List Char) : Option (Nat × Bool) := do
  let n := min s.length 6
  let (value, s) ← digits? n 0 s
  let rest := s.dropWhile Char.isDigit
  return (value * Nat.pow 10 (6 - n), rest.headD last != '\x00')

/-- A time of day: hours, and optionally minutes, seconds and a fraction. Also whether a character
that does not belong to it follows. The text ends before `last`, which is NUL at the end of all. -/
def readClock? (last : Char) (s : List Char) : Option (Clock × Bool) := do
  let (hour, s) ← digits? 2 0 s
  match s with
  | [] => return ({ hour := hour }, last != '\x00')
  | [c] => return ({ hour := hour }, c != '\x00')
  | c :: s' =>
    let colons := c == ':'
    if c == '.' || c == ',' then
      let (micro, more) ← readFraction? last s'
      return ({ hour := hour, micro := micro }, more)
    else
      let (minute, s) ← digits? 2 0 (if colons then s' else s)
      match s with
      | [] => return ({ hour := hour, minute := minute }, last != '\x00')
      | [c] => return ({ hour := hour, minute := minute }, c != '\x00')
      | c :: s' =>
        if c == '.' || c == ',' then
          let (micro, more) ← readFraction? last s'
          return ({ hour := hour, minute := minute, micro := micro }, more)
        else if colons && c != ':' then none
        else
          let (second, s) ← digits? 2 0 (if colons then s' else s)
          match s with
          | [] => return ({ hour := hour, minute := minute, second := second }, last != '\x00')
          | [c] => return ({ hour := hour, minute := minute, second := second }, c != '\x00')
          | c :: s' =>
            let s ←
              if c == '.' || c == ',' || (colons && c == ':') then some s'
              else if colons then none
              else some s
            let (micro, more) ← readFraction? last s
            return ({ hour := hour, minute := minute, second := second, micro := micro }, more)

def Clock.micros (c : Clock) : Nat :=
  ((c.hour * 60 + c.minute) * 60 + c.second) * 1000000 + c.micro

def Clock.isValid (c : Clock) : Bool :=
  c.hour < 24 && c.minute < 60 && c.second < 60

def isZoneMark (c : Char) : Bool :=
  c == '+' || c == '-' || c == 'Z'

/-- The offset written behind a time of day. Fractions of a second count only beside whole ones. -/
def readOffset? : List Char → Option Int
  | 'Z' :: s => if s.headD '\x00' = '\x00' then some 0 else none
  | sign :: s => do
    let (c, more) ← readClock? '\x00' s
    if more then none
    else
      let micros : Int := if { c with micro := 0 }.micros = 0 then 0 else c.micros
      if micros < Moment.dayLength then some (if sign == '-' then -micros else micros) else none
  | [] => none

def readTime? (s : List Char) : Option (Nat × Option Int) := do
  let time := s.takeWhile (!isZoneMark ·)
  let zone := s.dropWhile (!isZoneMark ·)
  let (c, more) ← readClock? (zone.headD '\x00') time
  if !c.isValid then none
  else if zone.isEmpty then
    if more then none else some (c.micros, none)
  else do
    let offset ← readOffset? zone
    return (c.micros, some offset)

/-- The number of bytes of the character that starts with a byte. -/
def leadWidth (c : Char) : Nat :=
  if c.toNat < 0x80 then 1 else if c.toNat / 16 == 14 then 3 else if c.toNat / 16 == 15 then 4 else 2

def readMoment? (text : String) : Option Moment := do
  let s := bytesOf text
  let n ← dayLengthOf? s
  let day ← readDay? n s
  let rest := s.drop n
  let (micros, offset) ←
    match rest with
    | [] => some (0, none)
    -- What stands between day and time is one character, of several bytes perhaps.
    | c :: _ => readTime? (rest.drop (leadWidth c))
  let wall := day * Moment.dayLength + micros
  if Moment.isInRange wall then some ⟨wall, offset⟩ else none

end MailTriage.Calendar
