import MailTriage.Text.Quoted

namespace MailTriage.Calendar

structure Date where
  year : Nat
  month : Nat
  day : Nat
  deriving DecidableEq, Repr

def isLeap (year : Nat) : Bool :=
  year % 4 == 0 && (year % 100 != 0 || year % 400 == 0)

def daysInMonth (year month : Nat) : Nat :=
  if month == 2 then if isLeap year then 29 else 28
  else if month == 4 || month == 6 || month == 9 || month == 11 then 30
  else 31

def daysBeforeYear (year : Nat) : Nat :=
  let y := year - 1
  365 * y + y / 4 - y / 100 + y / 400

def daysBeforeMonth (year month : Nat) : Nat :=
  (List.range (month - 1)).foldl (fun days m => days + daysInMonth year (m + 1)) 0

def dayCount : Nat := daysBeforeYear 10000

namespace Date

def isValid (d : Date) : Bool :=
  1 ≤ d.year && d.year ≤ 9999 && 1 ≤ d.month && d.month ≤ 12 && 1 ≤ d.day &&
    d.day ≤ daysInMonth d.year d.month

def number (d : Date) : Nat :=
  daysBeforeYear d.year + daysBeforeMonth d.year d.month + (d.day - 1)

/-- The day `n` days after the first of a month, which lies in that month or in one of the `fuel`
months that follow in the year. -/
def inYear (year month n : Nat) : (fuel : Nat) → Date
  | 0 => ⟨year, month, n + 1⟩
  | fuel + 1 =>
    let days := daysInMonth year month
    if n < days then ⟨year, month, n + 1⟩ else inYear year (month + 1) (n - days) fuel

/-- The day with a number. Four centuries, a century, four years and a year have fixed numbers of
days, save that the last of four may be a day longer. -/
def ofNumber (n : Nat) : Date :=
  let n400 := n / 146097
  let n := n % 146097
  let n100 := min (n / 36524) 3
  let n := n - n100 * 36524
  let n4 := n / 1461
  let n := n % 1461
  let n1 := min (n / 365) 3
  inYear (400 * n400 + 100 * n100 + 4 * n4 + n1 + 1) 1 (n - n1 * 365) 11

end Date

/-- The day of the week, Monday being 0. -/
def weekday (dayNumber : Nat) : Nat :=
  dayNumber % 7

def padded (width n : Nat) : String :=
  let digits := Nat.toDigits 10 n
  String.ofList (List.replicate (width - digits.length) '0' ++ digits)

def Date.text (d : Date) : String :=
  padded 4 d.year ++ "-" ++ padded 2 d.month ++ "-" ++ padded 2 d.day

/-- The number of the Monday that starts the first week of a year: the week with its first
Thursday. It may lie three days before the calendar, so it is counted from there. -/
def firstMonday (year : Nat) : Int :=
  let first := daysBeforeYear year
  let w := weekday first
  if 3 < w then (first : Int) + 7 - w else (first : Int) - w

/-- The number of a day given by its week and its weekday, Monday being 1. -/
def weekDate? (year week day : Nat) : Option Int :=
  if year < 1 || 9999 < year then none
  else
    let w := weekday (daysBeforeYear year)
    let long := w == 3 || (w == 2 && isLeap year)
    if (1 ≤ week && week ≤ 52 || week == 53 && long) && 1 ≤ day && day ≤ 7 then
      some (firstMonday year + 7 * (week - 1) + (day - 1))
    else none

end MailTriage.Calendar
