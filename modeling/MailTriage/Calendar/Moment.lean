import MailTriage.Calendar.Date

/-!
Moments: a day and a time of day, with the difference to universal time if it is known. A moment
without one is read as universal time.
-/

namespace MailTriage

open Calendar

/-- `wall` is what the clock shows, in microseconds since the calendar began; `offset` is how far that
clock is ahead of universal time, in microseconds. -/
structure Moment where
  wall : Int
  offset : Option Int
  deriving DecidableEq, Repr

namespace Moment

def second : Int := 1000000

def minute : Int := 60 * second

def dayLength : Int := 86400 * second

def limit : Int := dayCount * dayLength

def isInRange (wall : Int) : Bool :=
  0 ≤ wall && wall < limit

/-- The moment in universal time. -/
def instant (m : Moment) : Int :=
  m.wall - m.offset.getD 0

/-- What a clock with universal time shows, if the calendar holds it. -/
def universal? (m : Moment) : Option Int :=
  if isInRange m.instant then some m.instant else none

/-- The moment some microseconds before, if the calendar holds it. -/
def before? (m : Moment) (micros : Int) : Option Moment :=
  let wall := m.wall - micros
  if isInRange wall then some { m with wall := wall } else none

def date (m : Moment) : Date :=
  .ofNumber (m.wall / dayLength).toNat

def clock (micros : Nat) : Nat × Nat × Nat × Nat :=
  let s := micros / 1000000
  (s / 3600, s / 60 % 60, s % 60, micros % 1000000)

def timeOfDay (m : Moment) : Nat × Nat × Nat × Nat :=
  clock (m.wall % dayLength).toNat

def fractionText (micros : Nat) : String :=
  if micros = 0 then "" else "." ++ padded 6 micros

def offsetText (offset : Int) : String :=
  let (h, m, s, u) := clock offset.natAbs
  (if offset < 0 then "-" else "+") ++ padded 2 h ++ ":" ++ padded 2 m ++
    (if s = 0 && u = 0 then "" else ":" ++ padded 2 s ++ fractionText u)

/-- The moment as text, `separator` standing between day and time. -/
def textWith (separator : String) (x : Moment) : String :=
  let (h, m, s, u) := x.timeOfDay
  x.date.text ++ separator ++ padded 2 h ++ ":" ++ padded 2 m ++ ":" ++ padded 2 s ++
    fractionText u ++ (x.offset.map offsetText).getD ""

def isoText : Moment → String :=
  textWith "T"

def ofDate (d : Date) : Moment :=
  ⟨d.number * dayLength, none⟩

end Moment

end MailTriage
