/-!
Floating-point numbers of 64 bits, worked out exactly: every result is the number nearest to the
exact one, and of two nearest the one with an even significand.
-/

namespace MailTriage

/-- A finite number is its significand times two to the exponent. Significands are below `2 ^ 53`,
exponents at least `-1074`, and a significand below `2 ^ 52` goes with the least exponent. -/
inductive Binary64 where
  | finite (negative : Bool) (significand : Nat) (exponent : Int)
  | infinite (negative : Bool)
  | nan
  deriving DecidableEq, Repr

namespace Binary64

def minExponent : Int := -1074

def maxExponent : Int := 971

def leastSignificand : Nat := 0x10000000000000

def zero : Binary64 := finite false 0 minExponent

/-- The whole number nearest to a quotient; of two nearest, the even one. -/
def roundDiv (num den : Nat) : Nat :=
  let q := num / den
  let r := num % den
  if 2 * r < den then q else if den < 2 * r then q + 1 else if q % 2 == 0 then q else q + 1

/-- The quotient `num / (den * 2 ^ e)`, rounded. -/
def scaledDiv (num den : Nat) (e : Int) : Nat :=
  if 0 ≤ e then roundDiv num (den * Nat.pow 2 e.toNat)
  else roundDiv (num * Nat.pow 2 (-e).toNat) den

/-- The number nearest to `num / den`. -/
def ofRatio (negative : Bool) (num den : Nat) : Binary64 :=
  if num = 0 then finite negative 0 minExponent
  else
    let guess : Int := (Nat.log2 num : Int) - (Nat.log2 den : Int) - 52
    let fits (e : Int) : Bool :=
      if 0 ≤ e then leastSignificand * (den * Nat.pow 2 e.toNat) ≤ num
      else leastSignificand * den ≤ num * Nat.pow 2 (-e).toNat
    let e := max (if fits guess then guess else guess - 1) minExponent
    let m := scaledDiv num den e
    let (m, e) := if m = 2 * leastSignificand then (leastSignificand, e + 1) else (m, e)
    if maxExponent < e then infinite negative else finite negative m e

def ofInt (n : Int) : Binary64 :=
  ofRatio (n < 0) n.natAbs 1

def ofQuotient (n : Int) (den : Nat) : Binary64 :=
  ofRatio (n < 0) n.natAbs den

def ratio (significand : Nat) (exponent : Int) : Nat × Nat :=
  if 0 ≤ exponent then (significand * Nat.pow 2 exponent.toNat, 1)
  else (significand, Nat.pow 2 (-exponent).toNat)

def mulNat (x : Binary64) (k : Nat) : Binary64 :=
  match x with
  | finite negative m e =>
    let (num, den) := ratio m e
    ofRatio negative (num * k) den
  | x => x

/-- The whole number next to it in the direction of zero. -/
def truncate? : Binary64 → Option Int
  | finite negative m e =>
    let (num, den) := ratio m e
    let n : Int := (num / den : Nat)
    some (if negative then -n else n)
  | _ => none

def toInt? : Binary64 → Option Int
  | finite negative m e =>
    let (num, den) := ratio m e
    if num % den = 0 then
      let n : Int := (num / den : Nat)
      some (if negative then -n else n)
    else none
  | _ => none

def isZero : Binary64 → Bool
  | finite _ m _ => m == 0
  | _ => false

/-- Sign, exponent and significand in one word, in the order of the interchange format. -/
def toBits (x : Binary64) : Nat :=
  let sign (negative : Bool) : Nat := if negative then 0x8000000000000000 else 0
  match x with
  | finite negative m e =>
    if m < leastSignificand then sign negative + m
    else sign negative + (e - minExponent + 1).toNat * leastSignificand + (m - leastSignificand)
  | infinite negative => sign negative + 0x7ff0000000000000
  | nan => 0x7ff8000000000000

end Binary64

end MailTriage
