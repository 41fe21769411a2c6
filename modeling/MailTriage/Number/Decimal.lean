import MailTriage.Number.Binary64

namespace MailTriage.Binary64

/-- The digits of a positive decimal number, and where the point stands behind the first of them. -/
structure Digits where
  digits : List Char
  point : Int
  deriving DecidableEq, Repr

def digitsOf (n : Nat) : List Char :=
  Nat.toDigits 10 n

/-- The `p` with `10 ^ (p - 1) ≤ num / den < 10 ^ p`, for a positive quotient: `guess`, moved up at
most `fuel` times. -/
def magnitudeFrom (num den : Nat) (guess : Int) : (fuel : Nat) → Int
  | 0 => guess
  | fuel + 1 =>
    let below :=
      if 0 ≤ guess then num < den * Nat.pow 10 guess.toNat else num * Nat.pow 10 (-guess).toNat < den
    if below then guess else magnitudeFrom num den (guess + 1) fuel

def magnitude (num den : Nat) : Int :=
  let bits : Int := (Nat.log2 num : Int) - (Nat.log2 den : Int)
  magnitudeFrom num den (bits * 30103 / 100000 - 1) 5

def inUnits (num den : Nat) (k : Int) : Nat × Nat :=
  if 0 ≤ k then (num, den * Nat.pow 10 k.toNat) else (num * Nat.pow 10 (-k).toNat, den)

/-- Of the two `n`-digit neighbours of a number that lies between `lo` and `hi`, all over `den`, the
nearer one that lies there too. -/
def neighbour? (value lo hi den : Nat) (closed : Bool) (k : Int) : Option Nat :=
  let (v, d) := inUnits value den k
  let (l, _) := inUnits lo den k
  let (h, _) := inUnits hi den k
  let inside (n : Nat) : Bool :=
    if closed then l ≤ n * d && n * d ≤ h else l < n * d && n * d < h
  let q := v / d
  let r := v % d
  let nearer := if 2 * r < d then q else if d < 2 * r then q + 1 else if q % 2 == 0 then q else q + 1
  let other := if nearer = q then q + 1 else q
  if inside nearer then some nearer else if inside other then some other else none

/-- The first grid of `n` or more digits on which a neighbour lies inside the interval. -/
def shortestFrom (value lo hi den : Nat) (closed : Bool) (point : Int) (n : Nat) :
    (fuel : Nat) → Nat × Int
  | 0 => (value / den, 0)
  | fuel + 1 =>
    match neighbour? value lo hi den closed (point - n) with
    | some q => (q, point - n)
    | none => shortestFrom value lo hi den closed point (n + 1) fuel

def dropZeros (digits : List Char) : List Char :=
  (digits.reverse.dropWhile (· == '0')).reverse

/-- The fewest digits that read back as a positive number, and of those the nearest. -/
def shortest (significand : Nat) (exponent : Int) : Digits :=
  -- The gap below a power of two is half as wide as the one above it.
  let narrow := significand == leastSignificand && minExponent < exponent
  -- In quarters of the last place, the midpoints to both neighbours are whole.
  let (num, den) := ratio 1 (exponent - 2)
  let value := 4 * significand * num
  let lo := value - (if narrow then num else 2 * num)
  let hi := value + 2 * num
  let point := magnitude value den
  -- Seventeen digits tell any two numbers apart.
  let (q, k) := shortestFrom value lo hi den (significand % 2 == 0) point 1 17
  let digits := digitsOf q
  ⟨dropZeros digits, k + digits.length⟩

def significant (n significand : Nat) (exponent : Int) : Digits :=
  let (num, den) := ratio significand exponent
  let (v, d) := inUnits num den (magnitude num den - n)
  let digits := digitsOf (roundDiv v d)
  ⟨dropZeros digits, magnitude num den - n + digits.length⟩

/-- How a number is laid out: the positions of the point from which on it is written with an
exponent, and whether a whole number shows its fraction. -/
structure Layout where
  least : Int
  most : Int
  wholeFraction : Bool

def exponentText (e : Int) : List Char :=
  let digits := digitsOf e.natAbs
  ['e', if e < 0 then '-' else '+'] ++ List.replicate (2 - digits.length) '0' ++ digits

def place (l : Layout) (d : Digits) : List Char :=
  let n := d.digits.length
  if d.point ≤ l.least || l.most < d.point then
    let fraction := d.digits.drop 1
    d.digits.take 1 ++ (if fraction.isEmpty then [] else '.' :: fraction) ++ exponentText (d.point - 1)
  else if d.point ≤ 0 then
    ['0', '.'] ++ List.replicate (-d.point).toNat '0' ++ d.digits
  else if n ≤ d.point then
    d.digits ++ List.replicate (d.point.toNat - n) '0' ++ (if l.wholeFraction then ['.', '0'] else [])
  else d.digits.take d.point.toNat ++ '.' :: d.digits.drop d.point.toNat

def render (l : Layout) (digits : Nat → Int → Digits) : Binary64 → String
  | nan => "nan"
  | infinite negative => if negative then "-inf" else "inf"
  | finite negative m e =>
    let d := if m = 0 then ⟨['0'], 1⟩ else digits m e
    String.ofList ((if negative then ['-'] else []) ++ place l d)

/-- The text that reads back: positional from `0.0001` up to `1e16`, and with a point in it. -/
def text : Binary64 → String :=
  render ⟨-4, 16, true⟩ shortest

/-- Six significant digits, positional from `0.0001` up to a million. -/
def brief : Binary64 → String :=
  render ⟨-4, 6, false⟩ (significant 6)

def readUnsigned? (negative : Bool) (s : List Char) : Option Binary64 :=
  let whole := s.takeWhile Char.isDigit
  let (fraction, s) :=
    match s.dropWhile Char.isDigit with
    | '.' :: s => (s.takeWhile Char.isDigit, s.dropWhile Char.isDigit)
    | s => ([], s)
  let number (digits : List Char) : Nat := digits.foldl (fun n c => 10 * n + (c.toNat - 48)) 0
  let exponent? : Option Int :=
    match s with
    | [] => some 0
    | 'e' :: s =>
      let (sign, s) : Int × List Char :=
        match s with
        | '-' :: s => (-1, s)
        | '+' :: s => (1, s)
        | s => (1, s)
      if s.isEmpty || !s.all Char.isDigit then none else some (sign * number s)
    | _ => none
  match exponent? with
  | none => none
  | some e =>
    if whole.isEmpty && fraction.isEmpty then none
    else
      let n := number (whole ++ fraction)
      let e := e - fraction.length
      if n = 0 then some (finite negative 0 minExponent)
      -- Beyond these bounds the power of ten need not be worked out.
      else if 400 < e + (whole ++ fraction).length then some (infinite negative)
      else if e + (whole ++ fraction).length < -400 then some (finite negative 0 minExponent)
      else if 0 ≤ e then some (ofRatio negative (n * Nat.pow 10 e.toNat) 1)
      else some (ofRatio negative n (Nat.pow 10 (-e).toNat))

def ofText? (s : String) : Option Binary64 :=
  let signed (negative : Bool) (s : List Char) : Option Binary64 :=
    let word := String.ofList (s.map Char.toLower)
    if word = "inf" || word = "infinity" then some (infinite negative)
    else if word = "nan" then some nan
    else readUnsigned? negative (s.map Char.toLower)
  match s.toList with
  | '-' :: s => signed true s
  | '+' :: s => signed false s
  | s => signed false s

end MailTriage.Binary64
