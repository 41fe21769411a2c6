import MailTriage.Regex.Basic

/-!
Searching a text for a regular expression, by backtracking: alternatives are tried in order, and a
choice is taken back when what follows it fails. Matchers take a success continuation, which is given
the failure continuation to fall back on.
-/

namespace MailTriage.Regex

/-- Where a group was last entered, with the text from there on, and where it was last left; places
are counted from the end of the text. -/
structure Mark where
  group : Nat
  opened : Nat
  text : List Char
  closed : Option Nat

/-- A place in a text: what stands before it (last character first) and after it. -/
structure Spot where
  before : List Char
  after : List Char
  left : Nat
  marks : List Mark

namespace Spot

def start (s : List Char) : Spot := ⟨[], s, s.length, []⟩

def next? (p : Spot) : Option (Char × Spot) :=
  match p.after with
  | [] => none
  | c :: s => some (c, { p with before := c :: p.before, after := s, left := p.left - 1 })

def back? : (n : Nat) → Spot → Option Spot
  | 0, p => some p
  | n + 1, p =>
    match p.before with
    | [] => none
    | c :: s => back? n { p with before := s, after := c :: p.after, left := p.left + 1 }

def markOf? (p : Spot) (n : Nat) : Option Mark :=
  p.marks.find? (·.group == n)

def openGroup (p : Spot) (n : Nat) : Spot :=
  -- Until the group is left again, a reference to it goes by the old end.
  let closed := (p.markOf? n).bind (·.closed)
  { p with marks := ⟨n, p.left, p.after, closed⟩ :: p.marks.filter (·.group != n) }

def closeGroup (p : Spot) (n : Nat) : Spot :=
  { p with marks := p.marks.map fun m => if m.group == n then { m with closed := some p.left } else m }

/-- The text of a group: from where it was last entered to where it was last left, unless it was
entered again behind that place. -/
def captured? (p : Spot) (n : Nat) : Option (List Char) :=
  match p.markOf? n with
  | some ⟨_, opened, text, some closed⟩ =>
    if closed ≤ opened then some (text.take (opened - closed)) else none
  | _ => none

def skip? (f : Folding) : (s : List Char) → Spot → Option Spot
  | [], p => some p
  | c :: s, p =>
    match p.next? with
    | some (d, p) => if f.lower c.toNat == f.lower d.toNat then skip? f s p else none
    | none => none

end Spot

def Anchor.holds (a : Anchor) (p : Spot) : Bool :=
  match a with
  | textStart => p.before.isEmpty
  | lineStart => p.before.isEmpty || p.before.head? == some '\n'
  | textEnd => p.after.isEmpty
  | lineEnd => p.after.isEmpty || p.after.head? == some '\n'
  | finalEnd => p.after.isEmpty || p.after == ['\n']
  | boundary ascii negated =>
    let word (s : List Char) : Bool := s.head?.any (CharKind.word.holds ascii)
    if p.before.isEmpty && p.after.isEmpty then false
    else (word p.before == word p.after) == negated

abbrev Outcome := Option Spot

/-- What is tried when a choice has failed. -/
abbrev Fallback := Unit → Outcome

abbrev Matcher := Spot → (Spot → Fallback → Outcome) → Fallback → Outcome

namespace Matcher

def first (m : Matcher) (p : Spot) : Outcome :=
  m p (fun p _ => some p) (fun _ => none)

def times (m : Matcher) : Nat → Matcher
  | 0 => fun p k f => k p f
  | n + 1 => fun p k f => m p (fun p f => times m n p k f) f

/-- Up to `max` more rounds, as many as possible. A round that takes no character is the last one,
so `room`, which exceeds the number of characters left, bounds the rounds. -/
def most (m : Matcher) : (room : Nat) → (max : Option Nat) → Matcher
  | 0, _ => fun p k f => k p f
  | room + 1, max => fun p k f =>
    if max == some 0 then k p f
    else
      m p (fun q f => if q.left == p.left then k q f else most m room (max.map (· - 1)) q k f)
        (fun _ => k p f)

def fewest (m : Matcher) : (room : Nat) → (max : Option Nat) → Matcher
  | 0, _ => fun p k f => k p f
  | room + 1, max => fun p k f =>
    k p fun _ =>
      if max == some 0 then f ()
      else m p (fun q f => if q.left == p.left then k q f else fewest m room (max.map (· - 1)) q k f) f

/-- Where `max` more rounds end, each matched in the first way only. -/
def possessive (m : Matcher) : (room : Nat) → (max : Option Nat) → Spot → Spot
  | 0, _, p => p
  | room + 1, max, p =>
    if max == some 0 then p
    else
      match m.first p with
      | none => p
      | some q => if q.left == p.left then q else possessive m room (max.map (· - 1)) q

def «repeat» (greed : Greed) (min : Nat) (max : Option Nat) (m : Matcher) : Matcher :=
  let more := max.map (· - min)
  match greed with
  | .most => fun p k f => times m min p (fun p f => most m (p.left + 2) more p k f) f
  | .fewest => fun p k f => times m min p (fun p f => fewest m (p.left + 2) more p k f) f
  -- The rounds that are needed are final too, each of them on its own.
  | .possessive => fun p k f =>
    match first (times (fun p k f => match m.first p with | some p => k p f | none => f ()) min) p with
    | some p => k (possessive m (p.left + 2) more p) f
    | none => f ()

end Matcher

def matcher : Regex → Matcher
  | empty => fun p k f => k p f
  | char t => fun p k f =>
    match p.next? with
    | some (c, p) => if t.holds c then k p f else f ()
    | none => f ()
  | anchor a => fun p k f => if a.holds p then k p f else f ()
  | seq a b => fun p k f => a.matcher p (fun p f => b.matcher p k f) f
  | alt a b => fun p k f => a.matcher p k fun _ => b.matcher p k f
  | group n a => fun p k f => a.matcher (p.openGroup n) (fun p f => k (p.closeGroup n) f) f
  | «repeat» greed min max a => Matcher.repeat greed min max a.matcher
  | atomic a => fun p k f =>
    match a.matcher.first p with
    | some p => k p f
    | none => f ()
  | backref fold n => fun p k f =>
    match (p.captured? n).bind fun s => Spot.skip? fold s p with
    | some p => k p f
    | none => f ()
  | ifGroup n a b => fun p k f =>
    if (p.captured? n).isSome then a.matcher p k f else b.matcher p k f
  | ahead negated a => fun p k f =>
    match a.matcher.first p with
    -- The place stays, but the groups that were set ahead of it are kept.
    | some q => if negated then f () else k { p with marks := q.marks } f
    | none => if negated then k p f else f ()
  | behind negated width a => fun p k f =>
    match (Spot.back? width p).bind a.matcher.first with
    | some q => if negated then f () else k { p with marks := q.marks } f
    | none => if negated then k p f else f ()

/-- Whether the expression matches at a place `before` which `before` stands, or after it. -/
def searchFrom (m : Matcher) (before : List Char) (left : Nat) : List Char → Bool
  | [] => (m.first ⟨before, [], left, []⟩).isSome
  | c :: s =>
    (m.first ⟨before, c :: s, left, []⟩).isSome || searchFrom m (c :: before) (left - 1) s

def search (r : Regex) (s : List Char) : Bool :=
  searchFrom r.matcher [] s.length s

end MailTriage.Regex
