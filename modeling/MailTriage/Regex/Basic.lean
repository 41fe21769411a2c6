import MailTriage.Regex.CharTest

namespace MailTriage

namespace Regex

/-- Places in a text that match without taking a character. -/
inductive Anchor where
  | textStart | lineStart
  | textEnd | lineEnd
  | finalEnd
  | boundary (ascii negated : Bool)
  deriving DecidableEq, Repr

/-- Which count of a repetition is tried first; a possessive one never gives back. -/
inductive Greed where
  | most | fewest | possessive
  deriving DecidableEq, Repr

end Regex

open Regex in
inductive Regex where
  | empty
  | char (t : CharTest)
  | anchor (a : Anchor)
  | seq (a b : Regex)
  | alt (a b : Regex)
  | group (n : Nat) (a : Regex)
  | «repeat» (greed : Greed) (min : Nat) (max : Option Nat) (a : Regex)
  | atomic (a : Regex)
  | backref (f : Folding) (n : Nat)
  | ifGroup (n : Nat) (a b : Regex)
  | ahead (negated : Bool) (a : Regex)
  | behind (negated : Bool) (width : Nat) (a : Regex)
  deriving DecidableEq, Repr

namespace Regex

def seqAll (rs : List Regex) : Regex :=
  rs.foldr seq empty

def literal (f : Folding) (s : List Char) : Regex :=
  seqAll (s.map fun c => char (.code f false c.toNat))

end Regex

end MailTriage
