import MailTriage.Regex.Parse
import MailTriage.Regex.Search

/-!
Patterns of conditions: a regular expression between slashes, an exact value between double quotes,
or a bare value. A bare value is part of a text, or a whole address whose label after a plus may be
left out.
-/

namespace MailTriage

structure Pattern where
  source : String
  regex : Regex
  deriving DecidableEq, Repr

/-- Why a pattern is refused. A problem is found in the expression `body` that the pattern stands for. -/
inductive PatternError where
  | empty
  | malformed (pattern : String) (body : List Char) (problem : Regex.Problem) (position : Option Nat)
  | regex (error : Regex.Error)
  deriving DecidableEq, Repr

namespace Pattern

open Regex

/-- The flags written behind a regular expression; some letters are allowed and mean nothing. -/
def isFlagLetter (c : Char) : Bool :=
  c == 'g' || c == 'i' || c == 'm' || c == 's' || c == 'u' || c == 'y'

def flagsOf (letters : List Char) : Flags where
  ignoreCase := letters.contains 'i'
  multiline := letters.contains 'm'
  dotAll := letters.contains 's'

def splitLastSlash? (s : List Char) : Option (List Char × List Char) :=
  let r := s.reverse
  match r.dropWhile (· != '/') with
  | [] => none
  | _ :: body => some (body.reverse, (r.takeWhile (· != '/')).reverse)

def dropFinalNewline (s : List Char) : List Char :=
  if s.getLast? = some '\n' then s.dropLast else s

/-- The expression and the flags of a pattern in slashes. The expression ends at the last slash, and
one newline may follow the flags. -/
def slashed? : List Char → Option (List Char × List Char)
  | '/' :: s =>
    match splitLastSlash? s with
    | some (body, rest) =>
      let letters := dropFinalNewline rest
      if letters.all isFlagLetter then some (body, letters) else none
    | none => none
  | _ => none

def quoted? : List Char → Option (List Char)
  | '"' :: s => if s.getLast? = some '"' then some s.dropLast else none
  | _ => none

/-- The characters that mean something in a regular expression, or could do so. -/
def isSpecial (c : Char) : Bool :=
  ['(', ')', '[', ']', '\x7b', '\x7d', '?', '*', '+', '-', '|', '^', '$', '\\', '.', '&', '~', '#', ' ',
    '\t', '\n', '\r', '\x0b', '\x0c'].contains c

/-- The regular expression that matches a text and nothing else. -/
def escape (s : List Char) : List Char :=
  s.flatMap fun c => if isSpecial c then ['\\', c] else [c]

def delimited (body : List Char) : List Char :=
  ['(', '^', '|', '<', ')'] ++ body ++ ['(', '$', '|', '>', ')']

/-- A plus and one or more characters other than the at sign, or nothing. -/
def optionalLabel : List Char :=
  ['(', '\\', '+', '[', '^', '@', ']', '+', ')', '?']

/-- Puts an optional label before the first at sign. -/
def allowLabel : List Char → List Char
  | [] => []
  | c :: s => if c = '@' then optionalLabel ++ c :: s else c :: allowLabel s

/-- The flags and the text of the regular expression that a pattern stands for, among addresses or in a
text. -/
def expression (isAddress : Bool) (s : List Char) : Flags × List Char :=
  match slashed? s with
  | some (body, letters) => (flagsOf letters, body)
  | none =>
    match quoted? s with
    | some value => ({ ignoreCase := true }, delimited (escape value))
    | none =>
      if isAddress then ({ ignoreCase := true }, delimited (allowLabel (escape s)))
      else (.none, escape s)

def compile (isAddress : Bool) (pattern : String) : Except PatternError Regex :=
  let s := pattern.toList
  if s.isEmpty then .error .empty
  else
    let (flags, body) := expression isAddress s
    match Regex.parse flags body with
    | .ok r => .ok r
    | .error (.malformed problem position) => .error (.malformed pattern body problem position)
    | .error e => .error (.regex e)

def ofText (isAddress : Bool) (source : String) : Except PatternError Pattern := do
  return ⟨source, ← compile isAddress source⟩

def found (p : Pattern) (text : String) : Bool :=
  p.regex.search text.toList

end Pattern

/-- The words for a pattern that is refused; none, where only a number in it is out of bounds. -/
def PatternError.message? : PatternError → Option String
  | empty => some "Condition should have value but not found"
  | malformed pattern body problem position =>
    some ("Invalid pattern " ++ pattern ++ ": " ++ problem.describe position body)
  | regex _ => none

end MailTriage
