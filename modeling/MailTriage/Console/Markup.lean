import MailTriage.Text.Blank
import MailTriage.Text.LetterCase

/-!
Texts with tags in square brackets, which style what stands between them. A backslash before a tag makes
it plain text.
-/

namespace MailTriage.Markup

inductive Error where
  | noOpenTag
  deriving DecidableEq, Repr

def startsTag (c : Char) : Bool :=
  ('a' ≤ c && c ≤ 'z') || c = '#' || c = '/' || c = '@'

/-- The tag at the start of a text, behind its opening bracket, and what follows it. -/
def tagBody? (body : List Char) : List Char → Option (List Char × List Char)
  | [] => none
  | c :: s =>
    if c = ']' then some (body.reverse, s)
    else if c = '[' then none
    else tagBody? (c :: body) s

def tag? : List Char → Option (List Char × List Char)
  | '[' :: c :: s => if startsTag c then tagBody? [c] s else none
  | _ => none

/-- A piece of a text: a character, or a tag with the number of backslashes before it. -/
inductive Piece where
  | char (c : Char)
  | tag (backslashes : Nat) (body : List Char)
  deriving DecidableEq, Repr

/-- The pieces of a text. `slashes` counts the backslashes just read, `skip` the characters of a tag that
are still to be passed. -/
def piecesFrom (slashes skip : Nat) : List Char → List Piece
  | [] => List.replicate slashes (.char '\\')
  | c :: s =>
    match skip with
    | skip + 1 => piecesFrom 0 skip s
    | 0 =>
      if c = '\\' then piecesFrom (slashes + 1) 0 s
      else
        match tag? (c :: s) with
        | some (body, _) => .tag slashes body :: piecesFrom 0 (body.length + 1) s
        | none => List.replicate slashes (.char '\\') ++ .char c :: piecesFrom 0 0 s

def pieces (s : List Char) : List Piece :=
  piecesFrom 0 0 s

def bracketed (body : List Char) : List Char :=
  '[' :: body ++ [']']

def escapePiece : Piece → List Char
  | .char c => [c]
  | .tag n body => List.replicate (2 * n + 1) '\\' ++ bracketed body

/-- A text written so that its tags are plain text. A single backslash at the end is doubled. -/
def escape (s : List Char) : List Char :=
  let t := (pieces s).flatMap escapePiece
  match t.reverse with
  | '\\' :: '\\' :: _ => t
  | '\\' :: _ => t ++ ['\\']
  | _ => t

def styleNames : List (String × String) :=
  [("b", "bold"), ("d", "dim"), ("i", "italic"), ("u", "underline"), ("r", "reverse"),
    ("c", "conceal"), ("s", "strike"), ("uu", "underline2"), ("o", "overline")]

def styleName (s : List Char) : String :=
  let name := String.ofList (Text.lower (Text.trim s))
  if name.isEmpty then "none" else ((styleNames.find? (·.1 == name)).map (·.2)).getD name

def closeStyle? (name : String) (styles : List String) : Option (List String) :=
  if styles.contains name then some (styles.erase name) else none

/-- The styles that are open behind a tag; the latest one comes first. -/
def afterTag (styles : List String) (body : List Char) : Except Error (List String) :=
  let name := body.takeWhile (· != '=')
  match name with
  | '/' :: name =>
    if (Text.trim name).isEmpty then
      match styles with
      | _ :: styles => .ok styles
      | [] => .error .noOpenTag
    else
      match closeStyle? (styleName name) styles with
      | some styles => .ok styles
      | none => .error .noOpenTag
  | name => .ok (styleName name :: styles)

/-- Characters that move the cursor are not shown. -/
def isShown (c : Char) : Bool :=
  !(c = '\x07' || c = '\x08' || c = '\x0b' || c = '\x0c' || c = '\r')

/-- Plain text in which a backslash before an opening bracket is left out. -/
def openBrackets : List Char → List Char
  | '\\' :: '[' :: s => '[' :: openBrackets s
  | c :: s => c :: openBrackets s
  | [] => []

/-- What is shown of the pieces of a text; `plain` holds the plain text just read, last character
first. -/
def renderFrom (styles : List String) (plain : List Char) : List Piece → Except Error (List Char)
  | [] => .ok (openBrackets plain.reverse)
  | .char c :: ps => renderFrom styles (c :: plain) ps
  | .tag n body :: ps => do
    -- Two backslashes show one; one that is left over makes the tag plain text.
    let before := openBrackets plain.reverse ++ List.replicate (n / 2) '\\'
    if n % 2 = 1 then return before ++ bracketed body ++ (← renderFrom styles [] ps)
    else return before ++ (← renderFrom (← afterTag styles body) [] ps)

def render (s : String) : Except Error String :=
  let cs := s.toList
  if cs.contains '[' then do
    return String.ofList ((← renderFrom [] [] (pieces cs)).filter isShown)
  else .ok (String.ofList (cs.filter isShown))

end MailTriage.Markup
