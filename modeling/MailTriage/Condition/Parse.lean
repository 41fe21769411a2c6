import MailTriage.Condition.Basic
import MailTriage.Text.Split

/-!
Reading conditions. An expression is a keyword in parentheses, followed by sub-expressions or by a
value that reaches to the closing parenthesis; letter case of keywords does not matter.
-/

namespace MailTriage

/-- What is wrong with the text of a condition; `text` is the expression in which it was found. -/
inductive ConditionError where
  | notSurrounded (text : String)
  | notSingle (text : String)
  | unknownType (keyword text : String)
  | textOutside (text outside : String)
  | unclosed (text : String)
  | negatesSeveral (keyword : String) (count : Nat) (text : String)
  | noHeaderName (text : String)
  | unknownProperty (text : String)
  | noValue (text : String)
  | pattern (text : String) (error : PatternError)
  deriving DecidableEq, Repr

namespace ConditionError

/-- The words for what is wrong; none, where only a number in a regular expression is out of bounds. -/
def message? : ConditionError → Option String
  | notSurrounded t => some ("Condition " ++ t ++ " should be surrounded by ().")
  | notSingle t => some ("Condition " ++ t ++ " should be a single expression surrounded by ().")
  | unknownType k t => some ("Unexpected condition type " ++ k ++ " from " ++ t ++ ".")
  | textOutside t o => some ("Condition " ++ t ++ " has text outside of its sub-conditions: " ++ o)
  | unclosed t => some ("Condition " ++ t ++ " has non-balanced parentheses overall.")
  | negatesSeveral k n t =>
    some ("Conditions of type " ++ k ++ " must have exactly one sub-condition, but found " ++
      toString n ++ ": " ++ t)
  | noHeaderName t => some ("Condition " ++ t ++ " should name a header")
  | unknownProperty t => some ("Invalid 'thread' subtype: \"" ++ t ++ "\"")
  | noValue t => some ("Condition " ++ t ++ " should have value but not found")
  | pattern t e => e.message?.map fun m => "Condition " ++ t ++ ": " ++ m

end ConditionError

namespace Condition

inductive Operator where
  | all | any | not
  deriving DecidableEq, Repr

inductive Keyword where
  | operator (o : Operator)
  | field (f : Field)
  | header
  | thread
  deriving DecidableEq, Repr

namespace Keyword

def name : Keyword → String
  | operator .all => "and"
  | operator .any => "or"
  | operator .not => "not"
  | field f => f.name
  | header => "header"
  | thread => "thread"

def every : List Keyword :=
  [operator .all, operator .any, operator .not] ++ Field.every.map field ++ [header, thread]

end Keyword

/-- The element of `every` whose name in capitals is given. -/
def named? {α : Type} (name : α → String) (every : List α) (capitals : List Char) : Option α :=
  every.find? fun a => Text.upper (name a).toList == capitals

inductive Property where
  | text (t : ThreadText)
  | flag (f : ThreadFlag)
  deriving DecidableEq, Repr

namespace Property

def name : Property → String
  | text t => t.name
  | flag f => f.name

def every : List Property :=
  ThreadText.every.map text ++ ThreadFlag.every.map flag

end Property

/-- What follows the parenthesis that closes the first one; `level` parentheses are open. -/
def afterClosing? (level : Nat) : List Char → Option (List Char)
  | [] => none
  | c :: s =>
    if c = '(' then afterClosing? (level + 1) s
    else if c = ')' then if level ≤ 1 then some s else afterClosing? (level - 1) s
    else afterClosing? level s

inductive SplitError where
  | textOutside (rest : List Char)
  | unclosed
  deriving DecidableEq, Repr

/-- The expressions in parentheses that a text consists of; `piece` holds the one being read, last
character first, and `level` parentheses are open in it. -/
def splitFrom (level : Nat) (piece : List Char) : List Char → Except SplitError (List (List Char))
  | [] => if level = 0 then .ok [] else .error .unclosed
  | c :: s =>
    if c = '(' then splitFrom (level + 1) (c :: piece) s
    else if level = 0 then
      if Text.isBlank c then splitFrom 0 piece s else .error (.textOutside (c :: s))
    else if c = ')' then
      if level = 1 then do return (c :: piece).reverse :: (← splitFrom 0 [] s)
      else splitFrom (level - 1) (c :: piece) s
    else splitFrom level (c :: piece) s

def split (s : List Char) : Except SplitError (List (List Char)) :=
  splitFrom 0 [] s

def isKeywordChar (c : Char) : Bool :=
  !Text.isBlank c && c != '(' && c != ')'

/-- The keyword of the text between the outer parentheses, in capitals, and what follows it. -/
def splitKeyword (inner : List Char) : List Char × List Char :=
  let s := Text.trimLeft inner
  (Text.upper (s.takeWhile isKeywordChar), Text.trim (s.dropWhile isKeywordChar))

def readPattern (isAddress : Bool) (value text : List Char) : Except ConditionError Pattern :=
  if value.isEmpty then .error (.noValue (String.ofList text))
  else
    match Pattern.ofText isAddress (String.ofList value) with
    | .ok p => .ok p
    | .error e => .error (.pattern (String.ofList text) e)

/-- The text between the outer parentheses of an expression, which must be all there is. -/
def unwrap (s : List Char) : Except ConditionError (List Char) :=
  match s with
  | '(' :: inner =>
    if inner.getLast? = some ')' then
      match afterClosing? 0 s with
      | some (_ :: _) => .error (.notSingle (String.ofList s))
      -- A parenthesis left open inside is no error here: it may belong to a value.
      | _ => .ok inner.dropLast
    else .error (.notSurrounded (String.ofList s))
  | _ => .error (.notSurrounded (String.ofList s))

/-- The condition that an expression without sub-expressions writes; `s` is the whole of it. -/
def readLeaf (s : List Char) (k : Keyword) (rest : List Char) : Except ConditionError Condition :=
  match k with
  | .field f => do return .field f (← readPattern f.isAddress rest s)
  | .header =>
    let (name, value) := Text.splitWord rest
    if name.isEmpty then .error (.noHeaderName (String.ofList s))
    else do return .header (String.ofList name) (← readPattern true value s)
  | .thread =>
    let (name, value) := Text.splitWord rest
    match named? Property.name Property.every (Text.upper name) with
    | some (.flag f) => .ok (.threadFlag f)
    | some (.text t) => do return .threadText t (← readPattern t.isAddress value s)
    | none => .error (.unknownProperty (String.ofList s))
  | .operator _ => .error (.unknownType "" (String.ofList s))

def combine (o : Operator) (keyword rest : List Char) (conditions : List Condition) :
    Except ConditionError Condition :=
  match o, conditions with
  | .all, cs => .ok (.all cs)
  | .any, cs => .ok (.any cs)
  | .not, [c] => .ok (.not c)
  | .not, cs =>
    .error (.negatesSeveral (String.ofList keyword) cs.length (String.ofList rest))

/-- Sub-expressions are shorter than their expression, so `fuel` never runs out when it exceeds the
length of the text. -/
def readWith : (fuel : Nat) → List Char → Except ConditionError Condition
  | 0, s => .error (.notSurrounded (String.ofList s))
  | fuel + 1, s =>
    let s := Text.trim s
    match unwrap s with
    | .error e => .error e
    | .ok inner =>
      let (keyword, rest) := splitKeyword inner
      match named? Keyword.name Keyword.every keyword with
      | none => .error (.unknownType (String.ofList keyword) (String.ofList s))
      | some (.operator o) =>
        match split rest with
        | .error (.textOutside outside) =>
          .error (.textOutside (String.ofList s) (String.ofList (Text.trim outside)))
        | .error .unclosed => .error (.unclosed (String.ofList s))
        | .ok pieces => do combine o keyword rest (← pieces.mapM (readWith fuel))
      | some k => readLeaf s k rest

def parse (text : String) : Except ConditionError Condition :=
  readWith (text.toList.length + 1) text.toList

end Condition

end MailTriage
