import MailTriage.Regex.Item

namespace MailTriage.Regex

/-- A character, or a backslash with the character behind it. -/
inductive Token where
  | plain (c : Char)
  | escape (c : Char)
  deriving DecidableEq, Repr

def Token.text : Token → List Char
  | plain c => [c]
  | escape c => ['\\', c]

def Token.width : Token → Nat
  | plain _ => 1
  | escape _ => 2

/-- The place behind the token `next`; nothing follows when there is none. -/
structure Cursor where
  next : Option Token
  rest : List Char
  index : Nat
  deriving Repr

/-- A cursor at the text `s`, which starts at `index`. -/
def Cursor.at (s : List Char) (index : Nat) : Except Error Cursor :=
  match s with
  | [] => .ok ⟨none, [], index⟩
  | ['\\'] => .error (.malformed .danglingEscape (some index))
  | '\\' :: c :: s => .ok ⟨some (.escape c), s, index + 2⟩
  | c :: s => .ok ⟨some (.plain c), s, index + 1⟩

def Cursor.place (c : Cursor) : Nat :=
  c.index - (c.next.map (·.width)).getD 0

/-- What is known of a group once it is entered; it has a width once it is left. -/
structure GroupInfo where
  name : Option String
  width : Option Width
  deriving Repr

structure ReadState where
  cursor : Cursor
  flags : Flags
  /-- Group `n + 1` at index `n`. -/
  groups : Array GroupInfo := #[]
  /-- The number of groups, plus one, where the outermost lookbehind was entered. -/
  lookbehind : Option Nat := none
  /-- Numbers of groups asked about, with the places where they were first. -/
  asked : List (Nat × Nat) := []

abbrev Reader := StateT ReadState (Except Error)

namespace Reader

def fail {α : Type} (p : Problem) (place : Nat) : Reader α :=
  throw (.malformed p (some place))

def peek : Reader (Option Token) := do
  return (← get).cursor.next

def place : Reader Nat := do
  return (← get).cursor.place

/-- Fails at a place `n` characters before the token ahead. -/
def failBack {α : Type} (p : Problem) (n : Nat) : Reader α := do
  fail p ((← place) - n)

def take : Reader (Option Token) := do
  let s ← get
  let cursor ← Cursor.at s.cursor.rest s.cursor.index
  set { s with cursor := cursor }
  return s.cursor.next

def accept (c : Char) : Reader Bool := do
  if (← peek) = some (.plain c) then
    let _ ← take
    return true
  else return false

/-- A bound on the number of tokens still to be read. -/
def room : Reader Nat := do
  return (← get).cursor.rest.length + 2

/-- The next token's character while it satisfies a test, at most `n` of them. -/
def takeWhile (test : Char → Bool) : (n : Nat) → Reader (List Char)
  | 0 => return []
  | n + 1 => do
    match ← peek with
    | some (.plain c) =>
      if test c then
        let _ ← take
        return c :: (← takeWhile test n)
      else return []
    | _ => return []

/-- A name up to a terminator; `name` holds what is read of it, last character first. -/
def nameUntil (terminator : Char) (what : String) (name : List Char) :
    (fuel : Nat) → Reader (List Char)
  | 0 => return name.reverse
  | fuel + 1 => do
    match ← take with
    | none =>
      if name.isEmpty then failBack (.missing what) 0
      else failBack (.unterminatedName (String.singleton terminator)) name.length
    | some t =>
      if t = .plain terminator then
        if name.isEmpty then failBack (.missing what) 1 else return name.reverse
      else nameUntil terminator what (t.text.reverse ++ name) fuel

def name (terminator : Char) (what : String) : Reader (List Char) := do
  nameUntil terminator what [] (← room)

def groupCount : Reader Nat := do
  return (← get).groups.size + 1

def isClosed (n : Nat) : Reader Bool := do
  return ((← get).groups[n - 1]?.bind (·.width)).isSome

def groupNamed? (name : List Char) : Reader (Option Nat) := do
  let groups := (← get).groups
  return (groups.findIdx? (·.name == some (String.ofList name))).map (· + 1)

/-- Inside a lookbehind only groups that were left before it can be referred to. -/
def checkLookbehind (n : Nat) : Reader Unit := do
  match (← get).lookbehind with
  | none => return ()
  | some limit =>
    if !(← isClosed n) then failBack .openGroup 0
    else if limit ≤ n then failBack .groupInSameLookbehind 0

def openGroup (name : Option (List Char)) : Reader Nat := do
  let n ← groupCount
  match name with
  | some s =>
    match ← groupNamed? s with
    | some previous =>
      failBack (.groupRedefined (String.ofList s) n previous) (s.length + 1)
    | none => pure ()
  | none => pure ()
  modify fun s => { s with groups := s.groups.push ⟨name.map String.ofList, none⟩ }
  return n

def widths (groups : Array GroupInfo) (n : Nat) : Width :=
  (groups[n - 1]?.bind (·.width)).getD (0, 0)

def closeGroup (n : Nat) (body : List Item) : Reader Unit :=
  modify fun s =>
    let w := widthOf (widths s.groups) body
    { s with groups := s.groups.modify (n - 1) fun g => { g with width := some w } }

end Reader

end MailTriage.Regex
