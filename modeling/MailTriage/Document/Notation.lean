import MailTriage.Document.Basic
import MailTriage.Number.Whole
import MailTriage.Text.CharName

namespace MailTriage.Document

def escapes : List (Char × Char) :=
  [('"', '"'), ('\\', '\\'), ('/', '/'), ('n', '\n'), ('r', '\r'), ('t', '\t'), ('b', '\x08'),
    ('f', '\x0c')]

def escapeChar (c : Char) : List Char :=
  if c = '"' then ['\\', '"']
  else if c = '\\' then ['\\', '\\']
  else if c = '\n' then ['\\', 'n']
  else if c.toNat < 32 then
    ['\\', 'u', '0', '0', Nat.digitChar (c.toNat / 16), Nat.digitChar (c.toNat % 16)]
  else [c]

def textNotation (s : String) : String :=
  String.ofList ('"' :: s.toList.flatMap escapeChar ++ ['"'])

mutual

def notationOf : Document → String
  | null => "null"
  | bool b => if b then "true" else "false"
  | int n => toString n
  | float x => x.text
  | text s => textNotation s
  | moment m => textNotation m.isoText
  | date d => textNotation d.text
  | list items => "[" ++ ", ".intercalate (itemNotations items) ++ "]"
  | map entries => "\x7b" ++ ", ".intercalate (entryNotations entries) ++ "\x7d"

def itemNotations : List Document → List String
  | [] => []
  | d :: ds => notationOf d :: itemNotations ds

def entryNotations : List (String × Document) → List String
  | [] => []
  | (k, d) :: es => (textNotation k ++ ": " ++ notationOf d) :: entryNotations es

end

def hexChar? (digits : List Char) : Option Char :=
  if digits.length = 4 && digits.all Text.isHexDigit then some (.ofNat (Text.ofBase 16 digits))
  else none

/-- The rest of a text behind its opening quote, and what follows the closing one; `done` holds what was
read, last character first. -/
def readText? (done : List Char) : (fuel : Nat) → List Char → Option (String × List Char)
  | 0, _ => none
  | _, [] => none
  | fuel + 1, c :: s =>
    if c = '"' then some (String.ofList done.reverse, s)
    else if c = '\\' then
      match s with
      | 'u' :: s => do
        let c ← hexChar? (s.take 4)
        readText? (c :: done) fuel (s.drop 4)
      | e :: s => do
        let (_, c) ← escapes.find? (·.1 == e)
        readText? (c :: done) fuel s
      | [] => none
    else readText? (c :: done) fuel s

def endsWord (c : Char) : Bool :=
  Text.isBlank c || c = ',' || c = ']' || c = ':' || c.toNat = 125

def ofWord? (word : List Char) : Option Document :=
  match String.ofList word with
  | "null" => some null
  | "true" => some (bool true)
  | "false" => some (bool false)
  | s =>
    match Number.readInt? word with
    | some n => some (int n)
    | none => (Binary64.ofText? s).map float

mutual

/-- A document at the start of a text, and what follows it. -/
def read? : (fuel : Nat) → List Char → Option (Document × List Char)
  | 0, _ => none
  | fuel + 1, s =>
    match Text.trimLeft s with
    | '"' :: s => (readText? [] (s.length + 1) s).map fun (t, s) => (text t, s)
    | '[' :: s =>
      match Text.trimLeft s with
      | ']' :: s => some (list [], s)
      | s => (readItems? fuel s).map fun (items, s) => (list items, s)
    | '\x7b' :: s =>
      match Text.trimLeft s with
      | '\x7d' :: s => some (map [], s)
      | s => (readEntries? fuel s).map fun (entries, s) => (map entries, s)
    | s =>
      let word := s.takeWhile fun c => !endsWord c
      (ofWord? word).map fun d => (d, s.drop word.length)

def readItems? : (fuel : Nat) → List Char → Option (List Document × List Char)
  | 0, _ => none
  | fuel + 1, s => do
    let (d, s) ← read? fuel s
    match Text.trimLeft s with
    | ',' :: s =>
      let (ds, s) ← readItems? fuel s
      return (d :: ds, s)
    | ']' :: s => return ([d], s)
    | _ => none

def readEntries? : (fuel : Nat) → List Char → Option (List (String × Document) × List Char)
  | 0, _ => none
  | fuel + 1, s =>
    match Text.trimLeft s with
    | '"' :: s => do
      let (k, s) ← readText? [] (s.length + 1) s
      match Text.trimLeft s with
      | ':' :: s =>
        let (d, s) ← read? fuel s
        match Text.trimLeft s with
        | ',' :: s =>
          let (es, s) ← readEntries? fuel s
          return ((k, d) :: es, s)
        | '\x7d' :: s => return ([(k, d)], s)
        | _ => none
      | _ => none
    | _ => none

end

/-- The document that a text holds. A blank text holds nothing. -/
def ofText? (s : String) : Option Document :=
  let cs := s.toList
  if (Text.trim cs).isEmpty then some null
  else
    match read? (cs.length + 1) cs with
    | some (d, rest) => if (Text.trim rest).isEmpty then some d else none
    | none => none

end MailTriage.Document
