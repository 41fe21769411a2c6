import MailTriage.Document.Basic
import MailTriage.Stats.Basic
import MailTriage.Text.Path

namespace MailTriage

inductive Content where
  | text (s : String)
  | document (d : Document)
  | stats (s : Stats)
  deriving Repr

inductive FileError where
  | missing
  | isFolder
  | isFile
  | notFolder
  | noStats
  | unopenedStats
  | unreadableDocument
  deriving DecidableEq, Repr

/-- Names are given from the root of all folders on; `here` is where paths without a root start. -/
structure Files where
  here : List String
  folders : List (List String) := []
  entries : List (List String × Content) := []
  deriving Repr

namespace Files

/-- Two dots take back the name before them. -/
def addPart (parts : List String) (part : String) : List String :=
  if part = ".." then parts.dropLast else parts ++ [part]

def locate (p : Path) (f : Files) : List String :=
  p.parts.foldl addPart (if p.root.isEmpty then f.here else [])

def entry? (key : List String) (f : Files) : Option Content :=
  (f.entries.find? (·.1 == key)).map (·.2)

/-- Whether there is a folder: one that was made, that something lies in, or that leads here. -/
def hasFolder (key : List String) (f : Files) : Bool :=
  key.isPrefixOf f.here || f.folders.any key.isPrefixOf ||
    f.entries.any fun e => key.isPrefixOf e.1.dropLast

def isFolder (p : Path) (f : Files) : Bool :=
  f.hasFolder (f.locate p)

def isFile (p : Path) (f : Files) : Bool :=
  (f.entry? (f.locate p)).isSome

def isThere (p : Path) (f : Files) : Bool :=
  f.isFile p || f.isFolder p

/-- All the beginnings of a list but the empty one, the list itself last. -/
def beginnings (key : List String) : List (List String) :=
  (List.range key.length).map fun n => key.take (n + 1)

def makeFolder (p : Path) (f : Files) : Except FileError Files :=
  let key := f.locate p
  if (f.entry? key).isSome then .error .isFile
  else if (beginnings key).any fun k => (f.entry? k).isSome then .error .notFolder
  else .ok { f with folders := f.folders ++ [key] }

def absence (key : List String) (f : Files) : FileError :=
  if f.hasFolder key then .isFolder
  else if (beginnings key.dropLast).any fun k => (f.entry? k).isSome then .notFolder
  else .missing

def read (p : Path) (f : Files) : Except FileError Content :=
  let key := f.locate p
  match f.entry? key with
  | some c => .ok c
  | none => .error (f.absence key)

/-- Sets what a file holds, in the place where it stood or behind all others. -/
def setEntry (key : List String) (c : Content) : List (List String × Content) →
    List (List String × Content)
  | [] => [(key, c)]
  | e :: es => if e.1 = key then (key, c) :: es else e :: setEntry key c es

def write (p : Path) (c : Content) (f : Files) : Except FileError Files :=
  let key := f.locate p
  if (f.entry? key).isSome || !f.hasFolder key && f.hasFolder key.dropLast then
    .ok { f with entries := setEntry key c f.entries }
  else .error (f.absence key)

def textAt (p : Path) (f : Files) : String :=
  match f.entry? (f.locate p) with
  | some (.text s) => s
  | _ => ""

def appendText (p : Path) (s : String) (f : Files) : Files :=
  { f with entries := setEntry (f.locate p) (.text (f.textAt p ++ s)) f.entries }

/-- Moves a file, if it is there, onto whatever stood in the new place. -/
def move (old new : Path) (f : Files) : Files :=
  let source := f.locate old
  let target := f.locate new
  match f.entry? source with
  | some c =>
    { f with
      entries := setEntry target c (f.entries.filter fun e => e.1 != source && e.1 != target) }
  | none => f

def list (f : Files) : List (String × Content) :=
  f.entries.map fun (key, c) =>
    (if f.here.isPrefixOf key then "/".intercalate (key.drop f.here.length)
      else "/" ++ "/".intercalate key, c)

end Files

end MailTriage
