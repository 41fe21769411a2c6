import MailTriage.Files

/-!
Log files that are put aside when they grow too large. The files put aside have numbers, the latest one
having the number one, and only so many of them are kept.
-/

namespace MailTriage

structure RotatingFile where
  path : Path
  maxBytes : Int
  backups : Int
  deriving DecidableEq, Repr

namespace RotatingFile

/-- A file put aside; number zero is the file that is written. -/
def numbered (r : RotatingFile) (n : Nat) : Path :=
  if n = 0 then r.path
  else
    match r.path.parts.getLast? with
    | some name => { r.path with parts := r.path.parts.dropLast ++ [name ++ "." ++ toString n] }
    | none => r.path

def touch (r : RotatingFile) (f : Files) : Files :=
  f.appendText r.path ""

/-- Puts the file aside: every file takes the next number, and the last one is lost. -/
def rotate (r : RotatingFile) (f : Files) : Files :=
  r.touch ((List.range r.backups.toNat).reverse.foldl
    (fun f n => f.move (r.numbered n) (r.numbered (n + 1))) f)

/-- Whether a line would fill the file. The file counts by bytes, the line by characters. -/
def isFull (r : RotatingFile) (line : String) (f : Files) : Bool :=
  0 < r.maxBytes && r.maxBytes ≤ (f.textAt r.path).utf8ByteSize + line.length + 1

def write (r : RotatingFile) (line : String) (f : Files) : Files :=
  let f := if r.isFull line f then r.rotate f else f
  f.appendText r.path (line ++ "\n")

end RotatingFile

end MailTriage
