import MailTriage.Text.Split

namespace MailTriage

/-- `root` is empty for a path that starts where the program runs. -/
structure Path where
  root : String
  parts : List String
  deriving DecidableEq, Repr

namespace Path

/-- Two slashes at the start are a root of their own; more of them are one. -/
def ofText (s : String) : Path :=
  let cs := s.toList
  let slashes := (cs.takeWhile (· == '/')).length
  let parts := (Text.splitAtChar '/' cs).filter fun p => !p.isEmpty && p != ['.']
  ⟨if slashes = 0 then "" else if slashes = 2 then "//" else "/", parts.map String.ofList⟩

def text (p : Path) : String :=
  let s := p.root ++ "/".intercalate p.parts
  if s.isEmpty then "." else s

/-- The path `q` as seen from `p`. -/
def join (p q : Path) : Path :=
  if q.root.isEmpty then ⟨p.root, p.parts ++ q.parts⟩ else q

def file (p : Path) (name : String) : Path :=
  p.join (ofText name)

def parent (p : Path) : Path :=
  ⟨p.root, p.parts.dropLast⟩

end Path

end MailTriage
