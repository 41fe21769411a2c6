import MailTriage.Text.Split

namespace MailTriage.Text

/-- What a text goes on with behind another one. -/
def afterText? : (start : List Char) → List Char → Option (List Char)
  | [], s => some s
  | c :: start, d :: s => if c = d then afterText? start s else none
  | _ :: _, [] => none

/-- Characters whose names start with the same words, from the code point `first` on. The lines hold what
the names go on with, with commas between them. -/
structure NameRun where
  first : Nat
  start : String
  lines : List String

def NameRun.code? (r : NameRun) (name : List Char) : Option Nat := do
  let rest ← afterText? r.start.toList name
  let place ← (r.lines.flatMap fun line => splitAtChar ',' line.toList).findIdx? (· == rest)
  return r.first + place

end MailTriage.Text
