import MailTriage.Text.LetterCase
import MailTriage.Text.Split
import MailTriage.Regex.CharTest

namespace MailTriage.Mail

/-- The entries of an address header, in small letters. -/
def addresses (header : String) : List String :=
  (Text.trimmedPieces (Text.splitAtChar ',' (Text.lower header.toList))).map String.ofList

/-- Whether a text starts with an empty line, after the end of another line. -/
def startsBlankLine : List Char → Bool
  | '\r' :: '\n' :: '\r' :: '\n' :: _ => true
  | '\r' :: '\n' :: '\n' :: _ => true
  | '\n' :: '\r' :: '\n' :: _ => true
  | '\n' :: '\n' :: _ => true
  | _ => false

/-- A raw message up to its first empty line; `done` holds what was read, last character first. -/
def headerSectionFrom (done : List Char) : List Char → List Char
  | [] => done.reverse
  | c :: s => if startsBlankLine (c :: s) then done.reverse else headerSectionFrom (c :: done) s

def headerSection (raw : List Char) : List Char :=
  headerSectionFrom [] raw

/-- What follows a word at the start of a text, letter case ignored. -/
def afterWord? : (word : List Char) → List Char → Option (List Char)
  | [], s => some s
  | c :: word, d :: s => if Regex.sameUnder .full c.toNat d then afterWord? word s else none
  | _ :: _, [] => none

def listHeader : List Char := "mailing-list:".toList

/-- The value of the first line that is a mailing list header; white space may precede it. -/
def listHeaderValue? (headers : List Char) : Option (List Char) :=
  (Text.splitAtChar '\n' headers).findSome? fun line => afterWord? listHeader (Text.trimLeft line)

/-- The second word of a part that starts with `list`. -/
def listWord? (part : List Char) : Option (List Char) :=
  match Text.words part with
  | first :: second :: _ => if first = "list".toList then some second else none
  | _ => none

/-- The address of the mailing list that a raw message came through, as its header gives it; empty, if
there is none. -/
def listAddress (raw : String) : String :=
  match listHeaderValue? (headerSection raw.toList) with
  | some value =>
    String.ofList (((Text.splitAtChar ';' (Text.trim value)).findSome? listWord?).getD [])
  | none => ""

end MailTriage.Mail
