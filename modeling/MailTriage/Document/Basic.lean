import MailTriage.Calendar.Moment
import MailTriage.Number.Decimal
import MailTriage.Text.Quoted

namespace MailTriage

open Calendar

inductive Document where
  | null
  | bool (b : Bool)
  | int (n : Int)
  | float (x : Binary64)
  | text (s : String)
  | moment (m : Moment)
  | date (d : Date)
  | list (items : List Document)
  | map (entries : List (String × Document))
  deriving Inhabited, Repr

namespace Document

/-- Whether something is there: nothing is, in what is null, false, zero or empty. -/
def isPresent : Document → Bool
  | null => false
  | bool b => b
  | int n => n != 0
  | float x => !x.isZero
  | text s => !s.isEmpty
  | moment _ | date _ => true
  | list items => !items.isEmpty
  | map entries => !entries.isEmpty

def lookup? (key : String) (entries : List (String × Document)) : Option Document :=
  (entries.find? (·.1 == key)).map (·.2)

def spanText (micros : Int) : String :=
  let days := Int.fdiv micros Moment.dayLength
  let rest := Int.fmod micros Moment.dayLength
  let seconds := rest / Moment.second
  let micro := rest % Moment.second
  let part (name : String) (n : Int) : List String :=
    if n = 0 then [] else [name ++ "=" ++ toString n]
  let parts := part "days" days ++ part "seconds" seconds ++ part "microseconds" micro
  "datetime.timedelta(" ++ (if parts.isEmpty then "0" else ", ".intercalate parts) ++ ")"

def zoneText (offset : Int) : String :=
  if offset = 0 then "datetime.timezone.utc"
  else "datetime.timezone(" ++ spanText offset ++ ")"

def dateParts (d : Date) : List String :=
  [toString d.year, toString d.month, toString d.day]

def momentParts (m : Moment) : List String :=
  let (hour, minute, second, micro) := m.timeOfDay
  dateParts m.date ++ [toString hour, toString minute] ++
    (if micro = 0 then if second = 0 then [] else [toString second]
      else [toString second, toString micro]) ++
    (m.offset.map fun o => ["tzinfo=" ++ zoneText o]).getD []

mutual

def inner : Document → String
  | null => "None"
  | bool true => "True"
  | bool false => "False"
  | int n => toString n
  | float x => x.text
  | text s => quoted s
  | moment m => "datetime.datetime(" ++ ", ".intercalate (momentParts m) ++ ")"
  | date d => "datetime.date(" ++ ", ".intercalate (dateParts d) ++ ")"
  | list items => "[" ++ ", ".intercalate (innerItems items) ++ "]"
  | map entries => "\x7b" ++ ", ".intercalate (innerEntries entries) ++ "\x7d"

def innerItems : List Document → List String
  | [] => []
  | d :: ds => d.inner :: innerItems ds

def innerEntries : List (String × Document) → List String
  | [] => []
  | (k, d) :: ds => (quoted k ++ ": " ++ d.inner) :: innerEntries ds

end

/-- A value on its own: texts without quotes, days and moments as they are written. -/
def shown : Document → String
  | text s => s
  | moment m => m.textWith " "
  | date d => d.text
  | d => d.inner

end Document

end MailTriage
