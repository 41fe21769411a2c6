import MailTriage.Text.LetterCase

namespace MailTriage

inductive Level where
  | debug | info | warning | error | critical
  deriving DecidableEq, Repr

namespace Level

def rank : Level → Nat
  | debug => 10
  | info => 20
  | warning => 30
  | error => 40
  | critical => 50

def name : Level → String
  | debug => "DEBUG"
  | info => "INFO"
  | warning => "WARNING"
  | error => "ERROR"
  | critical => "CRITICAL"

/-- The names of levels in settings. To set none is to ask for warnings. -/
def names : List (String × Level) :=
  [("DEBUG", debug), ("INFO", info), ("WARN", warning), ("WARNING", warning), ("NOTSET", warning),
    ("ERROR", error), ("CRITICAL", critical), ("FATAL", critical)]

def ofName (s : String) : Level :=
  ((names.find? (·.1 == upperCase s)).map (·.2)).getD info

def reaches (level threshold : Level) : Bool :=
  threshold.rank ≤ level.rank

end Level

end MailTriage
