import MailTriage.Log.Level
import MailTriage.Log.RotatingFile

/-!
The journal of the program: one log for all that happens, and one more for errors. Entries come from
areas of the program; the area of errors has the second log for itself, once that was opened.
-/

namespace MailTriage

structure Journal where
  folder : Path
  maxBytes : Int
  backups : Int
  threshold : Level := .warning
  isOpen : Bool := false
  errorsOpen : Bool := false
  /-- Whether entries of the area of errors go to the log of errors only. -/
  isSeparate : Bool := false
  deriving DecidableEq, Repr

namespace Journal

def usualBytes : Int := 5 * 1024 * 1024

def usualBackups : Int := 3

def unset (folder : Path) : Journal where
  folder := folder
  maxBytes := usualBytes
  backups := usualBackups

def programName : String := "mail_automata"

def errorArea : String := ".errors"

def mainFile (j : Journal) : RotatingFile :=
  ⟨j.folder.file "mail-automata.log", j.maxBytes, j.backups⟩

def errorFile (j : Journal) : RotatingFile :=
  ⟨j.folder.file "mail-automata-error.log", j.maxBytes, j.backups⟩

def close (j : Journal) : Journal :=
  { j with isOpen := false, errorsOpen := false }

/-- Opens the journal in a folder. A size of zero is the usual one. -/
def setUp (folder : Path) (level : String) (maxBytes backups : Option Int) (j : Journal) (f : Files) :
    Journal × Except FileError Files :=
  let j := { j.close with
    folder := folder
    maxBytes := if maxBytes.getD 0 = 0 then usualBytes else maxBytes.getD 0
    backups := backups.getD usualBackups }
  match f.makeFolder folder with
  | .error e => (j, .error e)
  | .ok f =>
    let j := { j with threshold := .ofName level, isOpen := true }
    (j, .ok (j.mainFile.touch f))

def handlerCount (j : Journal) : Nat :=
  if j.isOpen then 2 else 0

def line (stamp : String) (level : Level) (area text : String) : String :=
  stamp ++ "[" ++ level.name ++ "] " ++ programName ++ area ++ ": " ++ text

def openErrors (j : Journal) (f : Files) : Journal × Files :=
  if j.errorsOpen then (j, f)
  else
    let f :=
      match f.makeFolder j.folder with
      | .ok f => f
      | .error _ => f
    ({ j with errorsOpen := true, isSeparate := true }, j.errorFile.touch f)

def writeError (stamp : String) (level : Level) (area text : String) (j : Journal) (f : Files) :
    Journal × Files :=
  let (j, f) := j.openErrors f
  (j, j.errorFile.write (line stamp level area text) f)

def isErrorArea (area : String) : Bool :=
  area = errorArea || area.startsWith (errorArea ++ ".")

def isInside (area : String) : Bool :=
  area.isEmpty || area.startsWith "."

/-- Writes an entry from an area; of areas outside the program nothing is written. -/
def log (stamp : String) (level : Level) (area text : String) (j : Journal) (f : Files) :
    Journal × Files :=
  if isErrorArea area && j.isSeparate then
    if level.reaches .error && j.errorsOpen then j.writeError stamp level area text f else (j, f)
  else if isInside area && level.reaches j.threshold && j.isOpen then
    let f := j.mainFile.write (line stamp level area text) f
    if level.reaches .error then j.writeError stamp level area text f else (j, f)
  else (j, f)

def logError (stamp text : String) (j : Journal) (f : Files) : Journal × Files :=
  j.writeError stamp .error errorArea text f

/-- The entry about a task, which took some milliseconds and may have failed. -/
def taskText (task : String) (millis : Nat) (failure : Option (String × String)) : String :=
  match failure with
  | none => "Finished " ++ task ++ " successfully in " ++ toString millis ++ "ms"
  | some (kind, message) =>
    "Finished " ++ task ++ " failed in " ++ toString millis ++ "ms: " ++ kind ++ "\nMessage: " ++
      message

def logTask (stamp task : String) (millis : Nat) (failure : Option (String × String)) (j : Journal)
    (f : Files) : Journal × Files :=
  j.log stamp .info "" (taskText task millis failure) f

end Journal

end MailTriage
