import MailTriage.Command.Run
import Std.Time.DateTime.Timestamp

namespace MailTriage.CommandLine

def hereName : String := "."

def variableNames : List String :=
  ["CONFIG_DIR", "RULES_FILE", "CONFIG_FILE", "STATS_FILE", "DRY_RUN", "LOG_LEVEL", "LOG_DIR",
    "LOG_ROTATION_SIZE_MB", "LOG_BACKUP_COUNT"]

def readEnvironment : IO (List (String × String)) := do
  let mut found := []
  for name in variableNames do
    if let some value ← IO.getEnv ("MAIL_AUTOMATA_" ++ name) then found := (name, value) :: found
  return found

def now : IO Moment := do
  let t ← Std.Time.Timestamp.now
  let start := Moment.ofDate ⟨1970, 1, 1⟩
  return ⟨start.wall + t.toNanosecondsSinceUnixEpoch.val / 1000, none⟩

def isFolder (path : String) : IO Bool := do
  ((← IO.currentDir) / path).isDir

def addFile (p : Path) (f : Files) : IO Files := do
  let key := f.locate p
  if (f.entry? key).isSome then return f
  else
    try
      let s ← IO.FS.readFile p.text
      return { f with entries := f.entries ++ [(key, .text s)] }
    catch _ =>
      if ← isFolder p.text then return { f with folders := f.folders ++ [key] } else return f

/-- The paths that commands may look at: those of the settings, and those among the arguments. -/
def pathsOf (home : Path) (environment : List (String × String)) (args : List String) : List Path :=
  let arguments := args.map Path.ofText
  let folders := arguments.filter fun p => p.text != "."
  match Settings.ofEnvironment home environment with
  | .error _ => arguments
  | .ok s =>
    let log := (Journal.unset s.logDir)
    let ofFolder (folder : Path) : List Path :=
      let s := { s with configDir := folder }
      [folder, s.rulesPath, s.configPath, s.statsPath]
    let logs := [log.mainFile, log.errorFile].flatMap fun r =>
      (List.range (s.logBackups + 1)).map r.numbered
    arguments ++ (s.configDir :: folders).flatMap ofFolder ++ s.logDir :: logs

def contentText : Content → String
  | .text s => s
  | .document d => d.notationOf ++ "\n"
  | .stats s => s.toDocument.notationOf ++ "\n"

def pathText (key : List String) : String :=
  match key with
  | first :: rest =>
    if first = hereName then "/".intercalate (hereName :: rest) else "/" ++ "/".intercalate key
  | [] => "/"

def writeChanges (old new : Files) : IO Unit := do
  for key in new.folders do
    if !old.folders.contains key then IO.FS.createDirAll (pathText key)
  for (key, c) in new.entries do
    let s := contentText c
    if (old.entry? key).map contentText != some s then IO.FS.writeFile (pathText key) s

def padRow (widths : List Nat) (row : List String) : String :=
  " | ".intercalate ((row.zip widths).map fun (cell, width) =>
    cell ++ String.ofList (List.replicate (width - cell.length) ' '))

def showTable (t : Table) : IO Unit := do
  let widths := (t.rows.foldl (fun ws row => ws.zipWith (fun w cell => max w cell.length) row)
    (t.columns.map String.length))
  IO.println t.title
  for row in t.columns :: t.rows do IO.println (padRow widths row)

def showOutput : Output → IO Unit
  | .line s => IO.println s
  | .table t => showTable t

def usage : String :=
  "usage: mail-automata version | init [--config-dir FOLDER] | process THREADS [--dry-run | --apply]\n" ++
    "       mail-automata rules list | rules check CONDITION | stats collapse"

def runCommand (home : Path) (environment : List (String × String)) (files : Files) (c : Command) :
    IO UInt32 := do
  let start ← now
  let stamp := start.textWith " " ++ " "
  let (ending, desk) := Command.run ⟨home, environment, start, start, stamp⟩ c files
  writeChanges files desk.files
  for o in desk.shown do showOutput o
  match ending with
  | .ok () => return 0
  | .error .refused => return 1
  | .error (.broken f) =>
    IO.eprintln (reprStr f)
    return 1

def run (args : List String) : IO UInt32 := do
  let home := Path.ofText ((← IO.getEnv "HOME").getD "")
  let environment ← readEnvironment
  let mut files : Files := { here := [hereName] }
  for p in pathsOf home environment args do files ← addFile p files
  match Command.ofArgs? files.isFile args with
  | none =>
    IO.eprintln usage
    return 2
  | some .help =>
    IO.println usage
    return 0
  | some (.run c) => runCommand home environment files c

end MailTriage.CommandLine

def main (args : List String) : IO UInt32 :=
  MailTriage.CommandLine.run args
