import MailTriage.Settings.Field
import MailTriage.Text.LetterCase
import MailTriage.Text.Path

namespace MailTriage

structure Settings where
  configDir : Path
  rulesFile : String := "rules.csv"
  configFile : String := "config.yaml"
  statsFile : String := "stats.db"
  /-- Whether runs only show what they would do, unless they are told otherwise. -/
  dryRun : Bool := true
  logLevel : String := "INFO"
  logDir : Path
  /-- The size in megabytes at which a log file is put aside. -/
  logSize : Nat := 5
  /-- The number of log files put aside that are kept. -/
  logBackups : Nat := 3
  deriving DecidableEq, Repr

namespace Settings

def usualConfigDir (home : Path) : Path :=
  home.join ⟨"", [".config", "mail-automata"]⟩

def usualLogDir (home : Path) : Path :=
  home.join ⟨"", [".local", "state", "mail-automata"]⟩

def rulesPath (s : Settings) : Path :=
  s.configDir.file s.rulesFile

def configPath (s : Settings) : Path :=
  s.configDir.file s.configFile

def statsPath (s : Settings) : Path :=
  s.configDir.file s.statsFile

/-- The value of a variable, letter case of its name ignored; of several variables the last counts. -/
def valueOf? (key : String) (environment : List (String × String)) : Option String :=
  (environment.reverse.find? fun v => lowerCase v.1 == lowerCase key).map (·.2)

/-- The settings for a user's home directory and the variables of the environment, or all problems with them. -/
def ofEnvironment (home : Path) (environment : List (String × String)) (k : Coercion := .lax) :
    Except (List (String × Problem)) Settings :=
  let value (key : String) : Option String := valueOf? key environment
  let read {α : Type} (reader : Document → Except Problem α) (default : α) (key : String) :
      Except Problem α :=
    match value key with
    | some s => reader (.text s)
    | none => .ok default
  let dryRun := read k.bool true "DRY_RUN"
  let size := read (readBounded k 1 none) 5 "LOG_ROTATION_SIZE_MB"
  let backups := read (readBounded k 0 none) 3 "LOG_BACKUP_COUNT"
  let problems :=
    problemOf "dry_run" dryRun ++ problemOf "log_backup_count" backups ++
      problemOf "log_rotation_size_mb" size
  if problems.isEmpty then
    .ok {
      configDir := ((value "CONFIG_DIR").map Path.ofText).getD (usualConfigDir home)
      rulesFile := (value "RULES_FILE").getD "rules.csv"
      configFile := (value "CONFIG_FILE").getD "config.yaml"
      statsFile := (value "STATS_FILE").getD "stats.db"
      dryRun := valueOr true dryRun
      logLevel := (value "LOG_LEVEL").getD "INFO"
      logDir := ((value "LOG_DIR").map Path.ofText).getD (usualLogDir home)
      logSize := valueOr 5 size
      logBackups := valueOr 3 backups }
  else .error problems

end Settings

end MailTriage
