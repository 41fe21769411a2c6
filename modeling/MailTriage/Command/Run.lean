import MailTriage.Batch.Run
import MailTriage.Command.Basic
import MailTriage.Console.Output
import MailTriage.Document.Notation
import MailTriage.Files
import MailTriage.Log.Journal
import MailTriage.Mail.Document
import MailTriage.Number.Decimal
import MailTriage.Rule.Table
import MailTriage.Settings.Environment
import MailTriage.Stats.Document
import MailTriage.Text.Csv

namespace MailTriage.Command

/-- Why a command breaks off without a word of its own. -/
inductive Failure where
  | settings (problems : List (String × Settings.Problem))
  | file (error : FileError)
  | markup (error : Markup.Error)
  | csv (error : Csv.Error)
  | config (error : ConfigError)
  | table (error : Rule.TableError)
  | condition (error : ConditionError)
  | threads (error : Mail.ThreadsError)
  | calendar (error : CalendarError)
  | run (error : RunError)
  | stats (error : StatsError)
  deriving Repr

inductive Ending where
  | refused
  | broken (f : Failure)
  deriving Repr

/-- What a command works on: the files, and what it has shown so far. -/
structure Desk where
  files : Files
  shown : List Output := []
  deriving Repr

structure Surroundings where
  home : Path
  environment : List (String × String)
  start : Moment
  stop : Moment
  /-- How entries of the log begin. -/
  stamp : String

abbrev Task (α : Type) := ExceptT Ending (StateM Desk) α

def lift {α ε : Type} (failure : ε → Failure) (a : Except ε α) : Task α :=
  match a with
  | .ok a => return a
  | .error e => throw (.broken (failure e))

def present (o : Except Markup.Error Output) : Task Unit := do
  let o ← lift .markup o
  modify fun d => { d with shown := d.shown ++ [o] }

def say (text : String) : Task Unit :=
  present (Output.ofMarkup text)

/-- Says what is wrong, where there are words for it, and ends the command. -/
def refuse {α : Type} (title : String) (message : Option String) (f : Failure) : Task α := do
  match message with
  | some m =>
    say ("[red]" ++ title ++ ":[/red] " ++ Output.plain m)
    throw .refused
  | none => throw (.broken f)

def files : Task Files := do
  return (← get).files

def setFiles (f : Files) : Task Unit :=
  modify fun d => { d with files := f }

def changeFiles (change : Files → Except FileError Files) : Task Unit := do
  setFiles (← lift .file (change (← files)))

def settings (s : Surroundings) : Task Settings :=
  lift .settings (Settings.ofEnvironment s.home s.environment)

def content? (p : Path) : Task (Option Content) := do
  let f ← files
  if f.isThere p then return some (← lift .file (f.read p)) else return none

def documentOf (c : Content) : Task Document :=
  match c with
  | .document d => return d
  | .text s =>
    match Document.ofText? s with
    | some d => return d
    | none => throw (.broken (.file .unreadableDocument))
  | .stats _ => throw (.broken (.file .unreadableDocument))

def document? (p : Path) : Task (Option Document) := do
  match ← content? p with
  | some c => return some (← documentOf c)
  | none => return none

/-- The options; `title` goes before what is wrong with them. -/
def loadConfig (title : String) (p : Path) (k : Settings.Coercion := .lax) : Task Config := do
  match Config.ofDocument (← document? p) k with
  | .ok c => return c
  | .error e => refuse title (some (e.message p.text)) (.config e)

def saveConfig (p : Path) (c : Config) : Task Unit := do
  changeFiles (·.makeFolder p.parent)
  changeFiles (·.write p (.document c.toDocument))

def loadRows (p : Path) : Task (List (List String)) := do
  match ← content? p with
  | none => return []
  | some (.text s) => lift .csv (Csv.read s)
  | some _ => throw (.broken (.file .unreadableDocument))

def loadRules (title : String) (c : Config) (p : Path) : Task (List Rule) := do
  match Rule.ofTable c.parentLabels (← loadRows p) with
  | .ok rules => return rules
  | .error e => refuse title e.message? (.table e)

def openStats (p : Path) : Task Stats := do
  changeFiles (·.makeFolder p.parent)
  if (← files).isFolder p then throw (.broken (.file .unopenedStats))
  match ← content? p with
  | some (.stats s) => return s
  | none | some (.text "") =>
    changeFiles (·.write p (.stats {}))
    return {}
  | some (.text s) =>
    match (Document.ofText? s).bind Stats.ofDocument? with
    | some s => return s
    | none => throw (.broken (.file .noStats))
  | some (.document _) => throw (.broken (.file .noStats))

def exampleRules : String :=
  ",".intercalate (Rule.Column.every.map (·.name)) ++ "\n" ++
    "(sender xyz@gmail.com),xyz,archive,,,10,,,\n" ++
    "\"(or (subject /newsletter/i) (list news@example.com))\"," ++
    "\"news,reading/later\",archive,,yes,20,,,\n" ++
    "(header X-Priority 1),urgent,inbox,yes,,20,,,next_stage\n" ++
    "(thread is_starred),,nothing,,,30,,,done\n" ++
    "(body unsubscribe),promotions,archive,,,100,,yes,\n"

def create (p : Path) (writing : Task Unit) : Task Unit := do
  if !(← files).isThere p then
    writing
    say ("[green]Created[/green] " ++ p.text)

def runInit (s : Surroundings) (folder : Option Path) : Task Unit := do
  let st ← settings s
  let st := { st with configDir := folder.getD st.configDir }
  changeFiles (·.makeFolder st.configDir)
  create st.rulesPath (changeFiles (·.write st.rulesPath (.text exampleRules)))
  create st.configPath (saveConfig st.configPath {})
  say ("\n[bold]Configuration initialized at:[/bold] " ++ st.configDir.text)

def ruleRow (r : Rule) : List String :=
  [if r.stage = Rule.lastStage then "last" else toString r.stage,
    Output.plain r.condition.toExpression, Output.plain r.action.summary, r.action.followUp.name]

def runListRules (s : Surroundings) : Task Unit := do
  let st ← settings s
  let config ← loadConfig "Invalid rules" st.configPath
  let rules ← loadRules "Invalid rules" config st.rulesPath
  if rules.isEmpty then
    say "[yellow]No rules configured[/yellow]"
    say "Run [bold]mail-automata init[/bold] to create example rules"
  else
    present (Output.tableOfMarkup {
      title := "Processing Rules"
      columns := ["Stage", "Condition", "Action", "After match"]
      rows := rules.map ruleRow })

def runCheckCondition (text : String) : Task Unit := do
  match Condition.parse text with
  | .error e => refuse "Invalid condition" e.message? (.condition e)
  | .ok c =>
    say ("[green]OK[/green] " ++ Output.plain c.toExpression)
    if !c.headers.isEmpty then say ("  Headers: " ++ ", ".intercalate c.headers)

def logAll (stamp : String) (entries : List (Level × String)) (j : Journal) : Task Unit := do
  let (_, f) := entries.foldl (fun (j, f) (level, text) => j.log stamp level ".batch" text f)
    (j, ← files)
  setFiles f

def entriesOf (r : RunResult) : List (Level × String) :=
  (Level.info, "Found " ++ toString r.fetched ++ " unprocessed threads.") ::
    r.failureTexts.map fun text => (Level.error, "Process email failed: " ++ text)

def secondsText (micros : Int) : String :=
  let n := Binary64.roundDiv micros.toNat 10000
  toString (n / 100) ++ "." ++ Calendar.padded 2 (n % 100)

def threadRow (t : ThreadResult) : List String :=
  let action := Output.plain t.action
  [Output.plain t.id, Output.plain t.subject, toString t.messages,
    if t.error.isSome then "[red]" ++ action ++ "[/red]" else action]

def tellResult (s : Surroundings) (dryRun : Bool) (r : RunResult) : Task Unit := do
  say ("  Dry run: " ++ if dryRun then "Yes" else "No")
  if r.threads.isEmpty then say "[yellow]No unprocessed threads[/yellow]"
  else
    present (Output.tableOfMarkup {
      title := "Thread Actions"
      columns := ["ID", "Subject", "Messages", "Action"]
      rows := r.threads.map threadRow })
    say ("Processed " ++ toString r.processed ++ " of " ++ toString r.fetched ++ " threads in " ++
      secondsText (s.stop.instant - s.start.instant) ++ "s")
    for text in r.failureTexts do
      say ("[red]Failed:[/red] " ++ Output.plain text)
    if !r.failures.isEmpty then throw .refused

def openJournal (st : Settings) : Task Journal := do
  let (j, f) := (Journal.unset st.logDir).setUp st.logDir st.logLevel
    (some (st.logSize * 1024 * 1024)) (some st.logBackups) (← files)
  setFiles (← lift .file f)
  return j

def loadThreads (title : String) (p : Path) : Task (List Thread) := do
  match Mail.threadsOfFile p.text (← documentOf (← lift .file ((← files).read p))) with
  | .ok ts => return ts
  | .error e => refuse title e.message? (.threads e)

/-- Processes the threads of a file. What the log is told comes from a run that only shows what it would
do. -/
def runProcess (s : Surroundings) (threads : Path) (dryRun : Option Bool) : Task Unit := do
  let st ← settings s
  let dryRun := dryRun.getD st.dryRun
  let j ← openJournal st
  -- The first of these steps that goes wrong is the one that is reported.
  let title := "Processing failed"
  let mailbox := Mailbox.ofStore (.ofThreads (← loadThreads title threads) [])
  let config ← loadConfig title st.configPath
  let rules ← loadRules title config st.rulesPath
  let session ← lift .calendar (Session.starting config rules s.start)
  let stats ← if dryRun then pure none else do pure (some (← openStats st.statsPath))
  let state : Batch.State := ⟨mailbox, stats⟩
  let preview ← lift .run (Batch.run session s.start s.stop { dryRun := true } state).2
  logAll s.stamp (entriesOf preview) j
  if dryRun then tellResult s dryRun preview
  else
    let (state, r) := Batch.run session s.start s.stop {} state
    let r ← lift .run r
    if let some stats := state.stats then changeFiles (·.write st.statsPath (.stats stats))
    tellResult s dryRun r

def figureRow (name : String) (x : Option Binary64) : List String :=
  [name, (x.map (·.brief)).getD "-"]

def runCollapseStats (s : Surroundings) : Task Unit := do
  let st ← settings s
  let stats ← openStats st.statsPath
  let (summary, stats) ← lift .stats (stats.collapse s.start)
  match summary with
  | none => say "[yellow]No runs recorded since the last collapse[/yellow]"
  | some summary =>
    changeFiles (·.write st.statsPath (.stats stats))
    present (Output.tableOfMarkup {
      title := "Statistics for " ++ summary.day.text
      columns := ["Metric", "Value"]
      rows := summary.figures.map fun (name, x) => figureRow name x })

def versionText : String := "0.1.0"

def task (s : Surroundings) : Command → Task Unit
  | version => say ("mail-automata v" ++ versionText)
  | init folder => runInit s folder
  | listRules => runListRules s
  | checkCondition text => runCheckCondition text
  | process threads dryRun => runProcess s threads dryRun
  | collapseStats => runCollapseStats s

def run (s : Surroundings) (c : Command) (f : Files) : Except Ending Unit × Desk :=
  ((task s c).run.run { files := f }).run

end MailTriage.Command
