import MailTriage.Settings.Field

namespace MailTriage

structure Config where
  unprocessedLabel : String := "unprocessed"
  processedLabel : String := "processed"
  failedLabel : String := "error"
  /-- Minutes between two runs. -/
  frequency : Nat := 5
  /-- The hour of the day at which statistics are summed up. -/
  checkHour : Nat := 0
  link : String := ""
  maxThreads : Nat := 50
  /-- The label under which labels for mailing lists go. -/
  listParent : String := ""
  /-- Whether labels bring their parents with them. -/
  parentLabels : Bool := true
  deriving DecidableEq, Repr

namespace Config

open Settings

/-- The entries that write the options, in the order in which they are saved. -/
def toEntries (c : Config) : List (String × Document) :=
  [("unprocessed_label", .text c.unprocessedLabel),
    ("processed_label", .text c.processedLabel),
    ("processing_failed_label", .text c.failedLabel),
    ("processing_frequency_in_minutes", .int c.frequency),
    ("hour_of_day_to_run_sanity_checking", .int c.checkHour),
    ("go_link", .text c.link),
    ("max_threads", .int c.maxThreads),
    ("auto_labeling_parent_label", .text c.listParent),
    ("parent_labeling", .bool c.parentLabels)]

def keys : List String :=
  (toEntries {}).map (·.1)

/-- The options that entries give, the missing ones being as usual, or all problems with them. -/
def ofEntries (entries : List (String × Document)) (k : Coercion := .lax) :
    Except (List (String × Problem)) Config :=
  let unprocessed := readField (readLabel k) "unprocessed" entries "unprocessed_label"
  let processed := readField (readLabel k) "processed" entries "processed_label"
  let failed := readField (readLabel k) "error" entries "processing_failed_label"
  let frequency := readField (readBounded k 5 none) 5 entries "processing_frequency_in_minutes"
  let hour := readField (readBounded k 0 (some 23)) 0 entries "hour_of_day_to_run_sanity_checking"
  let link := readField k.text "" entries "go_link"
  let threads := readField (readBounded k 1 (some 100)) 50 entries "max_threads"
  let parent := readField k.text "" entries "auto_labeling_parent_label"
  let parents := readField k.bool true entries "parent_labeling"
  let unknown := (entries.map (·.1)).filter fun k => !keys.contains k
  let problems :=
    problemOf "unprocessed_label" unprocessed ++ problemOf "processed_label" processed ++
      problemOf "processing_failed_label" failed ++
      problemOf "processing_frequency_in_minutes" frequency ++
      problemOf "hour_of_day_to_run_sanity_checking" hour ++ problemOf "go_link" link ++
      problemOf "max_threads" threads ++ problemOf "auto_labeling_parent_label" parent ++
      problemOf "parent_labeling" parents ++ unknown.map fun k => (k, Problem.unknownField)
  if problems.isEmpty then
    .ok {
      unprocessedLabel := valueOr "" unprocessed
      processedLabel := valueOr "" processed
      failedLabel := valueOr "" failed
      frequency := valueOr 0 frequency
      checkHour := valueOr 0 hour
      link := valueOr "" link
      maxThreads := valueOr 0 threads
      listParent := valueOr "" parent
      parentLabels := valueOr true parents }
  else .error problems

end Config

/-- Why the options of a file are refused. -/
inductive ConfigError where
  | notMapping
  | invalid (problems : List (String × Settings.Problem))
  deriving DecidableEq, Repr

namespace ConfigError

def summary (file : String) : ConfigError → String
  | notMapping => "Config file " ++ file ++ " should contain a mapping"
  | invalid _ => "Invalid config in " ++ file

def message (file : String) (e : ConfigError) : String :=
  match e with
  | notMapping => e.summary file
  | invalid problems =>
    e.summary file ++ ": " ++
      ", ".intercalate (problems.map fun (key, problem) => key ++ " (" ++ problem.code ++ ")")

end ConfigError

namespace Config

open Settings

/-- The options that a document gives. A file that is missing or holds nothing gives the usual ones. -/
def ofDocument (document : Option Document) (k : Coercion := .lax) : Except ConfigError Config :=
  match document with
  | none => .ok {}
  | some d =>
    if !d.isPresent then .ok {}
    else
      match d with
      | .map entries => (ofEntries entries k).mapError .invalid
      | _ => .error .notMapping

def toDocument (c : Config) : Document :=
  .map c.toEntries

end Config

end MailTriage
