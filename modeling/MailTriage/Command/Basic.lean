import MailTriage.Text.Path
import MailTriage.Text.Split

/-!
Commands, and how they are given: options may stand before and behind other arguments, short options may
be joined, and two dashes end the options.
-/

namespace MailTriage

inductive Command where
  | version
  | init (folder : Option Path)
  | listRules
  | checkCondition (text : String)
  | process (threads : Path) (dryRun : Option Bool)
  | collapseStats
  deriving DecidableEq, Repr

namespace Command

inductive Request where
  | help
  | run (c : Command)
  deriving DecidableEq, Repr

structure Choice where
  long : List String
  short : List Char := []
  hasValue : Bool := false

/-- An option that was given: its name without dashes and, if it has one, its value. -/
abbrev Given := String × String

/-- The long option that an argument gives; `rest` are the arguments behind it. -/
def longOption? (choices : List Choice) (name : List Char) (value : Option (List Char))
    (rest : List String) : Option (Given × List String) :=
  let name := String.ofList name
  match choices.find? (·.long.contains name), value, rest with
  | none, _, _ => none
  | some c, some v, rest => if c.hasValue then some ((name, String.ofList v), rest) else none
  | some c, none, rest =>
    if c.hasValue then
      match rest with
      | v :: rest => some ((name, v), rest)
      | [] => none
    else some ((name, ""), rest)

/-- The short options that are joined in one argument. -/
def shortOptions? (choices : List Choice) (rest : List String) : List Char →
    Option (List Given × List String)
  | [] => some ([], rest)
  | c :: letters =>
    match choices.find? (·.short.contains c) with
    | none => none
    | some choice =>
      let name := String.singleton c
      if choice.hasValue then
        if letters.isEmpty then
          match rest with
          | v :: rest => some ([(name, v)], rest)
          | [] => none
        else some ([(name, String.ofList letters)], rest)
      else do
        let (given, rest) ← shortOptions? choices rest letters
        return ((name, "") :: given, rest)

def options? (choices : List Choice) (arg : List Char) (rest : List String) :
    Option (List Given × List String) :=
  match arg with
  | '-' :: '-' :: long => do
    let name := long.takeWhile (· != '=')
    let value := if long.contains '=' then some (long.drop (name.length + 1)) else none
    let (given, rest) ← longOption? choices name value rest
    return ([given], rest)
  | _ :: letters => shortOptions? choices rest letters
  | [] => none

/-- The options and the other arguments. If `mixed` is false, the options end at the first other
argument. -/
def readArgs (choices : List Choice) (mixed : Bool) : (fuel : Nat) → List String →
    Option (List Given × List String)
  | 0, args => some ([], args)
  | _, [] => some ([], [])
  | fuel + 1, arg :: args =>
    if arg = "--" then some ([], args)
    else if arg.startsWith "-" && 1 < arg.length then do
      let (given, args) ← options? choices arg.toList args
      let (more, others) ← readArgs choices mixed fuel args
      return (given ++ more, others)
    else if mixed then do
      let (given, others) ← readArgs choices mixed fuel args
      return (given, arg :: others)
    else some ([], arg :: args)

def help : Choice := { long := ["help"] }

/-- The options and the other arguments of a command, or help if that is asked for. -/
def withArgs (choices : List Choice) (mixed : Bool) (args : List String)
    (build : List Given → List String → Option Request) : Option Request := do
  let (given, others) ← readArgs (help :: choices) mixed (args.length + 1) args
  if given.any (·.1 == "help") then return .help
  else build given others

def alone (c : Command) (args : List String) : Option Request :=
  withArgs [] true args fun _ others => if others.isEmpty then some (.run c) else none

def folderOption : Choice := { long := ["config-dir"], short := ['c'], hasValue := true }

def dryRunOption : Choice := { long := ["dry-run", "apply"], short := ['n'] }

/-- What is asked for by arguments; nothing, if they make no sense. Only files that are there, which
`isFile` tells, can be processed. -/
def ofArgs? (isFile : Path → Bool) (args : List String) : Option Request :=
  withArgs [] false args fun _ others =>
    match others with
    | "version" :: args => alone .version args
    | "init" :: args =>
      withArgs [folderOption] true args fun given others =>
        if others.isEmpty then some (.run (.init (given.getLast?.map fun g => .ofText g.2)))
        else none
    | "process" :: args =>
      withArgs [dryRunOption] true args fun given others =>
        match others with
        | [file] =>
          let path := Path.ofText file
          if isFile path then
            some (.run (.process path (given.getLast?.map fun g => g.1 != "apply")))
          else none
        | _ => none
    | "rules" :: args =>
      withArgs [] false args fun _ others =>
        match others with
        | "list" :: args => alone .listRules args
        | "check" :: args =>
          withArgs [] true args fun _ others =>
            match others with
            | [text] => some (.run (.checkCondition text))
            | _ => none
        | _ => none
    | "stats" :: args =>
      withArgs [] false args fun _ others =>
        match others with
        | "collapse" :: args => alone .collapseStats args
        | _ => none
    | _ => none

end Command

end MailTriage
