import EntitySchema.CommandLine.Arguments
import EntitySchema.CommandLine.Directory
import EntitySchema.CommandLine.Log
import EntitySchema.ConfigReading
import EntitySchema.Registry.Reading
import EntitySchema.Text.Grid

/-!
# CommandLine/Run — the commands

`generate` reads the registry, then the configuration, and writes the schema; `check` reads the
registry and reports its issues.  A command either does all of its work or ends with one line that
says why not, having written nothing: a file is written last, when all else has gone well.

On the standard error stand the lines of the log, and behind them the one line that says how the
command went.  An outcome has the two apart, the log as the events that are shown, without their
times.  What is said of a text that is not read leaves out the place of the fault.
-/

namespace EntitySchema

/-- Why a command does not do its work. -/
inductive Failure
  | registryUnreadable (path : String) (e : FileError)
  | registryInvalid (path : String) (f : Json.Fault)
  | configUnreadable (path : String) (e : FileError)
  | configInvalid (path : String) (e : ConfigError)
  | inconsistent (issues : List Issue)
  | unwritable (path : String) (e : FileError)
  /-- A report was made that is not empty. -/
  | issuesFound (count : Nat)

/-- A file that was not read, in words; the cause is said twice, as part of the error and by
itself. -/
def unreadableMessage (path : String) (e : FileError) : String :=
  "Failed to read " ++ path ++ ": " ++ e.message ++ ": " ++ e.message

/-- What is wrong with a configuration, in words.  Where a text is no document, or a value has the
wrong shape, the place in the text and its excerpt are left out. -/
def ConfigError.message : ConfigError → String
  | malformed => "Invalid config file: not a TOML document"
  | mismatch m => "Invalid config file: " ++ m.message
  | invalid f => "Invalid configuration: " ++ f.message

/-- The failure in words. -/
def Failure.message : Failure → String
  | registryUnreadable path e =>
    "Cannot load registry " ++ path ++ ": " ++ unreadableMessage path e
  | registryInvalid path f =>
    "Cannot load registry " ++ path ++ ": Invalid registry definition: " ++ f.message ++ ": " ++
      f.message
  | configUnreadable path e => "Cannot load config " ++ path ++ ": " ++ unreadableMessage path e
  | configInvalid path e => "Cannot load config " ++ path ++ ": " ++ e.message
  | inconsistent issues => Issue.refusal issues
  | unwritable path e => "Cannot write " ++ path ++ ": " ++ e.message
  | issuesFound count => toString count ++ " registry issue(s) found"

/-- What a command leaves behind, files apart. -/
structure Outcome where
  exit : Nat
  stdout : String := ""
  /-- What stands on the standard error behind the log. -/
  status : String := ""
  /-- The events whose lines stand on the standard error. -/
  log : List LogEvent := []
  deriving DecidableEq, Repr

/-- The outcome with events that come before it. -/
def Outcome.after (o : Outcome) (events : List LogEvent) : Outcome :=
  { o with log := events ++ o.log }

/-- The outcome with those events that are shown. -/
def Outcome.showing (o : Outcome) (shown : LogEvent → Bool) : Outcome :=
  { o with log := o.log.filter shown }

/-- A line that reports success. -/
def successLine (message : String) : String := "✓ " ++ message ++ "\n"

/-- A line that reports failure. -/
def failureLine (message : String) : String := "✗ " ++ message ++ "\n"

/-- The outcome of a command that failed, with what it had printed by then. -/
def Failure.outcome (f : Failure) (stdout : String) : Outcome :=
  { exit := 1, stdout, status := failureLine f.message }

/-! ## Reports -/

/-- The word for the kind of an issue. -/
def Issue.kind : Issue → String
  | missingPrimaryKey _ => "missing-primary-key"
  | multiplePrimaryKeys _ _ => "multiple-primary-keys"
  | unresolvedAssociation _ _ _ => "unresolved-association"
  | duplicateField _ _ => "duplicate-field"
  | unknownEntity _ => "unknown-entity"

/-- An issue as a row of a report. -/
def Issue.record (i : Issue) : List String := [i.kind, i.entity, i.message]

/-- The report of issues: a grid and their number. -/
def report (issues : List Issue) : String :=
  Text.grid ["Kind", "Entity", "Detail"] (issues.map Issue.record) ++ "\n" ++
    "Issues: " ++ toString issues.length ++ "\n"

/-- What a check says of the issues that it found. -/
def verdict (issues : List Issue) : Outcome :=
  if issues.isEmpty then { exit := 0, status := successLine "Registry is consistent" }
  else (Failure.issuesFound issues.length).outcome (report issues)

/-! ## Commands -/

/-- What the environment asks for. -/
structure Environment where
  /-- A configuration file. -/
  config : Option String := none
  /-- Which events get a line in the log. -/
  filter : Option (LogEvent → Bool) := none

section Commands

variable {m : Type → Type} [Monad m]

/-- Reads the registry at a path. -/
def loadRegistry (files : Files m) (path : String) : m (Except Failure Registry) := do
  match ← files.read path with
  | .error e => return .error (.registryUnreadable path e)
  | .ok text => return (Registry.read text).mapError (.registryInvalid path)

/-- Name of the configuration file that is looked for beside the registry. -/
def configFileName : String := "modelgql.toml"

/-- The configuration file to read: the one asked for, or else the one beside the registry, if it is
there. -/
def configPath (files : Files m) (asked : Option String) (registry : String) :
    m (Option String) := do
  match asked with
  | some path => return some path
  | none =>
    let path := Path.sibling registry configFileName
    return if ← files.present path then some path else none

/-- Reads the configuration for a registry, and tells where it is looked for. -/
def loadConfig (files : Files m) (asked : Option String) (registry : String) :
    m (LogEvent × Except Failure Config) := do
  match ← configPath files asked registry with
  | none => return (.unconfigured, .ok {})
  | some path =>
    match ← files.read path with
    | .error e => return (.loadingConfig path, .error (.configUnreadable path e))
    | .ok text => return (.loadingConfig path, (Config.read text).mapError (.configInvalid path))

/-- The names to expose; an empty list exposes all. -/
def exposure (names : List String) : Option (List String) :=
  if names.isEmpty then none else some names

/-- The request for the schema of a registry, under a configuration that may be made strict. -/
def schemaRequest (r : Registry) (c : Config) (strict : Bool) (expose : List String) : Request :=
  { registry := r, config := { c with strict := c.strict || strict }, exposed := exposure expose }

/-- Hands the schema over: to a file, or to the standard output. -/
def deliver (files : Files m) (output : Option String) (text : String) : m Outcome := do
  match output with
  | none => return { exit := 0, stdout := text }
  | some path =>
    match ← files.write path text with
    | .error e => return (Failure.unwritable path e).outcome ""
    | .ok () => return { exit := 0, status := successLine ("Wrote " ++ path) }

/-- Generates the schema of a registry. -/
def generate (files : Files m) (asked : Option String) (registry : String)
    (output : Option String) (strict : Bool) (expose : List String) : m Outcome := do
  match ← loadRegistry files registry with
  | .error f => return f.outcome ""
  | .ok r =>
    let (event, config) ← loadConfig files asked registry
    match config with
    | .error f => return (f.outcome "").after (r.log ++ [event])
    | .ok c =>
      let q := schemaRequest r c strict expose
      let told := r.log ++ [event] ++ q.log
      match q.generate with
      | .error issues => return ((Failure.inconsistent issues).outcome "").after told
      | .ok text =>
        return (← deliver files output text).after (told ++ [.generated r.size text.utf8ByteSize])

/-- Reports the issues of a registry. -/
def check (files : Files m) (registry : String) (expose : List String) : m Outcome := do
  match ← loadRegistry files registry with
  | .error f => return f.outcome ""
  | .ok r =>
    let q : Request := { registry := r, exposed := exposure expose }
    return (verdict q.issues).after r.log

/-- The program's name and version. -/
def versionLine : String := "modelgql 0.0.1\n"

/-- How the program is called. -/
def usage : String :=
  "Usage: modelgql [-c FILE] [-v] generate REGISTRY [-o FILE] [--strict] [--expose NAMES]\n" ++
  "       modelgql [-c FILE] [-v] check REGISTRY [--expose NAMES]\n"

/-- Performs what was asked for. -/
def perform (files : Files m) (environment : Environment) (i : Arguments.Invocation) :
    m Outcome := do
  let outcome ← match i.action with
    | .generate registry output strict expose =>
      generate files i.config registry output strict expose
    | .check registry expose => check files registry expose
  return outcome.showing (LogEvent.isShown environment.filter i.verbose)

/-- Runs a command line. -/
def run (files : Files m) (environment : Environment) (words : List String) : m Outcome :=
  match Arguments.read environment.config words with
  | .error .version => return { exit := 0, stdout := versionLine }
  | .error .help => return { exit := 0, stdout := usage }
  | .error .misuse => return { exit := 2, status := usage }
  | .ok i => perform files environment i

end Commands

/-- Runs a command line in a directory: the outcome, and the directory afterwards. -/
def runIn (d : Directory) (environment : Environment) (words : List String) :
    Outcome × Directory :=
  (run Directory.access environment words).run d

end EntitySchema
