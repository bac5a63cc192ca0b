import EntitySchema.CommandLine.Run

/-!
# Main — the program

Runs the command line on the files of the system.  Of what the environment asks of the log a level is
understood, and no wish about single parts of the program; a line of the log has no time.
-/

namespace EntitySchema

/-- The system's refusal as an error of this program. -/
def fileErrorOf : IO.Error → FileError
  | .noFileOrDirectory .. => .notFound
  | .inappropriateType _ 20 _ => .notAFolder
  | .inappropriateType _ 21 _ => .isAFolder
  | .invalidArgument _ 36 _ => .nameTooLong
  | e => .other (toString e)

/-- Access to the files of the system. -/
def systemFiles : Files IO where
  read path := do
    try return decodeFile (← IO.FS.readBinFile path)
    catch e => return .error (fileErrorOf e)
  present path := do
    try
      let _ ← IO.FS.readBinFile path
      return true
    catch e =>
      match fileErrorOf e with
      | .notFound => return false
      | .notAFolder => return false
      | .nameTooLong => return false
      | _ => return true
  write path text := do
    try
      IO.FS.writeFile path text
      return .ok ()
    catch e => return .error (fileErrorOf e)

/-- The events of a level and above, by its name in any case.  No event is an error. -/
def filterOfWord (word : String) : Option (LogEvent → Bool) :=
  let name := word.toUpper
  if name = "OFF" || name = "ERROR" then some fun _ => false
  else
    let level := [LogLevel.trace, .debug, .info, .warn].find? fun l => l.name = name
    level.map fun l e => l.rank ≤ e.level.rank

end EntitySchema

open EntitySchema in
/-- Runs the program and hands its outcome to the system. -/
def main (args : List String) : IO UInt32 := do
  let config ← IO.getEnv "MODELGQL_CONFIG"
  let filter := (← IO.getEnv "RUST_LOG").bind filterOfWord
  let outcome ← EntitySchema.run systemFiles { config, filter } args
  (← IO.getStdout).putStr outcome.stdout
  for event in outcome.log do
    (← IO.getStderr).putStrLn event.line
  (← IO.getStderr).putStr outcome.status
  return outcome.exit.toUInt32
