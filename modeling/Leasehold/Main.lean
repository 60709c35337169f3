import Std.Time.DateTime.Timestamp
import Leasehold.CommandLine.Run

/-!
# The command line tool

The tool gathers what a command can see (the environment, the files it names, the time and a random
number), carries the command out and prints what comes of it.
-/

open Leasehold Leasehold.CommandLine

/-- The variables of the environment that commands can see. -/
def visibleVariables : List String :=
  "CONFIG_PATH" :: "LOG_FORMAT" :: Setting.all.map Setting.variableName

/-- The paths that a command line names. -/
def namedPaths (environment : String → Option String) (words : List String) : List String :=
  match Invocation.ofWords environment words with
  | .error _ => []
  | .ok invocation =>
    match invocation.command with
    | .check _ => [invocation.configPath]
    | .simulate requests _ => [invocation.configPath, requests]

/-- Texts under names, where there are any. -/
def gather (names : List String) (find : String → IO (Option String)) :
    IO (List (String × String)) := do
  let found ← names.mapM fun name => do return (← find name).map (name, ·)
  return found.filterMap id

/-- The text of a file, if it can be read. -/
def readText (path : String) : IO (Option String) := do
  try return some (← IO.FS.readFile path) catch _ => return none

/-- Carry out a command line. -/
def main (words : List String) : IO UInt32 := do
  let environment ← gather visibleVariables fun name => IO.getEnv name
  let texts ← gather (namedPaths (environment.lookup ·) words) readText
  let seed ← IO.rand 0 (Nat.pow 2 62)
  let now ← Std.Time.Timestamp.now
  let effect := run {
    environment := (environment.lookup ·)
    files := (texts.lookup ·)
    now := now.toMillisecondsSinceUnixEpoch.val.toNat
    start := fun capacity => seed % capacity } words
  IO.print effect.output
  if let some failure := effect.failure then IO.eprintln failure.line
  return UInt32.ofNat effect.code
