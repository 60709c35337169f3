import Leasehold.Options.Flags

/-!
# What a command line asks for

There are two commands: one checks a configuration and the other simulates requests. The options of
the engine and the path of the configuration stand before the command, and the flags of the command
behind it.
-/
namespace Leasehold.CommandLine

/-- The forms in which a checked configuration is shown. -/
inductive CheckFormat where
  /-- The configuration as it was read. -/
  | wire
  /-- The topology in full. -/
  | internal
  /-- One line per shared network and subnet. -/
  | summary
deriving DecidableEq, Repr

/-- The form with a name. -/
def CheckFormat.ofText? : String → Option CheckFormat
  | "wire" => some wire
  | "internal" => some internal
  | "summary" => some summary
  | _ => none

/-- A command. -/
inductive Command where
  /-- Check a configuration, and show it in a form. -/
  | check (format : CheckFormat)
  /-- Simulate the requests at a path, and sweep when some seconds have passed. -/
  | simulate (requests : String) (reclaimAfter : Option Nat)
deriving DecidableEq, Repr

/-- What a command line asks for. -/
structure Invocation where
  /-- The path of the configuration. -/
  configPath : String
  /-- The options of the engine. -/
  options : Options
  /-- The command. -/
  command : Command
deriving DecidableEq, Repr

/-- What the flags before the command are for. -/
inductive Key where
  /-- The path of the configuration. -/
  | configPath
  /-- What is logged. -/
  | log
  /-- An option of the engine. -/
  | setting (setting : Setting)
deriving DecidableEq, Repr

/-- What the flags of a simulation are for. -/
inductive SimulateKey where
  /-- The path of the requests. -/
  | requests
  /-- The seconds that pass before a sweep. -/
  | reclaimAfter
deriving DecidableEq, Repr

/-- A path is not empty. -/
def isPath (text : String) : Bool := !text.isEmpty

/-- The flags before the command. -/
def flags : List (Flag Key) :=
  ⟨.configPath, "config-path", some 'p', isPath⟩ :: ⟨.log, "log", none, fun _ => true⟩ ::
    Setting.all.map fun setting =>
      ⟨.setting setting, setting.flagName, none, setting.flag.accepts⟩

/-- The flags of a check. -/
def checkFlags : List (Flag Unit) :=
  [⟨(), "format", some 'f', fun text => (CheckFormat.ofText? text).isSome⟩]

/-- The flags of a simulation. -/
def simulateFlags : List (Flag SimulateKey) :=
  [⟨.requests, "requests", some 'r', isPath⟩,
    ⟨.reclaimAfter, "reclaim-after", none, fun text => (Setting.readLong text).isSome⟩]

/-- The path of the configuration where none is given. -/
def defaultConfigPath : String := "/etc/alloc/config.yaml"

namespace Command

/-- The check that the words behind the command ask for. -/
def ofCheck (words : List String) : Except UsageError Command :=
  match Arguments.read checkFlags [] words with
  | .error error => .error error
  | .ok arguments =>
    .ok (.check (((arguments.value? ()).bind CheckFormat.ofText?).getD .summary))

/-- The simulation that the words behind the command ask for. -/
def ofSimulate (words : List String) : Except UsageError Command :=
  match Arguments.read simulateFlags [] words with
  | .error error => .error error
  | .ok arguments =>
    match arguments.value? .requests with
    | none => .error .incomplete
    | some requests =>
      .ok (.simulate requests ((arguments.value? .reclaimAfter).bind Setting.readLong))

/-- The command with a name, given the words behind it. -/
def ofWords (name : String) (words : List String) : Except UsageError Command :=
  match name with
  | "check" => ofCheck words
  | "simulate" => ofSimulate words
  | _ => .error .unknown

end Command

/-- What a command line asks for, given the environment. -/
def Invocation.ofWords (environment : String → Option String) (words : List String) :
    Except UsageError Invocation := do
  let arguments ← Arguments.read flags ["check", "simulate"] words
  match arguments.command with
  | none => .error .incomplete
  | some (name, rest) =>
    let command ← Command.ofWords name rest
    let options ← Options.ofTexts (fun setting => arguments.value? (.setting setting))
      (fun setting => environment setting.variableName)
    .ok {
      configPath :=
        ((arguments.value? .configPath).or (environment "CONFIG_PATH")).getD defaultConfigPath
      options
      command }

end Leasehold.CommandLine
