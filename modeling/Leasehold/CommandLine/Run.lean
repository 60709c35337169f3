import Leasehold.CommandLine.Invocation
import Leasehold.CommandLine.Summary
import Leasehold.Config.Encode
import Leasehold.Environment
import Leasehold.Simulation.Decode
import Leasehold.Simulation.Encode
import Leasehold.Topology.Build

/-!
# Carrying out a command line

What a command prints and how it ends follows from the command line, the environment, the files, the
time and the random starts alone.
-/
namespace Leasehold.CommandLine

/-- What a command can see. -/
structure Host where
  /-- The variables of the environment. -/
  environment : String → Option String
  /-- The files, by their paths. -/
  files : String → Option String
  /-- What time it is. -/
  now : Instant
  /-- The candidate picked at random, given the capacity of a pool. -/
  start : Nat → Nat

/-- Why a command did not succeed. -/
inductive Failure where
  /-- The command line is refused. -/
  | usage (error : UsageError)
  /-- A text cannot be decoded. -/
  | undecodable
  /-- Anything else, in words. -/
  | other (message : String)
deriving DecidableEq, Repr

namespace Failure

/-- The exit code of a failure. -/
def code : Failure → Nat
  | usage _ => 2
  | undecodable | other _ => 1

/-- What is written about a failure, up to the end of its first line. -/
def line : Failure → String
  | usage _ => "error: invalid arguments"
  | undecodable => "Error: cannot be decoded"
  | other message => "Error: " ++ String.ofList (message.toList.takeWhile (· ≠ '\n'))

end Failure

/-- What a command did. -/
structure Effect where
  /-- What it printed. -/
  output : String
  /-- Why it did not succeed, if it did not. -/
  failure : Option Failure
deriving DecidableEq, Repr

namespace Effect

/-- The exit code. -/
def code (effect : Effect) : Nat := (effect.failure.map Failure.code).getD 0

/-- The effect of printing lines, and of what follows. -/
def printing (lines : List String) (effect : Effect) : Effect :=
  { effect with output := String.join (lines.map (· ++ "\n")) ++ effect.output }

/-- Nothing is printed, and the command succeeds. -/
def success : Effect := ⟨"", none⟩

/-- Nothing is printed, and the command fails. -/
def failing (failure : Failure) : Effect := ⟨"", some failure⟩

/-- The effect of a command that printed lines or failed. -/
def ofLines : Except Failure (List String) → Effect
  | .ok lines => printing lines success
  | .error failure => failing failure

end Effect

/-- The part of a path behind the last dot, unless the name of the file begins with that dot. -/
def extension? (path : String) : Option String :=
  let name := (path.toList.reverse.takeWhile (· ≠ '/'))
  let ending := name.takeWhile (· ≠ '.')
  if name.length ≤ ending.length + 1 then none else some (String.ofList ending.reverse)

/-- The notation of the file at a path. -/
def formatOf (path : String) : TextFormat :=
  match extension? path with
  | some "json" => .json
  | some "yaml" | some "yml" => .yaml
  | _ => .either

/-- Read the file at a path. -/
def load {α : Type} (host : Host) (parse? : TextFormat → String → Option α) (path : String) :
    Except Failure α :=
  match host.files path with
  | none => .error (.other ("failed to read " ++ path))
  | some text =>
    match parse? (formatOf path) text with
    | none => .error .undecodable
    | some value => .ok value

/-- What a check prints. -/
def check (host : Host) (path : String) (format : CheckFormat) : Except Failure (List String) := do
  let config ← load host Config.parse? path
  let topology ← (Topology.build config 1).mapError fun _ => .other "config is invalid"
  let shown := match format with
    | .wire => [config.json.pretty]
    | .internal | .summary => topology.summary
  .ok (shown ++ ["config is valid"])

/-- What a simulation prints. -/
def simulate (host : Host) (options : Options) (configPath requestsPath : String)
    (reclaimAfter : Option Nat) : Except Failure (List String) := do
  let config ← load host Config.parse? configPath
  let topology ← (Topology.build config 1).mapError fun error => .other error.message
  let entries ← load host Simulation.parse? requestsPath
  let around : Engine.Surroundings :=
    { now := host.now, review := fun _ _ _ => true, start := host.start, topology }
  let report ←
    (Simulation.run options around entries reclaimAfter).mapError fun fault => .other fault.message
  .ok [report.json.pretty]

/-- What a command prints behind its first line. -/
def execute (host : Host) (invocation : Invocation) : Except Failure (List String) :=
  match invocation.command with
  | .check format => check host invocation.configPath format
  | .simulate requests reclaimAfter =>
    simulate host invocation.options invocation.configPath requests reclaimAfter

/-- Carry out a command line. -/
def run (host : Host) (words : List String) : Effect :=
  match Invocation.ofWords host.environment words with
  | .error error => .failing (.usage error)
  | .ok invocation =>
    match LogFormat.ofVariable (host.environment "LOG_FORMAT") with
    | .error error => .failing (.other error.message)
    | .ok _ =>
      (Effect.ofLines (execute host invocation)).printing
        ["found config at path = " ++ invocation.configPath]

end Leasehold.CommandLine
