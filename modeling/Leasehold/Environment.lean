import Leasehold.Text.Decimal
import Leasehold.Text.Quoted

/-!
# Variables of the environment

A variable of the environment is read as a number, a truth value or a text. Where it is not set, a
default is read in its place, in the same way.
-/
namespace Leasehold

/-- What a variable is read as. -/
inductive VariableKind where
  /-- A number of 32 bits. -/
  | word
  /-- A number of 64 bits. -/
  | long
  /-- A truth value. -/
  | truth
  /-- A text. -/
  | text
deriving DecidableEq, Repr

/-- What was read. -/
inductive VariableValue where
  /-- A number. -/
  | number (value : Nat)
  /-- A truth value. -/
  | truth (value : Bool)
  /-- A text. -/
  | text (value : String)
deriving DecidableEq, Repr

/-- Why a text cannot be read. -/
inductive VariableFault where
  /-- It is no number of the wanted size. -/
  | number (fault : Text.Decimal.Fault)
  /-- It is no truth value. -/
  | truth
deriving DecidableEq, Repr

/-- The wording of each fault. -/
def VariableFault.message : VariableFault → String
  | .number fault => fault.message
  | .truth => "provided string was not \x60true\x60 or \x60false\x60"

/-- A variable that cannot be read. -/
structure VariableError where
  /-- The name of the variable. -/
  name : String
  /-- What is wrong with its text. -/
  fault : VariableFault
deriving DecidableEq, Repr

/-- The wording of the error. -/
def VariableError.message (error : VariableError) : String :=
  "error parsing env var " ++ error.name ++ ": " ++ error.fault.message

namespace VariableKind

/-- Read a number that is at most `largest`. -/
def readNumber (largest : Nat) (text : String) : Except VariableFault VariableValue :=
  match Text.Decimal.read largest text.toList with
  | .ok value => .ok (.number value)
  | .error fault => .error (.number fault)

/-- Read a text as what is wanted. -/
def read (kind : VariableKind) (text : String) : Except VariableFault VariableValue :=
  match kind with
  | .word => readNumber largestWord text
  | .long => readNumber largestLong text
  | .truth =>
    if text = "true" then .ok (.truth true)
    else if text = "false" then .ok (.truth false)
    else .error .truth
  | .text => .ok (.text text)

/-- Read a variable, or the default where it is not set. -/
def readVariable (kind : VariableKind) (name : String) (value : Option String)
    (fallback : String) : Except VariableError VariableValue :=
  match kind.read (value.getD fallback) with
  | .ok found => .ok found
  | .error fault => .error ⟨name, fault⟩

/-- Read a variable, if it is set and can be read. -/
def readVariable? (kind : VariableKind) (value : Option String) : Option VariableValue :=
  value.bind fun text => (kind.read text).toOption

end VariableKind

/-- How the log is written. -/
inductive LogFormat where
  /-- One JSON object per line. -/
  | json
  /-- Several lines per event. -/
  | pretty
  /-- One line per event. -/
  | standard
deriving DecidableEq, Repr

/-- A name that is no format of the log. -/
structure UnknownLogFormat where
  /-- The name. -/
  name : String
deriving DecidableEq, Repr

/-- The wording of the error. -/
def UnknownLogFormat.message (error : UnknownLogFormat) : String :=
  "unknown LOG_FORMAT " ++ Text.quoted error.name

namespace LogFormat

/-- How summaries name each format. -/
def label : LogFormat → String
  | json => "Json"
  | pretty => "Pretty"
  | standard => "Standard"

/-- The format with a name. -/
def read (name : String) : Except UnknownLogFormat LogFormat :=
  match name with
  | "json" => .ok json
  | "pretty" => .ok pretty
  | "standard" => .ok standard
  | other => .error ⟨other⟩

/-- The format that the value of a variable asks for. -/
def ofVariable (value : Option String) : Except UnknownLogFormat LogFormat :=
  read (value.getD "standard")

end LogFormat

end Leasehold
