import Leasehold.ClassSet
import Leasehold.Config
import Leasehold.DependencyOrder
import Leasehold.Expr.Eval
import Leasehold.Expr.Parser

/-!
# Client classes and their resolution

A configuration defines client classes, each with an optional test. Tests may ask about other
classes, so a class is evaluated only after every class its test asks about. Every client belongs to
one built-in class, and to one of two others once it is known whether it has a reservation; the
classes that a reservation assigns are there from the start. A test that fails to evaluate, or whose
value is no truth value, does not assign its class.
-/
namespace Leasehold

/-- The class of every client. -/
def allClass : String := "ALL"

/-- The class of clients with a reservation. -/
def knownClass : String := "KNOWN"

/-- The class of clients without a reservation. -/
def unknownClass : String := "UNKNOWN"

/-- The name is that of a class that is not defined by configuration. -/
def isBuiltinClass (name : String) : Bool :=
  name == allClass || name == knownClass || name == unknownClass

/-- A client class. -/
structure ClientClass where
  /-- Its name. -/
  name : String
  /-- The test for membership. -/
  test : Option Expr
deriving DecidableEq, Repr

namespace ClientClass

/-- The defined classes that have to be evaluated before this one. -/
def dependencies (definition : ClientClass) : List String :=
  match definition.test with
  | none => []
  | some test => test.dependencies.filter (!isBuiltinClass ·)

end ClientClass

/-- Why definitions of client classes are refused. -/
inductive ClassError where
  /-- A definition takes the name of a built-in class. -/
  | builtin (name : String)
  /-- Two definitions have one name. -/
  | duplicate (name : String)
  /-- A test is not an expression. -/
  | badTest (name : String) (error : ParseError)
  /-- A test asks about a class that is not defined. -/
  | undefined (name missing : String)
  /-- The classes cannot be put in an order of evaluation. -/
  | order (error : OrderError String)
deriving DecidableEq, Repr

/-- The wording of each error. -/
def ClassError.message : ClassError → String
  | .builtin name => "client class " ++ Text.quoted name ++ " redefines a built-in class"
  | .duplicate name => "client class " ++ Text.quoted name ++ " defined more than once"
  | .badTest name _ => "failed to parse client class " ++ name
  | .undefined name missing =>
    "client class " ++ Text.quoted name ++ " references undefined class " ++ Text.quoted missing
  | .order error => error.message

/-- The client classes of a configuration. -/
structure ClassTable where
  /-- The classes in the order of their definition. -/
  classes : List ClientClass
  /-- The names of the classes in an order of evaluation. -/
  order : List String
deriving DecidableEq, Repr

namespace ClassTable

/-- The table without classes. -/
def empty : ClassTable := ⟨[], []⟩

/-- The class with a name. -/
def find? (table : ClassTable) (name : String) : Option ClientClass :=
  table.classes.find? (·.name == name)

/-- Read one definition after the ones read so far. -/
def readOne (sofar : List ClientClass) (entry : Config.ClientClass) :
    Except ClassError ClientClass :=
  if isBuiltinClass entry.name then .error (.builtin entry.name)
  else if sofar.any (·.name == entry.name) then .error (.duplicate entry.name)
  else
    match entry.test.mapM Expr.parse with
    | .error error => .error (.badTest entry.name error)
    | .ok test => .ok ⟨entry.name, test⟩

/-- Read definitions one after another. -/
def readAll (sofar : List ClientClass) :
    List Config.ClientClass → Except ClassError (List ClientClass)
  | [] => .ok sofar
  | entry :: rest =>
    match readOne sofar entry with
    | .error error => .error error
    | .ok definition => readAll (sofar ++ [definition]) rest

/-- The first class whose test asks about an undefined one, and the undefined one. -/
def undefined? (classes : List ClientClass) : Option (String × String) :=
  classes.findSome? fun definition =>
    (definition.dependencies.find? fun name => !classes.any (·.name == name)).map
      (definition.name, ·)

/-- The dependencies between classes. -/
def dependencyMap (classes : List ClientClass) : DependencyMap String :=
  classes.foldl (fun map definition => map.add definition.name definition.dependencies) .empty

/-- The table of the client classes that a configuration defines. -/
def ofConfig (entries : List Config.ClientClass) : Except ClassError ClassTable :=
  match readAll [] entries with
  | .error error => .error error
  | .ok classes =>
    match undefined? classes with
    | some (name, missing) => .error (.undefined name missing)
    | none =>
      match (dependencyMap classes).sort with
      | .error error => .error (.order error)
      | .ok order => .ok ⟨classes, order⟩

end ClassTable

/-- What is known about a client when its classes are resolved. -/
structure ClassFacts where
  /-- The identifiers the client presents. -/
  identifiers : ClientIdentifiers
  /-- The receiving interface. -/
  iface : Option String
  /-- Whether the client has a reservation, if that has been looked up. -/
  known : Option Bool
  /-- The classes that the reservation assigns. -/
  reserved : List String
deriving DecidableEq, Repr

namespace ClassFacts

/-- The facts before a reservation has been looked up. -/
def unreserved (identifiers : ClientIdentifiers) (iface : Option String) : ClassFacts :=
  ⟨identifiers, iface, none, []⟩

/-- The classes that are there before any test is evaluated. -/
def initial (facts : ClassFacts) : ClassSet :=
  let builtin := match facts.known with
    | some true => [allClass, knownClass]
    | some false => [allClass, unknownClass]
    | none => [allClass]
  ClassSet.ofList (builtin ++ facts.reserved)

/-- What a test can see of a client that belongs to the given classes. -/
def seen (facts : ClassFacts) (members : ClassSet) : ClientFacts where
  mac := facts.identifiers.hwAddress
  clientId := facts.identifiers.clientId
  duid := facts.identifiers.duid
  circuitId := facts.identifiers.circuitId
  iface := facts.iface
  isMember := members.contains

end ClassFacts

namespace ClassTable

/-- Evaluate the test of one class, given the classes found so far. -/
def extend (table : ClassTable) (facts : ClassFacts) (members : ClassSet) (name : String) :
    ClassSet :=
  match (table.find? name).bind (·.test) with
  | none => members
  | some test => if test.holds (facts.seen members) then members.insert name else members

/-- The classes that a client belongs to. -/
def resolve (table : ClassTable) (facts : ClassFacts) : ClassSet :=
  table.order.foldl (table.extend facts) facts.initial

end ClassTable

end Leasehold
