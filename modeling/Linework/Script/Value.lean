import Linework.Script.Language
import Linework.Script.Scope

/-!
# Values of scripts

A value that cannot change is given by its content. Lists, maps and all else that can change, or that is
the same only as itself, is an object with an address in the script's world.
-/

namespace Linework.Script

/-- A value. -/
inductive Value where
  | null
  | bool (value : Bool)
  | int (value : Int)
  | float (value : Float)
  | text (value : String)
  | tuple (items : List Value)
  | range (start stop step : Int)
  | slice (start stop step : Value)
  | ellipsis
  | point (x y : Value)
  /-- A value of the notation that scripts can only pass around. -/
  | foreign (datum : Datum)
  /-- A built-in type or kind of exception. -/
  | type (name : String)
  /-- A built-in function. -/
  | primitive (name : String)
  /-- A built-in function that works on the value it was taken from. -/
  | method (receiver : Value) (name : String)
  /-- A function of a class with the instance it was taken from. -/
  | bound (receiver : Value) (function : Nat)
  /-- The module of mathematical functions. -/
  | mathModule
  | ref (address : Nat)

instance : Inhabited Value := ⟨.null⟩

/-- What is left of a sequence that is being gone through. -/
inductive Source where
  | items (rest : List Value)
  | listFrom (address index : Nat)
  /-- A map with the keys that it had at the beginning. -/
  | keysFrom (address : Nat) (keys : List Value) (index : Nat)
  | rangeFrom (next stop step : Int)

/-- What a function does when it is called. -/
inductive FunctionBody where
  | value (body : Expr)
  | statements (body : List Statement)

/-- A function: its parameters with the defaults found when it was defined, its body, and the scopes
around it. -/
structure Function where
  name : String
  parameters : List (String × ParameterKind)
  defaults : Assoc String Value
  names : ScopeNames
  body : FunctionBody
  scopes : List Nat

/-- Something with an identity of its own. -/
inductive Object where
  | list (items : Array Value)
  | dict (entries : List (Value × Value))
  | set (items : List Value)
  /-- An object with named fields, as handlers bind into scripts. -/
  | record (fields : Assoc String Value)
  | function (function : Function)
  /-- A class: its name, the class or type it extends, and its attributes. -/
  | classOf (name : String) (base : Option Value) (attributes : Assoc String Value)
  /-- An instance of a class or of a kind of exception, with the arguments it was made from. -/
  | instanceOf (cls : Value) (arguments : List Value) (attributes : Assoc String Value)

instance : Inhabited Object := ⟨.set []⟩

/-- What the names in a scope stand for. A name that belongs to the scope has no value before it is
bound. -/
structure ScopeValues where
  shared : List String := []
  locals : Assoc String (Option Value) := []
  /-- The scope is the body of a class. -/
  ofClass : Bool := false
  /-- The scope is a comprehension's. -/
  ofRounds : Bool := false

/-- Everything that a script can change. -/
structure World where
  /-- The names that all fragments share. -/
  shared : Assoc String Value := [("math", .mathModule)]
  objects : Array Object := #[]
  scopes : Array ScopeValues := #[]
  /-- What has been printed, the latest last. -/
  printed : Array String := #[]

instance : Inhabited World := ⟨{}⟩

/-- A run of a part of a script. It is given up as exhausted also where scripts are beyond what is modelled of
the language, so that no more is said of them than is known. -/
abbrev Run := Running World Value

/-- Why an operation fails: the kind of exception, and the arguments it is made from. -/
structure Failure where
  kind : String
  arguments : List Value

/-- What an operation comes to is beyond what is modelled. No exception is of this kind. -/
def Failure.unknown : Failure := ⟨"", []⟩

namespace World

/-- Add an object; its address. -/
def add (world : World) (object : Object) : Value × World :=
  (.ref world.objects.size, { world with objects := world.objects.push object })

/-- The object at an address. -/
def object? (world : World) (address : Nat) : Option Object :=
  world.objects[address]?

/-- Replace the object at an address. -/
def putObject (world : World) (address : Nat) (object : Object) : World :=
  { world with objects := world.objects.setIfInBounds address object }

end World

namespace Run

variable {α : Type}

/-- Add an object. -/
def add (object : Object) : Run Value :=
  modifyGet fun world => world.add object

/-- The object that a value refers to. -/
def object? (value : Value) : Run (Option Object) := do
  match value with
  | .ref address => return (← get).object? address
  | _ => return none

/-- Replace the object at an address. -/
def putObject (address : Nat) (object : Object) : Run Unit :=
  modify fun world => world.putObject address object

/-- Add a list. -/
def list (items : List Value) : Run Value :=
  add (.list items.toArray)

/-- Throw an exception for a failure. -/
def fail (failure : Failure) : Run α := do
  if failure.kind.isEmpty then throw .exhausted
  else
    let exception ← add (.instanceOf (.type failure.kind) failure.arguments [])
    throw (.thrown exception)

/-- Take the result of an operation that may fail. -/
def lift (result : Except Failure α) : Run α :=
  match result with
  | .ok value => pure value
  | .error failure => fail failure

end Run

namespace World

/-- The class of a value, as messages name it. -/
def typeName (world : World) : Value → String
  | .null => "NoneType"
  | .bool _ => "bool"
  | .int _ => "int"
  | .float _ => "float"
  | .text _ => "str"
  | .tuple _ => "tuple"
  | .range .. => "range"
  | .slice .. => "slice"
  | .ellipsis => "ellipsis"
  | .point .. => "Point"
  | .foreign datum => datum.typeName
  | .type _ => "type"
  | .primitive _ | .method .. => "builtin_function_or_method"
  | .bound .. => "method"
  | .mathModule => "module"
  | .ref address =>
    match world.object? address with
    | some (.list _) => "list"
    | some (.dict _) => "dict"
    | some (.set _) => "set"
    | some (.record _) => "types.SimpleNamespace"
    | some (.function _) => "function"
    | some (.classOf ..) => "type"
    | some (.instanceOf cls ..) => className cls
    | none => "object"
where
  /-- The name of a class. -/
  className : Value → String
    | .type name => name
    | .ref address =>
      match world.object? address with
      | some (.classOf name ..) => name
      | _ => "object"
    | _ => "object"

end World

/-- The class of a value, as messages name it. -/
def Run.typeName (value : Value) : Run String := do
  return (← get).typeName value

end Linework.Script
