import Linework.Script.Builtin

/-!
# Names and attributes

How names are looked up, bound and removed in the scopes around a place in a script, and how attributes
of values are.
-/

namespace Linework.Script

/-- A place in a running script. -/
structure Site where
  /-- The addresses of the scopes around it, the innermost first. -/
  scopes : List Nat := []
  /-- How many calls are under way. -/
  calls : Nat := 0
  /-- What the full names of functions defined here begin with. -/
  path : String := ""
  /-- The exception that is being handled. -/
  handling : Option Value := none

namespace Run

/-! ### Names -/

/-- The value of a name that all fragments share, or of a built-in one. -/
def lookupShared (name : String) : Run Value := do
  match (← get).shared.get? name with
  | some value => return value
  | none =>
    match builtin? name with
    | some value => return value
    | none => fail (if unknownNames.contains name then Failure.unknown else Failure.unknownName name)

/-- The value of a name in scopes, the innermost of which is the place's own when `isOwn`. -/
def lookupIn (name : String) (isOwn : Bool) : List Nat → Run Value
  | [] => lookupShared name
  | address :: outer => do
    match (← get).scopes[address]? with
    | none => lookupIn name false outer
    | some scope =>
      if scope.shared.contains name then lookupShared name
      else
        match scope.locals.get? name with
        | some (some value) => return value
        | some none =>
          if scope.ofClass then lookupShared name
          else if isOwn then fail (Failure.unboundLocal name)
          else fail (Failure.unboundFree name)
        | none => lookupIn name false outer

/-- The value of a name. -/
def lookup (site : Site) (name : String) : Run Value :=
  lookupIn name true site.scopes

/-- The scopes that what is nested in a place sees: those of classes are not among them. -/
def nestedScopes (world : World) (scopes : List Nat) : List Nat :=
  scopes.filter fun address => !(world.scopes[address]?).any (·.ofClass)

/-- Whether a place is in the body of a class. -/
def isClassBody (site : Site) : Run Bool := do
  let world ← get
  return site.scopes.head?.any fun address => (world.scopes[address]?).any (·.ofClass)

/-- Give a shared name a value. -/
def storeShared (name : String) (value : Value) : Run Unit :=
  modify fun world => { world with shared := world.shared.put name value }

/-- Set what a name of a scope stands for. -/
def setVariable (address : Nat) (name : String) (value : Option Value) : Run Unit :=
  modify fun world =>
    { world with
      scopes := world.scopes.modify address fun scope =>
        { scope with locals := scope.locals.put name value } }

/-- Give a name a value in the first of the scopes that it belongs to. -/
def storeIn (name : String) (value : Value) : List Nat → Run Unit
  | [] => storeShared name value
  | address :: outer => do
    match (← get).scopes[address]? with
    | none => storeIn name value outer
    | some scope =>
      if scope.shared.contains name then storeShared name value
      else if scope.locals.has name then setVariable address name (some value)
      else storeIn name value outer

/-- Give a name a value. -/
def store (site : Site) (name : String) (value : Value) : Run Unit :=
  storeIn name value site.scopes

/-- Give a name a value outside of the comprehensions around a place. -/
def storeOutside (site : Site) (name : String) (value : Value) : Run Unit := do
  let world ← get
  let isRounds (address : Nat) : Bool := (world.scopes[address]?).any (·.ofRounds)
  storeIn name value (site.scopes.dropWhile isRounds)

/-- Remove a shared name. -/
def deleteShared (name : String) : Run Unit := do
  if (← get).shared.has name then
    modify fun world => { world with shared := world.shared.erase name }
  else fail (Failure.unknownName name)

/-- Take its value from a name in scopes, the innermost of which is the place's own when `isOwn`. -/
def deleteIn (name : String) (isOwn : Bool) : List Nat → Run Unit
  | [] => deleteShared name
  | address :: outer => do
    match (← get).scopes[address]? with
    | none => deleteIn name false outer
    | some scope =>
      if scope.shared.contains name then deleteShared name
      else
        match scope.locals.get? name with
        | some (some _) => setVariable address name none
        | some none =>
          if scope.ofClass then fail (Failure.unknownName name)
          else if isOwn then fail (Failure.unboundLocal name)
          else fail (Failure.unboundFree name)
        | none => deleteIn name false outer

/-- Take its value from a name. -/
def delete (site : Site) (name : String) : Run Unit :=
  deleteIn name true site.scopes

/-- Open a scope. -/
def openScope (scope : ScopeValues) : Run Nat :=
  modifyGet fun world =>
    (world.scopes.size, { world with scopes := world.scopes.push scope })

/-- Whether a name bound at a place is shared with all fragments. -/
def isShared (site : Site) (name : String) : Run Bool := do
  match site.scopes with
  | [] => return true
  | address :: _ => return ((← get).scopes[address]?).any (·.shared.contains name)

/-! ### Attributes -/

/-- The attributes of built-in types that are beyond what is modelled. -/
def unknownAttributes : List (String × List String) := [
  ("str", ["capitalize", "casefold", "center", "encode", "expandtabs", "format", "format_map", "index",
    "isalnum", "isalpha", "isascii", "isdecimal", "isdigit", "isidentifier", "islower", "isnumeric",
    "isprintable", "isspace", "istitle", "isupper", "ljust", "maketrans", "partition", "removeprefix",
    "removesuffix", "rfind", "rindex", "rjust", "rpartition", "rsplit", "splitlines", "swapcase", "title",
    "translate"]),
  ("list", ["sort"]),
  ("dict", ["fromkeys", "items", "keys", "popitem", "values"]),
  ("int", ["as_integer_ratio", "bit_count", "bit_length", "conjugate", "denominator", "from_bytes", "imag",
    "numerator", "real", "to_bytes"]),
  ("bool", ["as_integer_ratio", "bit_count", "bit_length", "conjugate", "denominator", "from_bytes", "imag",
    "numerator", "real", "to_bytes"]),
  ("float", ["as_integer_ratio", "conjugate", "fromhex", "hex", "imag", "real"]),
  ("set", ["add", "clear", "copy", "difference", "difference_update", "discard", "intersection",
    "intersection_update", "isdisjoint", "issubset", "issuperset", "pop", "remove", "symmetric_difference",
    "symmetric_difference_update", "union", "update"]),
  ("range", ["count", "index", "start", "step", "stop"]),
  ("slice", ["indices", "start", "step", "stop"]),
  ("module", ["acosh", "asinh", "atanh", "cbrt", "comb", "dist", "erf", "erfc", "exp2", "expm1", "frexp",
    "fsum", "gamma", "isclose", "isqrt", "lcm", "ldexp", "lgamma", "log10", "log1p", "log2", "modf",
    "nextafter", "perm", "prod", "remainder", "ulp"])]

/-- The attributes of exceptions that are beyond what is modelled. -/
def unknownOfExceptions : List String := [
  "add_note", "characters_written", "code", "end", "end_lineno", "end_offset", "errno", "filename",
  "filename2", "lineno", "msg", "name", "obj", "offset", "path", "print_file_and_line", "reason", "start",
  "strerror", "text", "value", "with_traceback"]

/-- Whether a name is one that the language itself gives a meaning to. -/
def isSpecial (name : String) : Bool :=
  name.startsWith "__" && name.endsWith "__"

/-- An attribute is missing of a value of a type, as far as is modelled. -/
def missingAttribute (typeName name : String) : Failure :=
  if isSpecial name || ((unknownAttributes.lookup typeName).getD []).contains name then Failure.unknown
  else Failure.noAttribute typeName name

/-- An attribute of a class or of the classes that it extends, going up at most `steps` classes. -/
def classAttribute? : Nat → Value → String → Run (Option Value)
  | 0, _, _ => return none
  | steps + 1, cls, name => do
    match ← object? cls with
    | some (.classOf _ base attributes) =>
      match attributes.get? name, base with
      | some value, _ => return some value
      | none, some base => classAttribute? steps base name
      | none, none => return none
    | _ => return none

/-- The last part of a full name. -/
def shortName (name : String) : String :=
  (name.splitOn ".").getLast?.getD name

/-- An attribute found in the class of an instance: a function is bound to the instance. -/
def boundTo (receiver value : Value) : Run Value := do
  match value with
  | .ref address =>
    match ← object? value with
    | some (.function _) => return .bound receiver address
    | _ => return value
  | _ => return value

/-- The attribute of an instance. -/
def instanceAttribute (receiver cls : Value) (arguments : List Value)
    (attributes : Assoc String Value) (name : String) : Run Value := do
  match attributes.get? name with
  | some value => return value
  | none =>
    match ← classAttribute? World.maxClasses cls name with
    | some value => boundTo receiver value
    | none =>
      let isException := (← get).isExceptionClass cls
      if name == "args" && isException then return .tuple arguments
      else if name == "__class__" then return cls
      else if isException && unknownOfExceptions.contains name then fail Failure.unknown
      else fail (missingAttribute (← typeName receiver) name)

/-- The attribute of an object. -/
def objectAttribute (value : Value) (object : Object) (name : String) : Run Value := do
  let absent : Run Value := do fail (missingAttribute (← typeName value) name)
  match object with
  | .record fields =>
    match fields.get? name with
    | some field => return field
    | none => absent
  | .instanceOf cls arguments attributes => instanceAttribute value cls arguments attributes name
  | .classOf className _ _ =>
    match ← classAttribute? World.maxClasses value name with
    | some found => return found
    | none =>
      if name == "__name__" then return .text className
      else if isSpecial name || (← get).isExceptionClass value then fail Failure.unknown
      else fail (Failure.noClassAttribute className name)
  | .function function =>
    if name == "__name__" then return .text (shortName function.name) else absent
  | _ => if hasMethod (← typeName value) name then return .method value name else absent

/-- The attribute of a value. -/
def attributeOf (value : Value) (name : String) : Run Value := do
  match value with
  | .mathModule =>
    match Mathematics.attribute? name with
    | some found => return found
    | none =>
      if isSpecial name || ((unknownAttributes.lookup "module").getD []).contains name then
        fail Failure.unknown
      else fail (Failure.noModuleAttribute "math" name)
  | .type typeName => if name == "__name__" then return .text typeName else fail Failure.unknown
  | .point x y =>
    if name == "x" then return x
    else if name == "y" then return y
    else fail (missingAttribute "Point" name)
  | _ =>
    match ← object? value with
    | some object => objectAttribute value object name
    | none =>
      if hasMethod (← typeName value) name then return .method value name
      else fail (missingAttribute (← typeName value) name)

/-- Replace the attributes of an object, if it has attributes that can change. Those that the language gives a
meaning to, and those of functions, are beyond what is modelled. -/
def changeAttributes (value : Value) (name : String)
    (change : Assoc String Value → Run (Assoc String Value)) : Run Unit := do
  let refuse : Run Unit := do
    let typeName ← typeName value
    fail (if hasMethod typeName name then Failure.unknown else missingAttribute typeName name)
  match value with
  | .ref address =>
    if isSpecial name then fail Failure.unknown
    match ← object? value with
    | some (.function _) => fail Failure.unknown
    | some (.record fields) => putObject address (.record (← change fields))
    | some (.instanceOf cls arguments attributes) =>
      putObject address (.instanceOf cls arguments (← change attributes))
    | some (.classOf className base attributes) =>
      putObject address (.classOf className base (← change attributes))
    | _ => refuse
  | _ => refuse

/-- Give an attribute a value. -/
def putAttribute (value : Value) (name : String) (new : Value) : Run Unit := do
  match value with
  | .point .. => fail (Failure.frozenField "assign to" name)
  | .mathModule => fail Failure.unknown
  | .type typeName => fail (Failure.fixedType name typeName)
  | _ => changeAttributes value name fun attributes => return attributes.put name new

/-- Remove an attribute. -/
def deleteAttribute (value : Value) (name : String) : Run Unit := do
  match value with
  | .point .. => fail (Failure.frozenField "delete" name)
  | .mathModule => fail Failure.unknown
  | .type typeName => fail (Failure.fixedType name typeName)
  | _ =>
    changeAttributes value name fun attributes => do
      if attributes.has name then return attributes.erase name
      else
        match ← object? value with
        | some (.classOf className ..) => fail (Failure.noClassAttribute className name)
        | _ => fail (Failure.noAttribute (← typeName value) name)

/-! ### Arguments of functions -/

/-- The names of parameters of some kinds. -/
def parameterNames (parameters : List (String × ParameterKind)) (kinds : List ParameterKind) :
    List String :=
  (parameters.filter fun (_, kind) => kinds.contains kind).map (·.1)

/-- Bind arguments that are given by name, after those bound already: what is bound, and the arguments
that no parameter takes. -/
def bindNamed (function : Function) (byName positionalOnly : List String) (takesRest : Bool)
    (bound : Assoc String Value) (left : List (Value × Value)) :
    List (String × Value) → Run (Assoc String Value × List (Value × Value))
  | [] => return (bound, left)
  | (name, value) :: rest => do
    if byName.contains name then
      if bound.has name then fail (Failure.repeatedArgument function.name name)
      else bindNamed function byName positionalOnly takesRest (bound.put name value) left rest
    else if takesRest then
      bindNamed function byName positionalOnly takesRest bound (left ++ [(.text name, value)]) rest
    else
      let misplaced := ((name, value) :: rest).map (·.1) |>.filter positionalOnly.contains
      if misplaced.isEmpty then fail (Failure.unexpectedNamed function.name name)
      else fail (Failure.positionalByName function.name (", ".intercalate misplaced))

/-- Fill parameters that are left with their defaults; the names of those that have none. -/
def fillDefaults (function : Function) (names : List String) (bound : Assoc String Value) :
    Assoc String Value × List String :=
  names.foldl (fun (bound, missing) name =>
    if Assoc.has bound name then (bound, missing)
    else
      match function.defaults.get? name with
      | some value => (Assoc.put bound name value, missing)
      | none => (bound, missing ++ [name])) (bound, [])

/-- The values of the parameters of a function for the arguments of a call. -/
def bindArguments (function : Function) (arguments : Arguments) : Run (Assoc String Value) := do
  let parameters := function.parameters
  let positional := parameterNames parameters [.positional, .either]
  let named := parameterNames parameters [.named]
  let byName := parameterNames parameters [.either, .named]
  let restName := (parameterNames parameters [.rest]).head?
  let namedRestName := (parameterNames parameters [.namedRest]).head?
  let given := arguments.positional
  let bound := positional.zip given
  let (bound, left) ←
    bindNamed function byName (parameterNames parameters [.positional]) namedRestName.isSome bound []
      arguments.named
  if restName.isNone && given.length > positional.length then
    let optional := (positional.filter function.defaults.has).length
    let namedGiven := (named.filter bound.has).length
    fail (Failure.tooManyArguments function.name (positional.length - optional) positional.length
      given.length namedGiven)
  else
    let (bound, missing) := fillDefaults function positional bound
    if !missing.isEmpty then fail (Failure.missingArguments function.name "positional" missing)
    else
      let (bound, missing) := fillDefaults function named bound
      if !missing.isEmpty then fail (Failure.missingArguments function.name "keyword-only" missing)
      else
        let bound :=
          match restName with
          | some name => bound.put name (.tuple (given.drop positional.length))
          | none => bound
        match namedRestName with
        | some name => return bound.put name (← add (.dict left))
        | none => return bound

end Run

end Linework.Script
