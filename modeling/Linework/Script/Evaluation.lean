import Linework.Script.Environment
import Linework.Script.Format

/-!
# Running scripts

The value of an expression, and the effect of a statement, at a place in the script's world. The number
that each function takes bounds how many steps lie inside of each other; a run that would need more ends
as exhausted, which no script can handle.
-/

namespace Linework.Script

open Run

/-- How a block is left. -/
inductive Flow where
  | done
  | left (value : Value)
  | leftLoop
  | nextRound

/-- How many calls of functions may be under way for it to be certain that the stack has room for them. -/
def maxCertainCalls : Nat := 300

/-- How many calls of functions may be under way at all. -/
def maxCalls : Nat := 985

/-- A bound for how deep a body's trees nest, for the study of its names. -/
def maxNesting : Nat := 100000

/-- The parts of a chain of assignments to a sequence: the targets before the one that takes all that are
left, and those after it. -/
def splitStarred : List Expr → List Expr × Option (Expr × List Expr)
  | [] => ([], none)
  | .starred target :: rest => ([], some (target, rest))
  | target :: rest =>
    let (before, starred) := splitStarred rest
    (target :: before, starred)

/-- The name of a definition at a place. -/
def definedName (site : Site) (name : String) : Run String := do
  if ← isShared site name then return name else return site.path ++ name

/-- Whether a value is an exception of a kind, or of one of a tuple of kinds. -/
def isOfKind (exception kind : Value) : Run Bool := do
  let world ← get
  let refuse : Run Bool :=
    fail (Failure.typeError "catching classes that do not inherit from BaseException is not allowed")
  let own ← Builtin.classOf exception
  let belongs (kind : Value) : Bool := Builtin.isKindOf world World.maxClasses own kind
  match kind with
  | .tuple kinds =>
    if kinds.all world.isExceptionClass then return kinds.any belongs else refuse
  | _ => if isClass world kind && world.isExceptionClass kind then return belongs kind else refuse
where
  /-- Whether a value is a class. -/
  isClass (world : World) : Value → Bool
    | .type _ => true
    | .ref address =>
      match world.object? address with
      | some (.classOf ..) => true
      | _ => false
    | _ => false

/-- Whether an exception says that the stack is full. -/
def isOverflow (exception : Value) : Run Bool := do
  let kind := (← get).rootKind World.maxClasses (← Builtin.classOf exception)
  return kindBelongsTo kindSteps kind "RecursionError"

/-- Run something at a guard for exceptions; its result or the exception. What happens at a guard on a full
stack depends on how much of it is left, and is not followed. -/
def attemptGuarded {α : Type} (action : Run α) : Run (Except Value α) := do
  match ← Running.attempt action with
  | .ok value => return .ok value
  | .error exception => if ← isOverflow exception then throw .exhausted else return .error exception

/-- Run something where it is not certain that the stack has room for it. All that is certain is that it does
not when it fills the stack. -/
def runDeep {α : Type} (action : Run α) : Run α := do
  match ← Running.attempt action with
  | .ok _ => throw .exhausted
  | .error exception =>
    if ← isOverflow exception then throw (.thrown exception) else throw .exhausted

/-- Whether a value is an exception. -/
def isException (value : Value) : Run Bool := do
  match ← object? value with
  | some (.instanceOf cls ..) => return (← get).isExceptionClass cls
  | _ => return false

/-- Whether a value is a class of exceptions. -/
def isExceptionKind (value : Value) : Run Bool := do
  let world ← get
  return isOfKind.isClass world value && world.isExceptionClass value

/-- Extend the list at an address. -/
def extendList (address : Nat) (items : Array Value) (value : Value) : Run Unit := do
  let more ← itemsOf value
  putObject address (.list (items ++ more.toArray))

/-- Combine a target's value with another: lists are changed in place. -/
def augmented (op : BinaryOp) (left right : Value) : Run Value := do
  let world ← get
  match op, left with
  | .add, .ref address =>
    match world.object? address with
    | some (.list items) =>
      extendList address items right
      return left
    | _ => operator true op left right
  | .mul, .ref address =>
    match world.object? address, right.index? with
    | some (.list items), some count =>
      putObject address (.list (← lift (repeatItems items.toList count)).toArray)
      return left
    | _, _ => operator true op left right
  | .mod, .text text => return .text (← lift (world.fill text right))
  | _, _ => operator true op left right

/-- Combine two values. -/
def combined (op : BinaryOp) (left right : Value) : Run Value := do
  match op, left with
  | .mod, .text text => return .text (← lift ((← get).fill text right))
  | _, _ => operator false op left right

/-- Whether two values are one and the same, where this is known. -/
def isOne (left right : Value) : Run Bool := do
  match left.isOne? right with
  | some isOne => return isOne
  | none => fail Failure.unknown

/-- Compare two values. -/
def compared (comparison : Comparison) (left right : Value) : Run Bool := do
  let world ← get
  match comparison with
  | .eq => lift (world.equal left right)
  | .ne => return !(← lift (world.equal left right))
  | .isSame => isOne left right
  | .isNotSame => return !(← isOne left right)
  | .isIn => isIn left right
  | .isNotIn => return !(← isIn left right)
  | other => lift (world.ordered other left right)

/-- Modules that are there to import and are beyond what is modelled. -/
def unknownModules : List String := [
  "abc", "aifc", "antigravity", "argparse", "array", "ast", "asynchat", "asyncio", "asyncore", "atexit",
  "audioop", "base64", "bdb", "binascii", "bisect", "builtins", "bz2", "calendar", "cgi", "cgitb", "cgraph",
  "chunk", "cmath", "cmd", "code", "codecs", "codeop", "collections", "colorsys", "compileall", "concurrent",
  "configparser", "contextlib", "contextvars", "copy", "copyreg", "cProfile", "crypt", "csv", "ctypes",
  "curses", "dataclasses", "datetime", "dbm", "decimal", "difflib", "dis", "distutils", "doctest", "email",
  "encodings", "ensurepip", "enum", "errno", "faulthandler", "fcntl", "filecmp", "fileinput", "fnmatch",
  "fractions", "ftplib", "functools", "gc", "genericpath", "getopt", "getpass", "gettext", "glob", "graphlib",
  "grp", "gzip", "hashlib", "heapq", "hmac", "html", "http", "idlelib", "imaplib", "imghdr", "imp",
  "importlib", "inspect", "io", "ipaddress", "itertools", "json", "keyword", "lib2to3", "linecache", "locale",
  "logging", "lzma", "mailbox", "mailcap", "marshal", "mimetypes", "mmap", "modulefinder", "msilib", "msvcrt",
  "multiprocessing", "netrc", "nis", "nntplib", "nt", "ntpath", "nturl2path", "numbers", "opcode", "operator",
  "optparse", "os", "ossaudiodev", "pathlib", "pdb", "pickle", "pickletools", "pip", "pipes", "pkg_resources",
  "pkgutil", "platform", "plistlib", "poplib", "posix", "posixpath", "pprint", "profile", "pstats", "pty",
  "pwd", "py_compile", "pyclbr", "pydoc", "pydoc_data", "pyexpat", "queue", "quopri", "random", "re",
  "readline", "reprlib", "resource", "rlcompleter", "runpy", "sched", "secrets", "select", "selectors",
  "setuptools", "shelve", "shlex", "shutil", "signal", "site", "smtpd", "smtplib", "sndhdr", "socket",
  "socketserver", "spwd", "sqlite3", "sre_compile", "sre_constants", "sre_parse", "ssl", "stat", "statistics",
  "string", "stringprep", "struct", "subprocess", "sunau", "symtable", "sys", "sysconfig", "syslog",
  "tabnanny", "tarfile", "telnetlib", "tempfile", "termios", "textwrap", "this", "threading", "time",
  "timeit", "tkinter", "token", "tokenize", "toml", "tomllib", "trace", "traceback", "tracemalloc", "tty",
  "turtle", "turtledemo", "types", "typing", "unicodedata", "unittest", "urllib", "uu", "uuid", "venv",
  "warnings", "wave", "weakref", "webbrowser", "winreg", "winsound", "wsgiref", "xdrlib", "xml", "xmlrpc",
  "xmltodict", "yaml", "zipapp", "zipfile", "zipimport", "zlib", "zoneinfo"]

/-- Import a module of which nothing is modelled, by its first name. -/
def importOther (name : String) : Run α :=
  if name.startsWith "_" || unknownModules.contains name then fail Failure.unknown
  else fail (Failure.noModule name)

/-- Import a module: the value of its first name. -/
def importModule (path : List String) : Run Value := do
  match path with
  | ["math"] => return .mathModule
  | "math" :: _ =>
    fail (Failure.ofMessage "ModuleNotFoundError"
      ("No module named '" ++ ".".intercalate path ++ "'; 'math' is not a package"))
  | _ => importOther (path.headD "")

/-- Import a name of a module. -/
def importName (module : String) (name : String) : Run Value := do
  if module == "math" then
    match Mathematics.attribute? name with
    | some value => return value
    | none => fail (Failure.noImport name module)
  else importModule (module.splitOn ".")

/-- Whether classes that extend a value are modelled. -/
def isModelledBase (base : Value) : Run Bool := do
  match base with
  | .type name => return name == "object" || isKnownKind name
  | _ =>
    match ← object? base with
    | some (.classOf ..) => return true
    | _ => return false

/-- The object of a class whose body has been run in a scope. Of the methods that the language calls by
itself, only the one that makes an instance is modelled. -/
def classFrom (name : String) (bases : Arguments) (scope : Nat) : Run Value := do
  let locals := ((← get).scopes[scope]?.map (·.locals)).getD []
  let attributes := locals.filterMap fun (name, value?) => value?.map fun value => (name, value)
  let base := bases.positional.head?
  let modelled ← (base.map isModelledBase).getD (pure true)
  if !modelled || bases.positional.length > 1 || !bases.named.isEmpty
      || attributes.any fun (name, _) => isSpecial name && name != "__init__" then
    fail Failure.unknown
  else add (.classOf name base attributes)

/-- An exception to throw: an instance, or a class that one is made of. -/
def thrownFrom (value : Value) (make : Run Value) : Run Value := do
  if ← isException value then return value
  else if ← isExceptionKind value then make
  else fail (Failure.typeError "exceptions must derive from BaseException")

/-- Add a function to the world. Functions do not see the scope of a class around them. -/
def makeFunction (site : Site) (name : String) (parameters : List Parameter)
    (defaults : Assoc String Value) (names : ScopeNames) (body : FunctionBody) : Run Value := do
  let world ← get
  add (.function {
    name := name
    parameters := parameters.map fun (.mk name kind _ _) => (name, kind)
    defaults := defaults
    names := names
    body := body
    scopes := nestedScopes world site.scopes })

mutual

/-- The value of an expression. -/
def eval : Nat → Site → Expr → Run Value
  | 0, _, _ => throw .exhausted
  | fuel + 1, site, expr =>
    match expr with
    | .null => return .null
    | .bool value => return .bool value
    | .int value => return .int value
    | .float value => return .float value
    | .text value => return .text value
    | .ellipsis => return .ellipsis
    | .name name => lookup site name
    | .tuple items => return .tuple (← evalItems fuel site Failure.notSpreadable items)
    | .list items => do list (← evalItems fuel site Failure.notSpreadable items)
    | .set items => evalSet fuel site items
    | .dict items => do add (.dict (← evalEntries fuel site [] [] items))
    | .starred value => eval fuel site value
    | .unary op value => do signed op (← eval fuel site value)
    | .binary op left right => do
      let left ← eval fuel site left
      combined op left (← eval fuel site right)
    | .both left right => do
      let value ← eval fuel site left
      if ← isTrue value then eval fuel site right else return value
    | .either left right => do
      let value ← eval fuel site left
      if ← isTrue value then return value else eval fuel site right
    | .compare first links => do evalLinks fuel site (← eval fuel site first) links
    | .choice condition value otherwise => do
      if ← isTrue (← eval fuel site condition) then eval fuel site value
      else eval fuel site otherwise
    | .lambda parameters body => evalLambda fuel site parameters body
    | .call callee arguments => do
      let callee ← eval fuel site callee
      call fuel site callee (← evalArguments fuel site callee ⟨[], []⟩ arguments)
    | .attribute value name => do attributeOf (← eval fuel site value) name
    | .item value index => do
      let value ← eval fuel site value
      Run.item value (← eval fuel site index)
    | .slice start stop step => do
      let start ← evalOptional fuel site start
      let stop ← evalOptional fuel site stop
      return .slice start stop (← evalOptional fuel site step)
    | .comprehension collection element value clauses =>
      evalComprehension fuel site collection element value clauses
    | .layout parts => return .text (← evalParts fuel site parts)
    | .bind name value => do
      let value ← eval fuel site value
      storeOutside site name value
      return value

/-- The value of an expression that may be left out. -/
def evalOptional : Nat → Site → Option Expr → Run Value
  | 0, _, _ => throw .exhausted
  | _ + 1, _, none => return .null
  | fuel + 1, site, some expr => eval fuel site expr

/-- The values of the items of a display, where starred ones stand for all of their items. Displays refuse
starred values without items in their own words. -/
def evalItems : Nat → Site → (String → Failure) → List Expr → Run (List Value)
  | 0, _, _, _ => throw .exhausted
  | _ + 1, _, _, [] => return []
  | fuel + 1, site, refusal, expr :: rest => do
    match expr with
    | .starred inner =>
      let value ← eval fuel site inner
      let items ←
        match ← sourceOf? value with
        | some source => Run.rest source
        | none => fail (refusal (← typeName value))
      return items ++ (← evalItems fuel site refusal rest)
    | _ =>
      let value ← eval fuel site expr
      return value :: (← evalItems fuel site refusal rest)

/-- The value of a set display. -/
def evalSet : Nat → Site → List Expr → Run Value
  | 0, _, _ => throw .exhausted
  | fuel + 1, site, exprs => do
    let items ← evalItems fuel site Failure.notIterable exprs
    let world ← get
    items.forM fun item => lift (world.requireKey item)
    add (.set (items.foldl world.putItem []))

/-- The entries of a map display, after those of a map already made and those found since, which are put into
it together. -/
def evalEntries : Nat → Site → List (Value × Value) → List (Value × Value) → List DictItem →
    Run (List (Value × Value))
  | 0, _, _, _, _ => throw .exhausted
  | _ + 1, _, made, found, [] => putEntries made found
  | fuel + 1, site, made, found, .entry key value :: rest => do
    let key ← eval fuel site key
    let value ← eval fuel site value
    evalEntries fuel site made (found ++ [(key, value)]) rest
  | fuel + 1, site, made, found, .unpacked map :: rest => do
    let made ← putEntries made found
    let map ← eval fuel site map
    match ← object? map with
    | some (.dict entries) => evalEntries fuel site (← putEntries made entries) [] rest
    | _ => fail (Failure.notMap (← typeName map))

/-- The value of a chain of comparisons, given its first value. -/
def evalLinks : Nat → Site → Value → List Link → Run Value
  | 0, _, _, _ => throw .exhausted
  | _ + 1, _, _, [] => return .bool true
  | fuel + 1, site, left, .mk comparison right :: rest => do
    let right ← eval fuel site right
    if ← compared comparison left right then evalLinks fuel site right rest else return .bool false

/-- The values of the parts of a text, joined. -/
def evalParts : Nat → Site → List Part → Run String
  | 0, _, _ => throw .exhausted
  | _ + 1, _, [] => return ""
  | fuel + 1, site, .text text :: rest => do return text ++ (← evalParts fuel site rest)
  | fuel + 1, site, .field value conversion spec :: rest => do
    let value ← eval fuel site value
    let value ←
      match conversion with
      | .none => pure value
      | .plain => do pure (Value.text (← lift ((← get).plain value)))
      | .source => do pure (Value.text (← lift ((← get).source value)))
      | .asciiSource => do pure (Value.text (Linework.Text.asciiOnly (← lift ((← get).source value))))
    let spec ← evalParts fuel site spec
    let text ← lift ((← get).layOut value spec.toList)
    return text ++ (← evalParts fuel site rest)

/-- The arguments of a call, after those already found. -/
def evalArguments : Nat → Site → Value → Arguments → List Argument → Run Arguments
  | 0, _, _, _, _ => throw .exhausted
  | _ + 1, _, _, found, [] => return found
  | fuel + 1, site, callee, found, argument :: rest => do
    let found ←
      match argument with
      | .value expr => do
        pure { found with positional := found.positional ++ [← eval fuel site expr] }
      | .named name expr => do pure { found with named := found.named ++ [(name, ← eval fuel site expr)] }
      | .unpacked expr => do
        let value ← eval fuel site expr
        match ← sourceOf? value with
        | some source => pure { found with positional := found.positional ++ (← Run.rest source) }
        | none => fail (Failure.notUnpackable (← calleeText callee) (← typeName value))
      | .unpackedNamed expr => do
        let value ← eval fuel site expr
        match ← object? value with
        | some (.dict entries) =>
          pure { found with named := found.named ++ (← entries.mapM textKey) }
        | _ => fail (Failure.notMapUnpackable (← calleeText callee) (← typeName value))
    evalArguments fuel site callee found rest
where
  /-- A callee as failures mention it. -/
  calleeText (callee : Value) : Run String := do
    match callee with
    | .primitive name => return name ++ "()"
    | .type name => return name ++ "()"
    | _ =>
      match ← object? callee with
      | some (.function function) => return function.name ++ "()"
      | some (.classOf name ..) => return name ++ "()"
      | _ => return (← typeName callee) ++ " object"
  /-- An entry of a map as a named argument. -/
  textKey (entry : Value × Value) : Run (String × Value) := do
    match entry.1 with
    | .text name => return (name, entry.2)
    | _ => fail (Failure.typeError "keywords must be strings")

/-- The defaults of parameters. -/
def evalDefaults : Nat → Site → List Parameter → Run (Assoc String Value)
  | 0, _, _ => throw .exhausted
  | _ + 1, _, [] => return []
  | fuel + 1, site, .mk name _ default declared :: rest => do
    let defaults : Assoc String Value ←
      match default with
      | some expr => do pure [(name, ← eval fuel site expr)]
      | none => pure []
    match declared with
    | some expr => discard (eval fuel site expr)
    | none => pure ()
    return defaults ++ (← evalDefaults fuel site rest)

/-- The function of a lambda. -/
def evalLambda : Nat → Site → List Parameter → Expr → Run Value
  | 0, _, _, _ => throw .exhausted
  | fuel + 1, site, parameters, body => do
    let defaults ← evalDefaults fuel site parameters
    let names := parameters.map Parameter.name
    let own := (names ++ body.boundNames true maxNesting).eraseDups
    makeFunction site (site.path ++ "<lambda>") parameters defaults ⟨[], [], own⟩ (.value body)

/-- The value of a comprehension. The first source is found in the scope around it. -/
def evalComprehension : Nat → Site → Collection → Expr → Option Expr → List Clause → Run Value
  | 0, _, _, _, _, _ => throw .exhausted
  | fuel + 1, site, collection, element, value, clauses => do
    match clauses with
    | [] => return .null
    | .mk target first conditions :: rest =>
      let source ← sourceOf (← eval fuel site first)
      let names := clauses.flatMap fun (.mk target _ _) => target.targetNames maxNesting
      let world ← get
      let scope ← openScope { locals := names.eraseDups.map fun name => (name, none), ofRounds := true }
      let inner := { site with
        scopes := scope :: nestedScopes world site.scopes
        path := site.path ++ collection.scopeName ++ "." }
      let found ← rounds fuel inner element value source target conditions rest #[]
      match collection with
      | .list => list (found.toList.map (·.1))
      | .stream => fail Failure.unknown
      | .set =>
        let world ← get
        found.toList.forM fun (item, _) => lift (world.requireKey item)
        add (.set ((found.toList.map (·.1)).foldl world.putItem []))
      | .dict => add (.dict (← putEntries [] found.toList))

/-- Go through the source of a clause, adding to what has been found. -/
def rounds : Nat → Site → Expr → Option Expr → Source → Expr → List Expr → List Clause →
    Array (Value × Value) → Run (Array (Value × Value))
  | 0, _, _, _, _, _, _, _, _ => throw .exhausted
  | fuel + 1, site, element, value, source, target, conditions, clauses, found => do
    match ← next source with
    | none => return found
    | some (item, source) =>
      assign fuel site target item
      let found ←
        if ← holdsAll fuel site conditions then round fuel site element value clauses found
        else pure found
      rounds fuel site element value source target conditions clauses found

/-- Find an element, going through the clauses that are left. -/
def round : Nat → Site → Expr → Option Expr → List Clause → Array (Value × Value) →
    Run (Array (Value × Value))
  | 0, _, _, _, _, _ => throw .exhausted
  | fuel + 1, site, element, value, clauses, found => do
    match clauses with
    | [] =>
      let element ← eval fuel site element
      return found.push (element, ← evalOptional fuel site value)
    | .mk target source conditions :: rest =>
      let source ← sourceOf (← eval fuel site source)
      rounds fuel site element value source target conditions rest found

/-- Whether all conditions hold. -/
def holdsAll : Nat → Site → List Expr → Run Bool
  | 0, _, _ => throw .exhausted
  | _ + 1, _, [] => return true
  | fuel + 1, site, condition :: rest => do
    if ← isTrue (← eval fuel site condition) then holdsAll fuel site rest else return false

/-- Call a value. -/
def call : Nat → Site → Value → Arguments → Run Value
  | 0, _, _, _ => throw .exhausted
  | fuel + 1, site, callee, arguments =>
    let apply : Apply := fun function values => call fuel site function ⟨values, []⟩
    match callee with
    | .primitive name => Builtin.call apply name arguments
    | .type name => Builtin.construct name arguments
    | .method receiver name => applyMethod receiver name arguments.positional arguments.named
    | .bound receiver function => do
      match (← get).object? function with
      | some (.function function) =>
        callFunction fuel site function { arguments with positional := receiver :: arguments.positional }
      | _ => fail (Failure.notCallable (← typeName callee))
    | _ => do
      match ← object? callee with
      | some (.function function) => callFunction fuel site function arguments
      | some (.classOf name ..) => instantiate fuel site callee name arguments
      | _ => fail (Failure.notCallable (← typeName callee))

/-- Call a function. -/
def callFunction : Nat → Site → Function → Arguments → Run Value
  | 0, _, _, _ => throw .exhausted
  | fuel + 1, site, function, arguments => do
    if maxCalls ≤ site.calls then fail Failure.tooDeep
    else
      let bound ← bindArguments function arguments
      let locals := function.names.own.map fun name => (name, bound.get? name)
      let scope ← openScope { shared := function.names.shared, locals := locals }
      let inner : Site := {
        scopes := scope :: function.scopes
        calls := site.calls + 1
        path := function.name ++ ".<locals>."
        handling := site.handling }
      let body : Run Value :=
        match function.body with
        | .value body => eval fuel inner body
        | .statements body => do
          match ← exec fuel inner body with
          | .left value => return value
          | _ => return .null
      if site.calls < maxCertainCalls then body else runDeep body

/-- Make an instance of a class. -/
def instantiate : Nat → Site → Value → String → Arguments → Run Value
  | 0, _, _, _, _ => throw .exhausted
  | fuel + 1, site, cls, name, arguments => do
    let isException := (← get).isExceptionClass cls
    let instance' ← add (.instanceOf cls (if isException then arguments.positional else []) [])
    match ← classAttribute? World.maxClasses cls "__init__" with
    | some initializer =>
      discard (call fuel site (← boundTo instance' initializer) arguments)
      return instance'
    | none =>
      if isException || (arguments.positional.isEmpty && arguments.named.isEmpty) then return instance'
      else fail (Failure.typeError (name ++ "() takes no arguments"))

/-- Assign a value to a target. -/
def assign : Nat → Site → Expr → Value → Run Unit
  | 0, _, _, _ => throw .exhausted
  | fuel + 1, site, target, value =>
    match target with
    | .name name => store site name value
    | .attribute object name => do putAttribute (← eval fuel site object) name value
    | .item object index => do
      let object ← eval fuel site object
      putItem object (← eval fuel site index) value
    | .tuple targets | .list targets => do
      match splitStarred targets with
      | (targets, none) => assignAll fuel site targets (← unpack targets.length value)
      | (before, some (starred, after)) =>
        let values ← unpackStarred before.length after.length value
        assignAll fuel site (before ++ starred :: after) values
    | _ => return ()

/-- Assign values to targets. -/
def assignAll : Nat → Site → List Expr → List Value → Run Unit
  | 0, _, _, _ => throw .exhausted
  | fuel + 1, site, target :: targets, value :: values => do
    assign fuel site target value
    assignAll fuel site targets values
  | _ + 1, _, _, _ => return ()

/-- Assign one value to each of several targets. -/
def assignEach : Nat → Site → List Expr → Value → Run Unit
  | 0, _, _, _ => throw .exhausted
  | _ + 1, _, [], _ => return ()
  | fuel + 1, site, target :: targets, value => do
    assign fuel site target value
    assignEach fuel site targets value

/-- Remove targets. -/
def deleteAll : Nat → Site → List Expr → Run Unit
  | 0, _, _ => throw .exhausted
  | _ + 1, _, [] => return ()
  | fuel + 1, site, target :: targets => do
    match target with
    | .name name => delete site name
    | .attribute object name => deleteAttribute (← eval fuel site object) name
    | .item object index =>
      let object ← eval fuel site object
      deleteItem object (← eval fuel site index)
    | .tuple inner | .list inner => deleteAll fuel site inner
    | _ => pure ()
    deleteAll fuel site targets

/-- Combine a target with a value. The parts of the target are evaluated once. -/
def augment : Nat → Site → Expr → BinaryOp → Expr → Run Unit
  | 0, _, _, _, _ => throw .exhausted
  | fuel + 1, site, target, op, value =>
    match target with
    | .name name => do
      let left ← lookup site name
      store site name (← augmented op left (← eval fuel site value))
    | .attribute object name => do
      let object ← eval fuel site object
      let left ← attributeOf object name
      putAttribute object name (← augmented op left (← eval fuel site value))
    | .item object index => do
      let object ← eval fuel site object
      let index ← eval fuel site index
      let left ← Run.item object index
      putItem object index (← augmented op left (← eval fuel site value))
    | _ => return ()

/-- Run statements one after the other. -/
def exec : Nat → Site → List Statement → Run Flow
  | 0, _, _ => throw .exhausted
  | _ + 1, _, [] => return .done
  | fuel + 1, site, statement :: rest => do
    match ← execOne fuel site statement with
    | .done => exec fuel site rest
    | flow => return flow

/-- Run a statement. -/
def execOne : Nat → Site → Statement → Run Flow
  | 0, _, _ => throw .exhausted
  | fuel + 1, site, statement =>
    match statement with
    | .expression value => do
      discard (eval fuel site value)
      return .done
    | .assign targets value => do
      assignEach fuel site targets (← eval fuel site value)
      return .done
    | .augment target op value => do
      augment fuel site target op value
      return .done
    | .annotate target declared value _ => do
      match value, target with
      | some value, _ => assign fuel site target (← eval fuel site value)
      | none, .attribute object _ => discard (eval fuel site object)
      | none, .item object index => do
        discard (eval fuel site object)
        discard (eval fuel site index)
      | none, _ => pure ()
      -- Only the body of a class looks at what is declared.
      if ← isClassBody site then discard (eval fuel site declared)
      return .done
    | .delete targets => do
      deleteAll fuel site targets
      return .done
    | .pass | .declareGlobal _ | .declareOuter _ => return .done
    | .leave value => return .left (← evalOptional fuel site value)
    | .leaveLoop => return .leftLoop
    | .nextRound => return .nextRound
    | .throw exception cause => raise fuel site exception cause
    | .check condition message => do
      if ← isTrue (← eval fuel site condition) then return .done
      else
        match message with
        | some message => fail ⟨"AssertionError", [← eval fuel site message]⟩
        | none => fail ⟨"AssertionError", []⟩
    | .load names => do
      names.forM fun name => do
        let module ← importModule name.path
        store site name.bound module
      return .done
    | .loadFrom module names => do
      names.forM fun name => do
        let value ← importName module (name.path.headD "")
        store site name.bound value
      return .done
    | .choose condition body otherwise => do
      if ← isTrue (← eval fuel site condition) then exec fuel site body
      else exec fuel site otherwise
    | .repeatWhile condition body otherwise => repeatWhile fuel site condition body otherwise
    | .forEach target source body otherwise => do
      let source ← sourceOf (← eval fuel site source)
      forEach fuel site target source body otherwise
    | .guard body handlers otherwise cleanup => execGuarded fuel site body handlers otherwise cleanup
    | .define name parameters result body decorators =>
      define fuel site name parameters result body decorators
    | .defineClass name arguments body decorators =>
      defineClass fuel site name arguments body decorators

/-- Throw an exception, or the one that is being handled. -/
def raise : Nat → Site → Option Expr → Option Expr → Run Flow
  | 0, _, _, _ => throw .exhausted
  | fuel + 1, site, exception, cause => do
    match exception with
    | none =>
      match site.handling with
      | some exception => throw (.thrown exception)
      | none => fail (Failure.ofMessage "RuntimeError" "No active exception to reraise")
    | some expr =>
      let value ← eval fuel site expr
      let cause ← evalOptional fuel site cause
      let exception ← thrownFrom value (call fuel site value ⟨[], []⟩)
      match cause with
      | .null => pure ()
      | _ =>
        unless (← isException cause) || (← isExceptionKind cause) do
          fail (Failure.typeError "exception causes must derive from BaseException")
      throw (.thrown exception)

/-- Run a block as long as a condition holds. -/
def repeatWhile : Nat → Site → Expr → List Statement → List Statement → Run Flow
  | 0, _, _, _, _ => throw .exhausted
  | fuel + 1, site, condition, body, otherwise => do
    if ← isTrue (← eval fuel site condition) then
      match ← exec fuel site body with
      | .leftLoop => return .done
      | .left value => return .left value
      | _ => repeatWhile fuel site condition body otherwise
    else exec fuel site otherwise

/-- Run a block for each item of a source. -/
def forEach : Nat → Site → Expr → Source → List Statement → List Statement → Run Flow
  | 0, _, _, _, _, _ => throw .exhausted
  | fuel + 1, site, target, source, body, otherwise => do
    match ← next source with
    | none => exec fuel site otherwise
    | some (value, source) =>
      assign fuel site target value
      match ← exec fuel site body with
      | .leftLoop => return .done
      | .left value => return .left value
      | _ => forEach fuel site target source body otherwise

/-- Run a block with handlers for exceptions, and another block in any case at the end. -/
def execGuarded :
    Nat → Site → List Statement → List Handler → List Statement → List Statement → Run Flow
  | 0, _, _, _, _, _ => throw .exhausted
  | fuel + 1, site, body, handlers, otherwise, cleanup => do
    let attempt : Run Flow := do
      match ← attemptGuarded (exec fuel site body) with
      | .ok .done => exec fuel site otherwise
      | .ok flow => return flow
      | .error exception => handle fuel site exception handlers
    let outcome ← attemptGuarded attempt
    let site := match outcome with
      | .error exception => { site with handling := some exception }
      | .ok _ => site
    match ← exec fuel site cleanup with
    | .done =>
      match outcome with
      | .ok flow => return flow
      | .error exception => throw (.thrown exception)
    | flow => return flow

/-- Run the first handler for an exception; without one it is thrown on. -/
def handle : Nat → Site → Value → List Handler → Run Flow
  | 0, _, _, _ => throw .exhausted
  | _ + 1, _, exception, [] => throw (.thrown exception)
  | fuel + 1, site, exception, .mk kind name body :: rest => do
    let inner := { site with handling := some exception }
    let fits ←
      match kind with
      | none => pure true
      | some kind => isOfKind exception (← eval fuel inner kind)
    if fits then
      match name with
      | none => exec fuel inner body
      | some name =>
        store site name exception
        let forget : Run Unit := do
          store site name .null
          delete site name
        let flow ← tryCatch (exec fuel inner body) fun halt => do
          match halt with
          | .thrown _ => forget
          | .exhausted => pure ()
          throw halt
        forget
        return flow
    else handle fuel site exception rest

/-- Define a function. -/
def define :
    Nat → Site → String → List Parameter → Option Expr → List Statement → List Expr → Run Flow
  | 0, _, _, _, _, _, _ => throw .exhausted
  | fuel + 1, site, name, parameters, result, body, decorators => do
    let decorators ← evalItems fuel site Failure.notSpreadable decorators
    let defaults ← evalDefaults fuel site parameters
    discard (evalOptional fuel site result)
    let names := bodyNames maxNesting (parameters.map Parameter.name) body
    let full ← definedName site name
    let function ← makeFunction site full parameters defaults names (.statements body)
    let value ← decorate fuel site function decorators.reverse
    store site name value
    return .done

/-- Define a class. -/
def defineClass : Nat → Site → String → List Argument → List Statement → List Expr → Run Flow
  | 0, _, _, _, _, _ => throw .exhausted
  | fuel + 1, site, name, arguments, body, decorators => do
    let decorators ← evalItems fuel site Failure.notSpreadable decorators
    let arguments ← evalArguments fuel site .null ⟨[], []⟩ arguments
    let names := bodyNames maxNesting [] body
    let full ← definedName site name
    let world ← get
    let scope ← openScope {
      shared := names.shared
      locals := names.own.map fun name => (name, none)
      ofClass := true }
    let inner := { site with scopes := scope :: nestedScopes world site.scopes, path := full ++ "." }
    discard (exec fuel inner body)
    let cls ← classFrom name arguments scope
    let value ← decorate fuel site cls decorators.reverse
    store site name value
    return .done

/-- Pass a definition through its decorators. -/
def decorate : Nat → Site → Value → List Value → Run Value
  | 0, _, _, _ => throw .exhausted
  | _ + 1, _, value, [] => return value
  | fuel + 1, site, value, decorator :: rest => do
    decorate fuel site (← call fuel site decorator ⟨[value], []⟩) rest

end

end Linework.Script
