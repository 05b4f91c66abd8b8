/-!
# Scripts as trees

The expressions and statements of the script language.
-/

namespace Linework.Script

/-- The operations on one value. -/
inductive UnaryOp where
  | plus
  | minus
  | invert
  | not
deriving DecidableEq

/-- The operations on two values. -/
inductive BinaryOp where
  | add
  | sub
  | mul
  | div
  | floorDiv
  | mod
  | pow
  | matMul
  | shiftLeft
  | shiftRight
  | bitAnd
  | bitOr
  | bitXor
deriving DecidableEq

/-- The ways to compare two values. -/
inductive Comparison where
  | eq
  | ne
  | lt
  | le
  | gt
  | ge
  | isSame
  | isNotSame
  | isIn
  | isNotIn
deriving DecidableEq

/-- How the value of a replacement field becomes text before it is laid out. -/
inductive Conversion where
  | none
  | plain
  | source
  /-- The source form in ASCII. -/
  | asciiSource
deriving DecidableEq

/-- What a comprehension builds. -/
inductive Collection where
  | list
  | set
  | dict
  | stream
deriving DecidableEq

/-- What the scope of a comprehension is called. -/
def Collection.scopeName : Collection → String
  | list => "<listcomp>"
  | set => "<setcomp>"
  | dict => "<dictcomp>"
  | stream => "<genexpr>"

/-- The ways in which a parameter takes arguments. -/
inductive ParameterKind where
  | positional
  | either
  | named
  | rest
  | namedRest
deriving DecidableEq

mutual

/-- An expression. -/
inductive Expr where
  | null
  | bool (value : Bool)
  | int (value : Nat)
  | float (value : Float)
  | text (value : String)
  | ellipsis
  | name (name : String)
  | tuple (items : List Expr)
  | list (items : List Expr)
  | set (items : List Expr)
  /-- A map display. An item without a key is a map whose entries are all taken. -/
  | dict (items : List DictItem)
  | starred (value : Expr)
  | unary (op : UnaryOp) (value : Expr)
  | binary (op : BinaryOp) (left right : Expr)
  /-- The first value that decides a conjunction or a disjunction. -/
  | both (left right : Expr)
  | either (left right : Expr)
  /-- A chain of comparisons. -/
  | compare (first : Expr) (links : List Link)
  | choice (condition value otherwise : Expr)
  | lambda (parameters : List Parameter) (body : Expr)
  | call (callee : Expr) (arguments : List Argument)
  | attribute (value : Expr) (name : String)
  | item (value index : Expr)
  | slice (start stop step : Option Expr)
  | comprehension (collection : Collection) (element : Expr) (value : Option Expr)
      (clauses : List Clause)
  | layout (parts : List Part)
  | bind (name : String) (value : Expr)

/-- An entry of a map display. -/
inductive DictItem where
  | entry (key value : Expr)
  | unpacked (map : Expr)

/-- A link of a chain of comparisons. -/
inductive Link where
  | mk (comparison : Comparison) (value : Expr)

/-- An argument of a call. -/
inductive Argument where
  | value (value : Expr)
  | named (name : String) (value : Expr)
  | unpacked (values : Expr)
  | unpackedNamed (values : Expr)

/-- A parameter, with the default it may have. -/
inductive Parameter where
  | mk (name : String) (kind : ParameterKind) (default : Option Expr) (declared : Option Expr)

/-- A clause of a comprehension: a target, the source of its values and conditions on them. -/
inductive Clause where
  | mk (target source : Expr) (conditions : List Expr)

/-- A part of a text with replacement fields. -/
inductive Part where
  | text (value : String)
  | field (value : Expr) (conversion : Conversion) (spec : List Part)

end

/-- The name of a parameter. -/
def Parameter.name : Parameter → String
  | .mk name .. => name

/-- A name under which something is imported: the path of names, and another name for it. -/
structure ImportedName where
  path : List String
  alias? : Option String

/-- The name that an import binds. -/
def ImportedName.bound (imported : ImportedName) : String :=
  match imported.alias? with
  | some name => name
  | none => imported.path.headD ""

mutual

/-- A statement. -/
inductive Statement where
  | expression (value : Expr)
  | assign (targets : List Expr) (value : Expr)
  | augment (target : Expr) (op : BinaryOp) (value : Expr)
  /-- An assignment with an annotation; `isSimple` when the target is a bare name. -/
  | annotate (target declared : Expr) (value : Option Expr) (isSimple : Bool)
  | delete (targets : List Expr)
  | pass
  | leave (value : Option Expr)
  | leaveLoop
  | nextRound
  | throw (exception cause : Option Expr)
  | check (condition : Expr) (message : Option Expr)
  | declareGlobal (names : List String)
  | declareOuter (names : List String)
  | load (names : List ImportedName)
  /-- An import of names of a module, all of them when none is listed. -/
  | loadFrom (module : String) (names : List ImportedName)
  | choose (condition : Expr) (body otherwise : List Statement)
  | repeatWhile (condition : Expr) (body otherwise : List Statement)
  | forEach (target source : Expr) (body otherwise : List Statement)
  | guard (body : List Statement) (handlers : List Handler) (otherwise cleanup : List Statement)
  | define (name : String) (parameters : List Parameter) (result : Option Expr)
      (body : List Statement) (decorators : List Expr)
  | defineClass (name : String) (arguments : List Argument) (body : List Statement) (decorators : List Expr)

/-- What to do with the exceptions of a kind, which may be given a name. -/
inductive Handler where
  | mk (kind : Option Expr) (name : Option String) (body : List Statement)

end

instance : Inhabited Expr := ⟨.null⟩

instance : Inhabited Statement := ⟨.pass⟩

end Linework.Script
