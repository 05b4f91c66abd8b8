import Linework.Script.Block
import Linework.Script.Evaluation

/-!
# Fragments

A fragment of script is an expression after an equals sign, or else a block of statements. A block runs as
the body of a function that is called once: what it assigns is shared with all fragments, it can be left
with a value, and an expression at its end gives the value.
-/

namespace Linework.Script

/-- A fragment that has been read. -/
inductive Fragment where
  | empty
  | expression (expr : Expr)
  | block (body : List Statement)

/-- A block whose last statement gives its value. -/
def leaveAtEnd : List Statement → List Statement
  | [] => []
  | [.expression value] => [.leave (some value)]
  | statement :: rest => statement :: leaveAtEnd rest

/-- The name that the function of a block goes by. -/
def fragmentName : String := "_cgraph_fragment"

/-- How many steps of a fragment may lie inside of each other. -/
def maxSteps : Nat := Nat.pow 2 40

/-- How many layers an expression may have for it to be certain that it can be run: each layer takes its share
of a stack. -/
def maxCompiled : Nat := 300

/-- How many layers a block may have for it to be certain that its names can be collected, which takes a larger
share. -/
def maxVisited : Nat := 100

namespace Fragment

/-- A text as an expression. -/
def readValue (chars : List Char) : Except Flaw Fragment := do
  let expr ← readExpression chars
  if expr.bindsWell false maxNesting then return .expression expr else throw .ungrammatical

/-- A text as statements. -/
def readStatements (chars : List Char) : Except Flaw Fragment := do
  let body ← readBlock chars
  if fragmentMakesSense maxNesting body then return .block body else throw .ungrammatical

/-- The scope of a block that has names of its own. All other names are shared. -/
def openOwn (names : ScopeNames) : Run (List Nat) := do
  if names.own.isEmpty then return []
  else
    let scope ← Run.openScope {
      shared := names.shared
      locals := names.own.map fun name => (name, none) }
    return [scope]

/-- Run a block. The value that it ends with lies three steps deeper than that of an expression on its own. -/
def runBlock (body : List Statement) : Run Value := do
  unless body.all (Statement.fits maxVisited) do throw .exhausted
  modify fun world => { world with shared := world.shared.erase fragmentName }
  let scopes ← openOwn (fragmentNames maxNesting body)
  let site : Site := { scopes := scopes, path := fragmentName ++ ".<locals>." }
  match ← exec (maxSteps + 3) site (leaveAtEnd body) with
  | .left value => return value
  | _ => return .null

/-- Run a fragment; its value. -/
def run : Fragment → Run Value
  | .empty => return .null
  | .expression expr => do
    unless expr.fits maxCompiled do throw .exhausted
    eval maxSteps {} expr
  | .block body => runBlock body

end Fragment

end Linework.Script
