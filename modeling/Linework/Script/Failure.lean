import Linework.Script.Value

/-!
# Failures

Why operations of scripts fail, and how it is worded. Types are named as messages name them.
-/

namespace Linework.Script

open Linework.Decimal Linework.Text

/-- The kinds of exceptions, each with the kind that it belongs to. -/
def exceptionKinds : List (String × String) := [
  ("BaseException", "object"),
  ("Exception", "BaseException"),
  ("ArithmeticError", "Exception"),
  ("FloatingPointError", "ArithmeticError"),
  ("OverflowError", "ArithmeticError"),
  ("ZeroDivisionError", "ArithmeticError"),
  ("AssertionError", "Exception"),
  ("AttributeError", "Exception"),
  ("FrozenInstanceError", "AttributeError"),
  ("BufferError", "Exception"),
  ("EOFError", "Exception"),
  ("ImportError", "Exception"),
  ("ModuleNotFoundError", "ImportError"),
  ("LookupError", "Exception"),
  ("IndexError", "LookupError"),
  ("KeyError", "LookupError"),
  ("MemoryError", "Exception"),
  ("NameError", "Exception"),
  ("UnboundLocalError", "NameError"),
  ("OSError", "Exception"),
  ("FileNotFoundError", "OSError"),
  ("PermissionError", "OSError"),
  ("TimeoutError", "OSError"),
  ("ReferenceError", "Exception"),
  ("RuntimeError", "Exception"),
  ("NotImplementedError", "RuntimeError"),
  ("RecursionError", "RuntimeError"),
  ("StopIteration", "Exception"),
  ("StopAsyncIteration", "Exception"),
  ("SyntaxError", "Exception"),
  ("IndentationError", "SyntaxError"),
  ("TabError", "IndentationError"),
  ("SystemError", "Exception"),
  ("TypeError", "Exception"),
  ("ValueError", "Exception"),
  ("UnicodeError", "ValueError"),
  ("Warning", "Exception"),
  ("UserWarning", "Warning"),
  ("DeprecationWarning", "Warning"),
  ("RuntimeWarning", "Warning"),
  ("KeyboardInterrupt", "BaseException"),
  ("SystemExit", "BaseException"),
  ("GeneratorExit", "BaseException")]

/-- The kinds that scripts know by name. -/
def isKnownKind (name : String) : Bool :=
  name != "FrozenInstanceError" && (exceptionKinds.lookup name).isSome

/-- Whether a kind of exceptions is or belongs to another, going up at most `steps` times. -/
def kindBelongsTo : Nat → String → String → Bool
  | 0, _, _ => false
  | steps + 1, kind, other =>
    kind == other ||
      match exceptionKinds.lookup kind with
      | some parent => kindBelongsTo steps parent other
      | none => false

/-- The highest step from a kind of exceptions to the root of all kinds. -/
def kindSteps : Nat := 8

namespace Failure

/-- A failure with a message. -/
def ofMessage (kind message : String) : Failure :=
  ⟨kind, [.text message]⟩

/-- An operation on values of the wrong types. -/
def typeError (message : String) : Failure := ofMessage "TypeError" message

/-- An operation on values of the right types that are wrong in themselves. -/
def valueError (message : String) : Failure := ofMessage "ValueError" message

/-- A count in words of the messages on arguments. -/
def counted (count : Nat) (noun : String) : String :=
  natText count ++ " " ++ noun ++ (if count == 1 then "" else "s")

/-! ### Names and attributes -/

/-- A name stands for nothing. -/
def unknownName (name : String) : Failure :=
  ofMessage "NameError" ("name '" ++ name ++ "' is not defined")

/-- A name of a function has no value yet. -/
def unboundLocal (name : String) : Failure :=
  ofMessage "UnboundLocalError"
    ("cannot access local variable '" ++ name ++ "' where it is not associated with a value")

/-- A name of a function around has no value yet. -/
def unboundFree (name : String) : Failure :=
  ofMessage "NameError" ("cannot access free variable '" ++ name
    ++ "' where it is not associated with a value in enclosing scope")

/-- A value has no such attribute. -/
def noAttribute (typeName name : String) : Failure :=
  ofMessage "AttributeError" ("'" ++ typeName ++ "' object has no attribute '" ++ name ++ "'")

/-- A class has no such attribute. -/
def noClassAttribute (className name : String) : Failure :=
  ofMessage "AttributeError" ("type object '" ++ className ++ "' has no attribute '" ++ name ++ "'")

/-- A module has no such attribute. -/
def noModuleAttribute (module name : String) : Failure :=
  ofMessage "AttributeError" ("module '" ++ module ++ "' has no attribute '" ++ name ++ "'")

/-- A field of a value that cannot change. -/
def frozenField (action name : String) : Failure :=
  ofMessage "FrozenInstanceError" ("cannot " ++ action ++ " field '" ++ name ++ "'")

/-- A type that is built in cannot change. -/
def fixedType (name typeName : String) : Failure :=
  typeError ("cannot set '" ++ name ++ "' attribute of immutable type '" ++ typeName ++ "'")

/-- There is no such module. -/
def noModule (name : String) : Failure :=
  ofMessage "ModuleNotFoundError" ("No module named '" ++ name ++ "'")

/-- A module has nothing of that name to import. -/
def noImport (name module : String) : Failure :=
  ofMessage "ImportError" ("cannot import name '" ++ name ++ "' from '" ++ module ++ "' (unknown location)")

/-! ### Calls -/

/-- A value cannot be called. -/
def notCallable (typeName : String) : Failure :=
  typeError ("'" ++ typeName ++ "' object is not callable")

/-- A function takes one argument. -/
def takesOne (name : String) (given : Nat) : Failure :=
  typeError (name ++ "() takes exactly one argument (" ++ natText given ++ " given)")

/-- A function takes no arguments. -/
def takesNone (name : String) (given : Nat) : Failure :=
  typeError (name ++ "() takes no arguments (" ++ natText given ++ " given)")

/-- A function takes no arguments by name. -/
def takesNoNamed (name : String) : Failure :=
  typeError (name ++ "() takes no keyword arguments")

/-- A function takes a given number of arguments. -/
def expectedCount (name : String) (count given : Nat) : Failure :=
  typeError (name ++ " expected " ++ counted count "argument" ++ ", got " ++ natText given)

/-- A function takes some least number of arguments. -/
def expectedAtLeast (name : String) (count given : Nat) : Failure :=
  typeError (name ++ " expected at least " ++ counted count "argument" ++ ", got " ++ natText given)

/-- A function takes some greatest number of arguments. -/
def expectedAtMost (name : String) (count given : Nat) : Failure :=
  typeError (name ++ " expected at most " ++ counted count "argument" ++ ", got " ++ natText given)

/-- A function takes some greatest number of arguments, in another wording. -/
def takesAtMost (name : String) (count given : Nat) : Failure :=
  typeError (name ++ "() takes at most " ++ counted count "argument" ++ " (" ++ natText given ++ " given)")

/-- A function takes some least number of arguments by position. -/
def takesAtLeastPositional (name : String) (count given : Nat) : Failure :=
  typeError (name ++ "() takes at least " ++ counted count "positional argument" ++ " ("
    ++ natText given ++ " given)")

/-- An argument that a built-in function needs is missing. -/
def missingBuiltin (name argument : String) (position : Nat) : Failure :=
  typeError (name ++ "() missing required argument '" ++ argument ++ "' (pos " ++ natText position ++ ")")

/-- A built-in function knows no argument of that name. -/
def invalidNamed (name argument : String) : Failure :=
  typeError ("'" ++ argument ++ "' is an invalid keyword argument for " ++ name ++ "()")

/-- Names in a sentence: quoted, with commas and a last `and`. -/
def listed : List String → String
  | [] => ""
  | [a] => quoted a
  | [a, b] => quoted a ++ " and " ++ quoted b
  | names =>
    ", ".intercalate (names.dropLast.map quoted) ++ ", and " ++ quoted (names.getLast?.getD "")

/-- Arguments that a function needs are missing. -/
def missingArguments (function kind : String) (names : List String) : Failure :=
  typeError (function ++ "() missing " ++ natText names.length ++ " required " ++ kind ++ " argument"
    ++ (if names.length == 1 then "" else "s") ++ ": " ++ listed names)

/-- A function is given more arguments by position than it takes. -/
def tooManyArguments (function : String) (least most given namedGiven : Nat) : Failure :=
  let plural := if least == most then most != 1 else true
  let takes := if least == most then natText most else "from " ++ natText least ++ " to " ++ natText most
  let tail :=
    if namedGiven == 0 then
      natText given ++ (if given == 1 then " was" else " were") ++ " given"
    else
      natText given ++ " positional argument" ++ (if given == 1 then "" else "s") ++ " (and "
        ++ natText namedGiven ++ " keyword-only argument" ++ (if namedGiven == 1 then "" else "s")
        ++ ") were given"
  typeError (function ++ "() takes " ++ takes ++ " positional argument" ++ (if plural then "s" else "")
    ++ " but " ++ tail)

/-- A function has no parameter of that name. -/
def unexpectedNamed (function name : String) : Failure :=
  typeError (function ++ "() got an unexpected keyword argument '" ++ name ++ "'")

/-- A parameter is given two arguments. -/
def repeatedArgument (function name : String) : Failure :=
  typeError (function ++ "() got multiple values for argument '" ++ name ++ "'")

/-- A parameter that is given by position only is given by name. -/
def positionalByName (function names : String) : Failure :=
  typeError (function ++ "() got some positional-only arguments passed as keyword arguments: '"
    ++ names ++ "'")

/-- A call nests too deeply. -/
def tooDeep : Failure :=
  ofMessage "RecursionError" "maximum recursion depth exceeded"

/-- Values nest too deeply to be compared. -/
def tooDeepComparison : Failure :=
  ofMessage "RecursionError" "maximum recursion depth exceeded in comparison"

/-! ### Sequences -/

/-- A value has no items to go through. -/
def notIterable (typeName : String) : Failure :=
  typeError ("'" ++ typeName ++ "' object is not iterable")

/-- A value cannot hold others. -/
def notContainer (typeName : String) : Failure :=
  typeError ("argument of type '" ++ typeName ++ "' is not iterable")

/-- Only texts are looked for in texts. -/
def notInText (typeName : String) : Failure :=
  typeError ("'in <string>' requires string as left operand, not " ++ typeName)

/-- A value has no length. -/
def noLength (typeName : String) : Failure :=
  typeError ("object of type '" ++ typeName ++ "' has no len()")

/-- A value has no items by index. -/
def notSubscriptable (typeName : String) : Failure :=
  typeError ("'" ++ typeName ++ "' object is not subscriptable")

/-- A type has no items by index. -/
def typeNotSubscriptable (name : String) : Failure :=
  typeError ("type '" ++ name ++ "' is not subscriptable")

/-- Items cannot be replaced. -/
def noItemAssignment (typeName : String) : Failure :=
  typeError ("'" ++ typeName ++ "' object does not support item assignment")

/-- Items cannot be removed; sequences say so of an item by number in other words. -/
def noItemDeletion (typeName : String) (ofSequence : Bool) : Failure :=
  typeError ("'" ++ typeName ++ "' object " ++ (if ofSequence then "doesn't" else "does not")
    ++ " support item deletion")

/-- A sequence has no item of that index. -/
def outOfRange (what : String) : Failure :=
  ofMessage "IndexError" (what ++ " out of range")

/-- An index that no machine word holds. -/
def indexTooLarge : Failure :=
  ofMessage "IndexError" "cannot fit 'int' into an index-sized integer"

/-- Nothing can be taken from an empty list. -/
def popFromEmpty : Failure :=
  ofMessage "IndexError" "pop from empty list"

/-- The index of a sequence is not an integer. -/
def badIndex (sequence typeName : String) : Failure :=
  typeError (sequence ++ " indices must be integers or slices, not " ++ typeName)

/-- The index of a text is not an integer. -/
def badTextIndex (typeName : String) : Failure :=
  typeError ("string indices must be integers, not '" ++ typeName ++ "'")

/-- A bound of a slice is not an integer. -/
def badSlice : Failure :=
  typeError "slice indices must be integers or None or have an __index__ method"

/-- A slice cannot go on the spot. -/
def zeroStep : Failure :=
  valueError "slice step cannot be zero"

/-- A slice is replaced by something without items. -/
def sliceFromNothing : Failure :=
  typeError "can only assign an iterable"

/-- An extended slice is replaced by a sequence of another length. -/
def sliceLength (given size : Nat) : Failure :=
  valueError ("attempt to assign sequence of size " ++ natText given ++ " to extended slice of size "
    ++ natText size)

/-- A map has no such key. -/
def missingKey (key : Value) : Failure := ⟨"KeyError", [key]⟩

/-- A value cannot be a key. -/
def unhashable (typeName : String) : Failure :=
  typeError ("unhashable type: '" ++ typeName ++ "'")

/-- A value has no items to be spread over targets. -/
def cannotUnpack (typeName : String) : Failure :=
  typeError ("cannot unpack non-iterable " ++ typeName ++ " object")

/-- There are more values than targets. -/
def tooManyValues (expected : Nat) : Failure :=
  valueError ("too many values to unpack (expected " ++ natText expected ++ ")")

/-- There are more targets than values. -/
def tooFewValues (expected given : Nat) : Failure :=
  valueError ("not enough values to unpack (expected " ++ natText expected ++ ", got "
    ++ natText given ++ ")")

/-- There are more targets than values, although one target takes all that are left. -/
def tooFewValuesStarred (expected given : Nat) : Failure :=
  valueError ("not enough values to unpack (expected at least " ++ natText expected ++ ", got "
    ++ natText given ++ ")")

/-- A range cannot go on the spot. -/
def zeroRangeStep : Failure :=
  valueError "range() arg 3 must not be zero"

/-- A value that must be an integer is not. -/
def notInteger (typeName : String) : Failure :=
  typeError ("'" ++ typeName ++ "' object cannot be interpreted as an integer")

/-- A value that is spread over a list or a tuple has no items. -/
def notSpreadable (typeName : String) : Failure :=
  typeError ("Value after * must be an iterable, not " ++ typeName)

/-- A value that is unpacked into arguments has no items. -/
def notUnpackable (function typeName : String) : Failure :=
  typeError (function ++ " argument after * must be an iterable, not " ++ typeName)

/-- A value that is unpacked into named arguments is no map. -/
def notMapUnpackable (function typeName : String) : Failure :=
  typeError (function ++ " argument after ** must be a mapping, not " ++ typeName)

/-- A value that is merged into a map is no map. -/
def notMap (typeName : String) : Failure :=
  typeError ("'" ++ typeName ++ "' object is not a mapping")

/-! ### Operators -/

/-- An operator does not take values of these types. -/
def badOperands (operator left right : String) : Failure :=
  typeError ("unsupported operand type(s) for " ++ operator ++ ": '" ++ left ++ "' and '" ++ right ++ "'")

/-- A sign does not take a value of this type. -/
def badOperand (operator typeName : String) : Failure :=
  typeError ("bad operand type for unary " ++ operator ++ ": '" ++ typeName ++ "'")

/-- Only sequences of one type are joined. -/
def cannotJoin (sequence other : String) : Failure :=
  typeError ("can only concatenate " ++ sequence ++ " (not \"" ++ other ++ "\") to " ++ sequence)

/-- A sequence is repeated an integral number of times. -/
def badRepeat (typeName : String) : Failure :=
  typeError ("can't multiply sequence by non-int of type '" ++ typeName ++ "'")

/-- Values of these types have no order. -/
def notOrdered (operator left right : String) : Failure :=
  typeError ("'" ++ operator ++ "' not supported between instances of '" ++ left ++ "' and '" ++ right ++ "'")

/-- A division by zero, as each operator words it. -/
def zeroDivision (message : String) : Failure :=
  ofMessage "ZeroDivisionError" message

/-- A shift by less than nothing. -/
def negativeShift : Failure :=
  valueError "negative shift count"

/-- A float too large to be written. -/
def floatRange : Failure :=
  ⟨"OverflowError", [.int 34, .text "Numerical result out of range"]⟩

/-- An integer too large to become a float. -/
def intTooLarge : Failure :=
  ofMessage "OverflowError" "int too large to convert to float"

/-- A quotient too large to become a float. -/
def quotientTooLarge : Failure :=
  ofMessage "OverflowError" "integer division result too large for a float"

/-- A map has lost or gained keys while it is gone through. -/
def mapResized : Failure :=
  ofMessage "RuntimeError" "dictionary changed size during iteration"

/-! ### Conversions -/

/-- An integer has too many digits to be written. -/
def tooManyDigits : Failure :=
  valueError ("Exceeds the limit (4300 digits) for integer string conversion; "
    ++ "use sys.set_int_max_str_digits() to increase the limit")

/-- An integer text has too many digits to be read. -/
def tooManyDigitsRead (count : Nat) : Failure :=
  valueError ("Exceeds the limit (4300 digits) for integer string conversion: value has "
    ++ natText count ++ " digits; use sys.set_int_max_str_digits() to increase the limit")

/-- A text is no integer of a base. -/
def badInteger (base : Nat) (text : String) : Failure :=
  valueError ("invalid literal for int() with base " ++ natText base ++ ": " ++ quoted text)

/-- A value cannot become an integer. -/
def noInteger (typeName : String) : Failure :=
  typeError ("int() argument must be a string, a bytes-like object or a real number, not '"
    ++ typeName ++ "'")

/-- A text is no float. -/
def badFloat (text : String) : Failure :=
  valueError ("could not convert string to float: " ++ quoted text)

/-- A value cannot become a float. -/
def noFloat (typeName : String) : Failure :=
  typeError ("float() argument must be a string or a real number, not '" ++ typeName ++ "'")

/-- Infinity cannot become an integer. -/
def infiniteInteger : Failure :=
  ofMessage "OverflowError" "cannot convert float infinity to integer"

/-- NaN cannot become an integer. -/
def nanInteger : Failure :=
  valueError "cannot convert float NaN to integer"

/-- A value that must be a number is none. -/
def notReal (typeName : String) : Failure :=
  typeError ("must be real number, not " ++ typeName)

/-- A value that must have a whole part has none. -/
def noTrunc (typeName : String) : Failure :=
  typeError ("type " ++ typeName ++ " doesn't define __trunc__ method")

/-- A mathematical function is not defined there. -/
def domain : Failure :=
  valueError "math domain error"

/-- The value of a mathematical function is too large. -/
def range : Failure :=
  ofMessage "OverflowError" "math range error"

end Failure

end Linework.Script
