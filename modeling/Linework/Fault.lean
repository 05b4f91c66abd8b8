import Linework.Datum.Text

/-!
# Faults

Everything that can go wrong outside of scripts, as causes. A fault's `kind` and `message` are the two
texts that it is reported by.
-/

namespace Linework

open Linework.Text

/-- What went wrong. -/
inductive Fault where
  /-- A cursor at the end was asked for its token. -/
  | cursorAtEnd
  /-- A list has no item of the number that was asked for. -/
  | indexOutOfRange
  /-- A map has no such key. -/
  | missingKey (key : Datum)
  /-- A value of the named type has no such attribute. -/
  | noAttribute (typeName name : String)
  /-- A value of the named type cannot be a key. -/
  | unhashable (typeName : String)
  /-- A value of the named type has no items. -/
  | notIterable (typeName : String)
  /-- A value of the named type has no length. -/
  | noLength (typeName : String)
  /-- A text stands where it is multiplied by a number that is not whole. -/
  | badRepetition
  /-- A value of the named type has no items by number. -/
  | notSubscriptable (typeName : String)
  /-- A text is no integer. -/
  | badInteger (text : String)
  /-- A text is no integer in a base. -/
  | badDigits (base : Nat) (text : String)
  /-- A number is no code of a character. -/
  | badCode
  /-- A value of the named type cannot become an integer. -/
  | noInteger (typeName : String)
  /-- A text is no number. -/
  | badFloat (text : String)
  /-- A value of the named type cannot become a number. -/
  | noFloat (typeName : String)
  /-- An integer is too large to become a float. -/
  | integerTooLarge
  /-- Infinity cannot become an integer. -/
  | infiniteInteger
  /-- NaN cannot become an integer. -/
  | nanInteger
  /-- An integer has too many digits to be written. -/
  | tooManyDigits
  /-- An integer text has too many digits to be read. -/
  | tooManyDigitsRead (count : Nat)
  /-- A number was divided by zero. -/
  | divisionByZero
  /-- The least of no values was asked for. -/
  | emptyMinimum
  /-- A value of the named type cannot be rounded. -/
  | cannotRound (typeName : String)
  /-- A text was needed where a value of the named type stood at an index. -/
  | notText (index : Nat) (typeName : String)
  /-- An operator does not take operands of the two named types. -/
  | badOperands (operator left right : String)
  /-- The order of values of the two named types is not defined. -/
  | notOrdered (operator left right : String)
  /-- More calls are open than the stack has room for. -/
  | stackOverflow
  /-- A script takes more steps than it may. -/
  | endless
  /-- A configuration file has a name that tells no format. -/
  | unknownConfigType (name : String)
  /-- A configuration is no map. -/
  | configNotMap (path : String)
  /-- A section of a configuration is no map. -/
  | sectionNotMap (sectionName path : String)
  /-- There is no such file. -/
  | fileMissing (path : String)
  /-- A document format is not known; the text names it. -/
  | unknownFormat (name : String)
  /-- A document does not follow its format, which is reported without a reason. -/
  | malformed
  /-- A document does not follow the named format. -/
  | malformedAs (format : String)
  /-- A value of the named type has no place in a document of data. -/
  | notSerializable (typeName : String)
  /-- A value of the named type cannot be a key in a document of data. -/
  | notKey (typeName : String)
  /-- A value, given in source form, has no place in a document of data. -/
  | notRepresentable (source : String)
  /-- A list was asked for an item by a text. -/
  | textIndexOfList
  /-- A text was asked for a character by a text. -/
  | textIndexOfText
  /-- A document would have several roots. -/
  | multipleRoots
  /-- A document has no root, or one that is not its first. -/
  | notOneRoot
  /-- A tag or an attribute has a name that is no text. -/
  | nameNotText (what : String)
  /-- A tag or an attribute has a name that would not be read as one. -/
  | badName (what reason : String)
  /-- A comment would end too early. -/
  | badComment (reason : String)
  /-- A document declares entities of its own. -/
  | entityDeclared
  /-- A path leads to a directory. -/
  | isDirectory (path : String)
  /-- A path leads through a file. -/
  | notDirectory (path : String)
  /-- A path holds the null character. -/
  | nullInPath
  /-- A failure that a host reports in its own words. -/
  | reported (kind message : String)
  /-- A failure of a kind that is not there to be handled, or one that cannot be put into words. -/
  | escaping (kind message : String)

namespace Fault

/-- The kind that a fault is reported under. -/
def kind : Fault → String
  | .cursorAtEnd | .indexOutOfRange => "IndexError"
  | .missingKey _ => "KeyError"
  | .noAttribute .. => "AttributeError"
  | .unhashable _ | .notIterable _ | .noLength _ | .badRepetition | .notSubscriptable _ | .noInteger _
  | .noFloat _ | .cannotRound _ | .notText .. | .badOperands .. | .notOrdered .. | .notSerializable _ | .notKey _
  | .textIndexOfList | .textIndexOfText => "TypeError"
  | .integerTooLarge | .infiniteInteger => "OverflowError"
  | .divisionByZero => "ZeroDivisionError"
  | .stackOverflow => "RecursionError"
  | .endless => "TimeoutError"
  | .fileMissing _ => "FileNotFoundError"
  | .isDirectory _ => "IsADirectoryError"
  | .notDirectory _ => "NotADirectoryError"
  | .notRepresentable _ => "RepresenterError"
  | .badInteger _ | .badDigits .. | .badCode | .badFloat _ | .nanInteger | .tooManyDigits
  | .tooManyDigitsRead _ | .emptyMinimum | .unknownConfigType _ | .configNotMap _ | .sectionNotMap ..
  | .unknownFormat _ | .malformed | .malformedAs _ | .multipleRoots | .notOneRoot | .nameNotText _
  | .badName .. | .badComment _ | .entityDeclared | .nullInPath => "ValueError"
  | .reported kind _ | .escaping kind _ => kind

/-- Whether a fault is taken up and reported where it ends a conversion. -/
def isHandled : Fault → Bool
  | .endless | .escaping .. => false
  | _ => true

/-- The kinds of faults that lie in files and in what they hold. -/
def inputKinds : List String :=
  ["ValueError", "FileNotFoundError", "IsADirectoryError", "NotADirectoryError"]

/-- Whether a fault lies in a file or in what it holds. -/
def isOfInput (fault : Fault) : Bool :=
  inputKinds.contains fault.kind

/-- The wording of a fault. -/
def message : Fault → String
  | .cursorAtEnd => "cursor is at the end of the token list"
  | .indexOutOfRange => "list index out of range"
  | .missingKey key => key.source
  | .noAttribute typeName name =>
    "'" ++ typeName ++ "' object has no attribute '" ++ name ++ "'"
  | .unhashable typeName => "unhashable type: '" ++ typeName ++ "'"
  | .notIterable typeName => "'" ++ typeName ++ "' object is not iterable"
  | .noLength typeName => "object of type '" ++ typeName ++ "' has no len()"
  | .badRepetition => "can't multiply sequence by non-int of type 'float'"
  | .notSubscriptable typeName => "'" ++ typeName ++ "' object is not subscriptable"
  | .badInteger text => "invalid literal for int() with base 10: " ++ quoted text
  | .badDigits base text =>
    "invalid literal for int() with base " ++ Decimal.natText base ++ ": " ++ quoted text
  | .badCode => "chr() arg not in range(0x110000)"
  | .noInteger typeName =>
    "int() argument must be a string, a bytes-like object or a real number, not '" ++ typeName ++ "'"
  | .badFloat text => "could not convert string to float: " ++ quoted text
  | .noFloat typeName => "float() argument must be a string or a real number, not '" ++ typeName ++ "'"
  | .integerTooLarge => "int too large to convert to float"
  | .infiniteInteger => "cannot convert float infinity to integer"
  | .nanInteger => "cannot convert float NaN to integer"
  | .tooManyDigits =>
    "Exceeds the limit (4300 digits) for integer string conversion; " ++
      "use sys.set_int_max_str_digits() to increase the limit"
  | .tooManyDigitsRead count =>
    "Exceeds the limit (4300 digits) for integer string conversion: value has " ++
      Decimal.natText count ++ " digits; use sys.set_int_max_str_digits() to increase the limit"
  | .divisionByZero => "float division by zero"
  | .emptyMinimum => "min() arg is an empty sequence"
  | .cannotRound typeName => "type " ++ typeName ++ " doesn't define __round__ method"
  | .notText index typeName =>
    "sequence item " ++ Decimal.natText index ++ ": expected str instance, " ++ typeName ++ " found"
  | .badOperands operator left right =>
    "unsupported operand type(s) for " ++ operator ++ ": '" ++ left ++ "' and '" ++ right ++ "'"
  | .notOrdered operator left right =>
    "'" ++ operator ++ "' not supported between instances of '" ++ left ++ "' and '" ++ right ++ "'"
  | .stackOverflow => "maximum recursion depth exceeded while calling a Python object"
  | .endless => "the script does not end"
  | .unknownConfigType name => "Unsupported configuration file type: " ++ name
  | .configNotMap path => "Configuration in " ++ path ++ " must be a mapping"
  | .sectionNotMap sectionName path =>
    "Configuration section '" ++ sectionName ++ "' in " ++ path ++ " must be a mapping"
  | .fileMissing path => "[Errno 2] No such file or directory: " ++ quoted path
  | .unknownFormat name => "Unsupported serialization format: " ++ name
  | .malformed => ""
  | .malformedAs format => "Malformed " ++ format ++ " data"
  | .notSerializable typeName => "Object of type " ++ typeName ++ " is not JSON serializable"
  | .notKey typeName => "keys must be str, int, float, bool or None, not " ++ typeName
  | .notRepresentable source => "('cannot represent an object', " ++ source ++ ")"
  | .textIndexOfList => "list indices must be integers or slices, not str"
  | .textIndexOfText => "string indices must be integers, not 'str'"
  | .multipleRoots => "document with multiple roots"
  | .notOneRoot => "Document must have exactly one root."
  | .nameNotText what => what ++ " name must be a string"
  | .badName what reason => "Invalid " ++ what ++ " name: " ++ reason
  | .badComment reason => "Comment text cannot " ++ reason
  | .entityDeclared => "entities are disabled"
  | .isDirectory path => "[Errno 21] Is a directory: " ++ quoted path
  | .notDirectory path => "[Errno 20] Not a directory: " ++ quoted path
  | .nullInPath => "embedded null byte"
  | .reported _ message | .escaping _ message => message

end Fault

end Linework
