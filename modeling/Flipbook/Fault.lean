import Flipbook.Value

/-!
Causes for which an operation fails, and their wording.
-/

namespace Flipbook

inductive Fault
  | digitLimit (digits : Nat)
  /-- A whole number with more digits than may be written into a message. -/
  | unwritable
  | nestedTooDeep
  | malformedInteger (quoted : String)
  | notNumeric (kind : Value.Kind)
  | nanToInteger
  | infinityToInteger
  | missingKey (key : String)
  | noNamedFields (kind : Value.Kind)
  | noAttribute (kind : Value.Kind) (member : String)
  | noFrameList
  | notIterable (kind : Value.Kind)
  | notAnEntry (index : Nat)
  | entryLength (index length : Nat)
  | unhashable (kind : Value.Kind)
  | notUnpackable (kind : Value.Kind)
  | tooFewParts (count : Nat)
  | tooManyParts
  | incomparable (operator : String) (left right : Value.Kind)
  | notAStep (kind : Value.Kind)
  | notAPosition (kind : Value.Kind)
  | notAPath (kind : Value.Kind)
  | resourceNotFound (path : Path)
  | imageNotFound (path : Path)
  | isDirectory (path : Path)
  | nameTooLong (path : Path)
  | unidentifiedImage (path : Option Path)
  | malformedJson
  | unreachableUrl
  | malformedUrl
  | disguisedDelimiter (host : String)
  | malformedHost (reason : String)
  | nulInHost
  | notAnObject (kind : Value.Kind)
  /-- A failure of a loader that the caller provides, of a kind of its own. -/
  | raised (kind text : String)
  | unknownAnimation (name : String) (known : List String)
  | pageBuild (identity : String) (cause : Fault)
  | noWorkers
  | poolClosed
  | serviceClosed
  | timeout
  | timeoutOverflow
  | timeoutTurnedNegative
  | timeBeyondClock
  | timeBeyondCalendar
  | yearBeyondWriting
  | nulInPattern
  | nulInPath
  | overlongRange
  | overlongRepetition
  | outOfMemory
  | configuration (reason : String)
  | malformedDefinitionArgument (argument : String)
  | unknownLogLevel (text : String)
  | notALogLevel (text : String)
  | malformedLayout (text : String)
deriving DecidableEq

namespace Fault

def fieldAccess (kind : Value.Kind) : String :=
  match kind with
  | .text => "string indices must be integers, not 'str'"
  | .octets => "byte indices must be integers or slices, not str"
  | .list => "list indices must be integers or slices, not str"
  | kind => "'" ++ kind.name ++ "' object is not subscriptable"

def unknownAnimationText (name : String) (known : List String) : String :=
  let list := String.intercalate ", " known
  "Animation name " ++ name ++ " not found. Known animations: " ++
    (if list = "" then "<none>" else list)

def message : Fault → String
  | digitLimit digits =>
    "Exceeds the limit (4300 digits) for integer string conversion: value has " ++
      toString digits ++ " digits; use sys.set_int_max_str_digits() to increase the limit"
  | unwritable =>
    "Exceeds the limit (4300 digits) for integer string conversion; " ++
      "use sys.set_int_max_str_digits() to increase the limit"
  | nestedTooDeep => "maximum recursion depth exceeded while getting the repr of an object"
  | malformedInteger quoted => "invalid literal for int() with base 10: " ++ quoted
  | notNumeric kind =>
    "int() argument must be a string, a bytes-like object or a real number, not '" ++
      kind.name ++ "'"
  | nanToInteger => "cannot convert float NaN to integer"
  | infinityToInteger => "cannot convert float infinity to integer"
  | missingKey key => Text.quoted key
  | noNamedFields kind => fieldAccess kind
  | noAttribute kind member =>
    "'" ++ kind.name ++ "' object has no attribute '" ++ member ++ "'"
  | noFrameList => "Atlas metadata has no 'frames' list"
  | notIterable kind => "'" ++ kind.name ++ "' object is not iterable"
  | notAnEntry index =>
    "cannot convert dictionary update sequence element #" ++ toString index ++ " to a sequence"
  | entryLength index length =>
    "dictionary update sequence element #" ++ toString index ++ " has length " ++
      toString length ++ "; 2 is required"
  | unhashable kind => "unhashable type: '" ++ kind.name ++ "'"
  | notUnpackable kind => "cannot unpack non-iterable " ++ kind.name ++ " object"
  | tooFewParts count => "not enough values to unpack (expected 2, got " ++ toString count ++ ")"
  | tooManyParts => "too many values to unpack (expected 2)"
  | incomparable operator left right =>
    "'" ++ operator ++ "' not supported between instances of '" ++ left.name ++ "' and '" ++
      right.name ++ "'"
  | notAStep kind => "'" ++ kind.name ++ "' object cannot be interpreted as an integer"
  | notAPosition kind => "tuple indices must be integers or slices, not " ++ kind.name
  | notAPath kind => "expected str, bytes or os.PathLike object, not " ++ kind.name
  | resourceNotFound path => "Atlas resource not found: " ++ path.text
  | imageNotFound path => "Atlas image not found: " ++ path.text
  | isDirectory path => "[Errno 21] Is a directory: " ++ Text.quoted path.text
  | nameTooLong path => "[Errno 36] File name too long: " ++ Text.quoted path.text
  | unidentifiedImage path =>
    match path with
    | some path => "cannot identify image file " ++ Text.quoted path.text
    | none => "cannot identify image data"
  | malformedJson => "malformed JSON"
  | unreachableUrl => "URL cannot be opened"
  | malformedUrl => "Invalid IPv6 URL"
  | disguisedDelimiter host =>
    "netloc '" ++ host ++ "' contains invalid characters under NFKC normalization"
  | malformedHost reason => "encoding with 'idna' codec failed (UnicodeError: " ++ reason ++ ")"
  | nulInHost => "gethostbyname() argument 1 must be encoded string without null bytes, not str"
  | notAnObject kind => "Atlas metadata must be a JSON object, got " ++ kind.name
  | raised _ text => text
  | unknownAnimation name known => unknownAnimationText name known
  | pageBuild identity cause =>
    "Failed to build atlas page for " ++ identity ++ ": " ++ cause.message
  | noWorkers => "max_workers must be greater than 0"
  | poolClosed => "cannot schedule new futures after shutdown"
  | serviceClosed => "AtlasService is closed"
  | timeout => ""
  | timeoutTurnedNegative => "timeout value must be positive"
  | timeoutOverflow => "timestamp too large to convert to C _PyTime_t"
  | timeBeyondClock => "timestamp out of range for platform time_t"
  | timeBeyondCalendar => "[Errno 75] Value too large for defined data type"
  | yearBeyondWriting => "signed integer is greater than maximum"
  | nulInPattern => "embedded null character"
  | nulInPath => "embedded null byte"
  | overlongRange => "Python int too large to convert to C ssize_t"
  | overlongRepetition => "cannot fit 'int' into an index-sized integer"
  | outOfMemory => ""
  | configuration reason => reason
  | malformedDefinitionArgument argument =>
    "expected NAME=DEFINITION, got " ++ Text.quoted argument
  | unknownLogLevel text => "Unknown level: " ++ Text.quoted text
  | notALogLevel text => "Level not an integer or a valid string: " ++ text
  | malformedLayout text => "Invalid format '" ++ text ++ "' for '%' style"

end Fault

end Flipbook
