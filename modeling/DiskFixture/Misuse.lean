import DiskFixture.Signature
import DiskFixture.Template.Fault
import DiskFixture.Text.Integer
import DiskFixture.Text.Utf8
import DiskFixture.Value.Text

/-!
Values and calls that cannot be used: a partition description that describes nothing, a setting of
the wrong kind, a message that cannot be written. Each has a text and the name of its class.
-/

namespace DiskFixture

inductive Misuse where
  | filesystemAbsent
  | sizeNotInteger (size : Value)
  | sizeNotPositive (size : Int)
  | readOnly (field : String)
  | notErasable (field : String)
  | identifierLength
  | identifierDigits (digits : String)
  | notIterable (kind : String)
  | notText (position : Nat) (kind : String)
  | notSearchable (kind : String)
  | notPath (kind : String)
  | notInteger (kind : String)
  | lacks (kind name : String)
  | arguments (fault : ArgumentFault)
  | nullInPath
  | homeless
  | infiniteInteger
  | tooManyDigits (digits : Nat)
  | unwritableInteger
  | tooDeep (inList : Bool)
  | negativePosition (position : Int)
  | positionTooLarge
  | requestTooLarge
  | amountTooLarge
  | blockTooLarge
  | outOfMemory
  | undecodable (fault : Text.Utf8.Fault)
  | template (fault : Template.TemplateFault)
  | repeatedDetail (name : String)
  | unknownLevel (name : String)
  | negativeLevel (number : Int)
  | notLevel (kind : String)

namespace Misuse

/-- The most characters that are shown of a text that is no number, quote included. -/
def quotedLimit : Nat := 200

def message : Misuse → String
  | .filesystemAbsent => "Filesystem type is required"
  | .sizeNotInteger size => "Partition size must be an integer MiB count: " ++ size.written
  | .sizeNotPositive size => "Partition size must be positive: " ++ toString size
  | .readOnly field => "cannot assign to field " ++ Text.quoted field
  | .notErasable field => "cannot delete field " ++ Text.quoted field
  | .identifierLength => "badly formed hexadecimal UUID string"
  | .identifierDigits digits =>
    "invalid literal for int() with base 16: "
      ++ String.ofList ((Text.quoted digits).toList.take quotedLimit)
  | .notIterable kind => "'" ++ kind ++ "' object is not iterable"
  | .notText position kind =>
    "sequence item " ++ toString position ++ ": expected str instance, " ++ kind ++ " found"
  | .notSearchable kind => "argument of type '" ++ kind ++ "' is not iterable"
  | .notPath kind => "expected str, bytes or os.PathLike object, not " ++ kind
  | .notInteger kind => "'" ++ kind ++ "' object cannot be interpreted as an integer"
  | .lacks kind name => "'" ++ kind ++ "' object has no attribute '" ++ name ++ "'"
  | .arguments fault => fault.message
  | .nullInPath => "embedded null byte"
  | .homeless => "Could not determine home directory."
  | .infiniteInteger => "cannot convert float infinity to integer"
  | .tooManyDigits digits =>
    "Exceeds the limit (" ++ toString Text.digitLimit
      ++ " digits) for integer string conversion: value has " ++ toString digits
      ++ " digits; use sys.set_int_max_str_digits() to increase the limit"
  | .unwritableInteger =>
    "Exceeds the limit (" ++ toString Text.digitLimit
      ++ " digits) for integer string conversion; use sys.set_int_max_str_digits() to increase the "
      ++ "limit"
  | .tooDeep inList =>
    "maximum recursion depth exceeded while decoding a JSON "
      ++ (if inList then "array" else "object") ++ " from a unicode string"
  | .negativePosition position => "negative seek value " ++ toString position
  | .positionTooLarge => "Python int too large to convert to C ssize_t"
  | .requestTooLarge | .amountTooLarge => "cannot fit 'int' into an index-sized integer"
  | .blockTooLarge => "byte string is too large"
  | .outOfMemory => ""
  | .undecodable fault => fault.text
  | .template fault => fault.message
  | .repeatedDetail name =>
    "loguru._logger.Logger.contextualize() got multiple values for keyword argument "
      ++ Text.quoted name
  | .unknownLevel name => "Level '" ++ name ++ "' does not exist"
  | .negativeLevel number =>
    "Invalid level value, it should be a positive integer, not: " ++ toString number
  | .notLevel kind =>
    "Invalid level, it should be an integer or a string, not: '" ++ kind ++ "'"

def kind : Misuse → String
  | .filesystemAbsent | .sizeNotInteger _ | .sizeNotPositive _ | .identifierLength
  | .identifierDigits _ | .tooManyDigits _ | .unwritableInteger | .nullInPath
  | .unknownLevel _ | .negativeLevel _ | .negativePosition _ | .amountTooLarge => "ValueError"
  | .readOnly _ | .notErasable _ => "FrozenInstanceError"
  | .notIterable _ | .notSearchable _ | .notText _ _ | .notPath _ | .notInteger _ | .notLevel _
  | .arguments _ | .repeatedDetail _ => "TypeError"
  | .lacks _ _ => "AttributeError"
  | .infiniteInteger | .positionTooLarge | .requestTooLarge | .blockTooLarge => "OverflowError"
  | .outOfMemory => "MemoryError"
  | .tooDeep _ => "RecursionError"
  | .homeless => "RuntimeError"
  | .undecodable _ => "UnicodeDecodeError"
  | .template fault => fault.kind

end Misuse

end DiskFixture
