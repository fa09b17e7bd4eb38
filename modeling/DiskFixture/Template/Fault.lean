import DiskFixture.Template.FormatSpec
import DiskFixture.Text.Quoted

/-!
Why a template cannot be filled in: it is not well formed, a field finds no value, or the value
cannot be shown as the field asks. Each cause has a text and the name of its class.
-/

namespace DiskFixture.Template

inductive TemplateFault where
  | singleClose
  | singleOpen
  | unclosed
  | nestedOpen
  | conversionAbsent
  | looseConversion
  | unclosedFormat
  | nestedTooDeep
  | countTooLarge
  | emptyPart
  | unclosedItem
  | looseItem
  | missing (name : String)
  | missingItem (index : Nat)
  | noPosition (index : Nat)
  | positionsRefused
  | listEnd
  | textEnd
  | listKey
  | textKey
  | rowEnd
  | rowKey
  | notGeneric (written : String)
  | noItems (kind : String)
  | kindItems (kind : String)
  | noAttribute (kind name : String)
  | noKindAttribute (kind name : String)
  | unset (name : String)
  | unknownConversion (mark : Char)
  | format (fault : FormatFault)
  deriving DecidableEq, Repr

/-- A character within a text about it: itself, if it is one of ASCII that can be seen. -/
def namedChar (limit : Nat) (c : Char) : String :=
  if 32 < c.toNat && c.toNat < limit then String.singleton c
  else "\\x" ++ String.ofList (Nat.toDigits 16 c.toNat)

def TextRefusal.message : TextRefusal → String
  | .space => "Space not allowed in string format specifier"
  | .sign => "Sign not allowed in string format specifier"
  | .positiveZero => "Negative zero coercion (z) not allowed in string format specifier"
  | .alternate => "Alternate form (#) not allowed in string format specifier"
  | .innerAlignment => "'=' alignment not allowed in string format specifier"

namespace FormatFault

def message : FormatFault → String
  | .countTooLarge => "Too many decimal digits in format string"
  | .bothGroupings => "Cannot specify both ',' and '_'."
  | .precisionAbsent => "Format specifier missing precision"
  | .malformed spec kind =>
    "Invalid format specifier '" ++ spec ++ "' for object of type '" ++ kind ++ "'"
  | .groupingRefused mark code =>
    "Cannot specify '" ++ String.singleton mark ++ "' with '" ++ namedChar 128 code ++ "'."
  | .unknownCode code kind =>
    "Unknown format code '" ++ namedChar 128 code ++ "' for object of type '" ++ kind ++ "'"
  | .text refusal => refusal.message
  | .integerPrecision => "Precision not allowed in integer format specifier"
  | .integerPositiveZero => "Negative zero coercion (z) not allowed in integer format specifier"
  | .characterSign => "Sign not allowed with integer format specifier 'c'"
  | .characterAlternate => "Alternate form (#) not allowed with integer format specifier 'c'"
  | .characterBeyondWord => "Python int too large to convert to C long"
  | .characterBeyondRange => "%c arg not in range(0x110000)"
  | .integerBeyondFloat => "int too large to convert to float"
  | .precisionTooLarge => "precision too big"
  | .unsupported kind => "unsupported format string passed to " ++ kind ++ ".__format__"
  | .tooFine =>
    "Invalid time format: the provided format string contains more than six successive 'S' "
      ++ "characters. This may be due to an attempt to use nanosecond precision, which is not "
      ++ "supported."
  | .tooWide => ""

def kind : FormatFault → String
  | .characterBeyondWord | .characterBeyondRange | .integerBeyondFloat => "OverflowError"
  | .unsupported _ => "TypeError"
  | .tooWide => "MemoryError"
  | _ => "ValueError"

end FormatFault

namespace TemplateFault

def message : TemplateFault → String
  | .singleClose => "Single '\x7d' encountered in format string"
  | .singleOpen => "Single '\x7b' encountered in format string"
  | .unclosed => "expected '\x7d' before end of string"
  | .nestedOpen => "unexpected '\x7b' in field name"
  | .conversionAbsent => "end of string while looking for conversion specifier"
  | .looseConversion => "expected ':' after conversion specifier"
  | .unclosedFormat => "unmatched '\x7b' in format spec"
  | .nestedTooDeep => "Max string recursion exceeded"
  | .countTooLarge => "Too many decimal digits in format string"
  | .emptyPart => "Empty attribute in format string"
  | .unclosedItem => "Missing ']' in format string"
  | .looseItem => "Only '.' or '[' may follow ']' in format field specifier"
  | .missing name => Text.quoted name
  | .missingItem index => toString index
  | .noPosition index =>
    "Replacement index " ++ toString index ++ " out of range for positional args tuple"
  | .positionsRefused => "Format string contains positional fields"
  | .listEnd => "list index out of range"
  | .textEnd => "string index out of range"
  | .listKey => "list indices must be integers or slices, not str"
  | .textKey => "string indices must be integers, not 'str'"
  | .rowEnd => "tuple index out of range"
  | .rowKey => "tuple indices must be integers or slices, not str"
  | .notGeneric written => written ++ " is not a generic class"
  | .noItems kind => "'" ++ kind ++ "' object is not subscriptable"
  | .kindItems kind => "type '" ++ kind ++ "' is not subscriptable"
  | .noAttribute kind name => "'" ++ kind ++ "' object has no attribute '" ++ name ++ "'"
  | .noKindAttribute kind name => "type object '" ++ kind ++ "' has no attribute '" ++ name ++ "'"
  | .unset name => name
  | .unknownConversion mark => "Unknown conversion specifier " ++ namedChar 127 mark
  | .format fault => fault.message

def kind : TemplateFault → String
  | .missing _ | .missingItem _ => "KeyError"
  | .noPosition _ | .listEnd | .textEnd | .rowEnd => "IndexError"
  | .listKey | .textKey | .rowKey | .notGeneric _ | .noItems _ | .kindItems _ => "TypeError"
  | .noAttribute _ _ | .noKindAttribute _ _ | .unset _ => "AttributeError"
  | .format fault => fault.kind
  | _ => "ValueError"

end TemplateFault

end DiskFixture.Template
