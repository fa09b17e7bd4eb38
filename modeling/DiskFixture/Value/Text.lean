import DiskFixture.Value
import DiskFixture.Text.Quoted
import DiskFixture.Decimal.Shortest

/-!
The two texts of a value. Its written form quotes text and puts lists and objects in brackets; its
shown form is the same, except that a text shows itself.
-/

namespace DiskFixture

mutual

/-- The value as it would be written down in full. -/
def Value.written : Value → String
  | .null => "None"
  | .bool holds => if holds then "True" else "False"
  | .int number => toString number
  | .float number => Decimal.floatText number
  | .text content => Text.quoted content
  | .list items => "[" ++ ", ".intercalate (writtenItems items) ++ "]"
  | .object fields => "\x7b" ++ ", ".intercalate (writtenFields fields) ++ "\x7d"

def writtenItems : List Value → List String
  | [] => []
  | item :: rest => item.written :: writtenItems rest

def writtenFields : List (String × Value) → List String
  | [] => []
  | (name, value) :: rest => (Text.quoted name ++ ": " ++ value.written) :: writtenFields rest

end

/-- The value as it stands within a message. -/
def Value.shown : Value → String
  | .text content => content
  | value => value.written

/-- The text of an error that was given these arguments: nothing, the one argument, or all of them
written in parentheses. -/
def shownArguments : List Value → String
  | [] => ""
  | [value] => value.shown
  | values => "(" ++ ", ".intercalate (writtenItems values) ++ ")"

end DiskFixture
