import DiskFixture.Value.Text
import DiskFixture.Text.Digit

/-!
Writing values as JSON text, on one line. Beyond the standard, floats that are no numbers are
written as `NaN`, `Infinity` and `-Infinity`.
-/

namespace DiskFixture

namespace Json

/-- A character within a JSON string. -/
def escaped (c : Char) : List Char :=
  if c = '"' ∨ c = '\\' then ['\\', c]
  else if c = '\n' then ['\\', 'n']
  else if c = '\r' then ['\\', 'r']
  else if c = '\t' then ['\\', 't']
  else if c = '\x0c' then ['\\', 'f']
  else if c = '\x08' then ['\\', 'b']
  else if c.toNat < 32 then '\\' :: 'u' :: Text.hexDigits 4 c.toNat
  else [c]

def stringText (text : String) : String :=
  "\"" ++ String.ofList (text.toList.flatMap escaped) ++ "\""

def floatText (x : Float) : String :=
  match Decimal.floatText x with
  | "nan" => "NaN"
  | "inf" => "Infinity"
  | "-inf" => "-Infinity"
  | text => text

end Json

mutual

def Value.json : Value → String
  | .null => "null"
  | .bool holds => if holds then "true" else "false"
  | .int number => toString number
  | .float x => Json.floatText x
  | .text content => Json.stringText content
  | .list items => "[" ++ ", ".intercalate (jsonItems items) ++ "]"
  | .object fields => "\x7b" ++ ", ".intercalate (jsonFields fields) ++ "\x7d"

def jsonItems : List Value → List String
  | [] => []
  | item :: rest => item.json :: jsonItems rest

def jsonFields : List (String × Value) → List String
  | [] => []
  | (name, value) :: rest => (Json.stringText name ++ ": " ++ value.json) :: jsonFields rest

end

end DiskFixture
