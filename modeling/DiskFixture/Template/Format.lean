import DiskFixture.Decimal.Places
import DiskFixture.Template.Padding
import DiskFixture.Value.Text

/-!
Values shown by a format specification. Texts are cut and filled up, integers are shown in a base or
as a character or like floats, floats in one of the styles of decimal numbers. Other values can be
shown only without a specification.
-/

namespace DiskFixture.Template

def textDefault : FormatDefault := ⟨"str", .left, 's'⟩

def integerDefault (kind : String) : FormatDefault := ⟨kind, .right, 'd'⟩

def floatDefault : FormatDefault := ⟨"float", .right, '\x00'⟩

/-- The first of the marks that a text cannot do with. -/
def FormatSpec.textRefusal? (spec : FormatSpec) : Option TextRefusal :=
  if spec.sign = some ' ' then some .space
  else if spec.sign.isSome then some .sign
  else if spec.positiveZero then some .positiveZero
  else if spec.alternate then some .alternate
  else if spec.alignment = .inner then some .innerAlignment
  else none

/-- A text shown by a specification, which may cut it. -/
def formatText (cs : List Char) (spec : FormatSpec) : Except FormatFault (List Char) :=
  if spec.code = 's' then
    match spec.textRefusal? with
    | some refusal => .error (.text refusal)
    | none => do
      spec.checkWidth
      return spec.surround (match spec.precision with
        | none => cs
        | some length => cs.take length)
  else .error (.unknownCode spec.code textDefault.kind)

/-- The style of floats that a specification asks for, if its code has one. -/
def FormatSpec.style? (spec : FormatSpec) : Option Decimal.Style :=
  let precision := spec.precision.getD 6
  match spec.code with
  | 'e' | 'E' => some (.scientific precision)
  | 'f' | 'F' | '%' => some (.fixed precision)
  | 'g' | 'G' | 'n' => some (.general precision false)
  | '\x00' => some (spec.precision.elim .shortest (.general · true))
  | _ => none

def isUpperCode (code : Char) : Bool := code == 'E' || code == 'F' || code == 'G'

/-- The digits in front of the point, and what follows them. -/
def splitWhole (body : List Char) : List Char × List Char :=
  (body.takeWhile Char.isDigit, body.dropWhile Char.isDigit)

/-- The largest precision of a float. -/
def precisionLimit : Nat := 2147483647

def formatDouble (double : Decimal.Double) (spec : FormatSpec) (style : Decimal.Style) :
    List Char :=
  let (negative, body) : Bool × List Char :=
    match double with
    | .nan => (false, ['n', 'a', 'n'])
    | .infinite negative => (negative, ['i', 'n', 'f'])
    | .finite negative significand exponent =>
      let number := style.digits significand exponent
      (negative && !(spec.positiveZero && number.isZero), style.layout spec.alternate number)
  let cased := if isUpperCode spec.code then body.map Char.toUpper else body
  let (whole, behind) := splitWhole cased
  spec.number negative [] whole (if spec.code = '%' then behind ++ ['%'] else behind)

/-- A float shown by a specification; `kind` is that of the value it comes from. -/
def formatFloat (kind : String) (x : Float) (spec : FormatSpec) : Except FormatFault (List Char) :=
  match spec.style? with
  | none => .error (.unknownCode spec.code kind)
  | some style => do
    if precisionLimit < spec.precision.getD 0 then throw .precisionTooLarge
    if widthLimit < spec.precision.getD 0 then throw .tooWide
    spec.checkWidth
    return formatDouble (.ofFloat (if spec.code = '%' then x * 100 else x)) spec style

/-- The base of the integers that a code shows, if it shows integers. -/
def baseOf? : Char → Option Nat
  | 'b' => some 2
  | 'o' => some 8
  | 'x' | 'X' => some 16
  | 'd' | 'n' => some 10
  | _ => none

/-- What stands in front of the digits of a base. -/
def baseMark : Char → List Char
  | 'b' => ['0', 'b']
  | 'o' => ['0', 'o']
  | 'x' => ['0', 'x']
  | 'X' => ['0', 'X']
  | _ => []

/-- The character with a number, shown by a specification. -/
def formatCharacter (number : Int) (spec : FormatSpec) : Except FormatFault (List Char) := do
  if spec.sign.isSome then throw .characterSign
  if spec.alternate then throw .characterAlternate
  if number < -9223372036854775808 || 9223372036854775807 < number then throw .characterBeyondWord
  if number < 0 || 0x10FFFF < number then throw .characterBeyondRange
  spec.checkWidth
  return spec.number false [] [] [Char.ofNat number.toNat]

/-- The integer in a base, shown by a specification. -/
def formatDigits (number : Int) (base : Nat) (spec : FormatSpec) :
    Except FormatFault (List Char) := do
  spec.checkWidth
  let digits := Nat.toDigits base number.natAbs
  let cased := if spec.code = 'X' then digits.map Char.toUpper else digits
  return spec.number (number < 0) (if spec.alternate then baseMark spec.code else []) cased []

/-- An integer shown by a specification; `kind` is that of the value it comes from. -/
def formatInteger (kind : String) (number : Int) (spec : FormatSpec) :
    Except FormatFault (List Char) :=
  if spec.code = 'c' || (baseOf? spec.code).isSome then do
    if spec.precision.isSome then throw .integerPrecision
    if spec.positiveZero then throw .integerPositiveZero
    match baseOf? spec.code with
    | some base => formatDigits number base spec
    | none => formatCharacter number spec
  else if spec.style?.isNone || spec.code = '\x00' then .error (.unknownCode spec.code kind)
  else
    let x := Decimal.nearest (number < 0) number.natAbs 1
    match Decimal.Double.ofFloat x with
    | .infinite _ => .error .integerBeyondFloat
    | _ => formatFloat kind x spec

end Template

open Template

/-- A value shown by a format specification; without one, as it stands within a message. -/
def Value.format (value : Value) (spec : List Char) : Except FormatFault (List Char) :=
  if spec.isEmpty then .ok value.shown.toList
  else
    match value with
    | .text content => FormatSpec.read textDefault spec >>= formatText content.toList
    | .bool holds =>
      FormatSpec.read (integerDefault "bool") spec >>= formatInteger "bool" (if holds then 1 else 0)
    | .int number => FormatSpec.read (integerDefault "int") spec >>= formatInteger "int" number
    | .float x => FormatSpec.read floatDefault spec >>= formatFloat "float" x
    | other => .error (.unsupported other.kind)

end DiskFixture
