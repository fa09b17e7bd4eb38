import DiskFixture.Text.Blank
import DiskFixture.Text.Digit

/-!
Integers written as text. A reading allows spaces around the number, a sign, decimal digits of any
script and single underscores between digits; in base sixteen also a leading `0x`. A decimal number
has at most 4300 digits.
-/

namespace DiskFixture.Text

/-- Why a text is not read as an integer. -/
inductive IntegerFault where
  | malformed
  | tooLong (digits : Nat)
  deriving DecidableEq, Repr

/-- The most digits that a decimal number may have. -/
def digitLimit : Nat := 4300

/-- Whether an integer has few enough digits to be written as text. -/
def isWritable (number : Int) : Bool := number.natAbs < Nat.pow 10 digitLimit

/-- A character as the reader sees it: digits of any script are ASCII digits, blanks beyond ASCII
are spaces, and everything else beyond ASCII is refused later on. -/
def asciiForm (c : Char) : Char :=
  if c.toNat < 127 then c
  else if isBlank c then ' '
  else match decimalValue? c with
    | some value => Char.ofNat ('0'.toNat + value)
    | none => '?'

/-- The spaces that may surround a number. -/
def isMargin (c : Char) : Bool :=
  c == ' ' || (9 ≤ c.toNat && c.toNat ≤ 13)

/-- The value of `cs` as digits in `base`, the first digit weighing most. -/
def digitsValue? (base : Nat) (cs : List Char) : Option Nat :=
  cs.foldlM (fun value c =>
    match alphanumericValue? c with
    | some digit => if digit < base then some (value * base + digit) else none
    | none => none) 0

/-- The digits of `cs`, in which single underscores may separate groups of digits. -/
def ungrouped? (cs : List Char) : Option (List Char) :=
  let groups := pieces (· == '_') cs
  if groups.all (!·.isEmpty) then some groups.flatten else none

/-- `cs` without the mark of base sixteen, which one underscore may follow. -/
def dropBaseMark (base : Nat) : List Char → List Char
  | '0' :: mark :: rest =>
    if base = 16 && (mark == 'x' || mark == 'X') then
      match rest with
      | '_' :: digits => digits
      | _ => rest
    else '0' :: mark :: rest
  | cs => cs

def readNatural (base : Nat) (cs : List Char) : Except IntegerFault Nat :=
  match ungrouped? (dropBaseMark base cs) with
  | none => .error .malformed
  | some digits =>
    match digitsValue? base digits with
    | none => .error .malformed
    | some value =>
      if base = 10 && digitLimit < digits.length then .error (.tooLong digits.length)
      else .ok value

/-- An integer in `base`, ten or sixteen. -/
def readInteger (base : Nat) (text : String) : Except IntegerFault Int :=
  match trim isMargin (text.toList.map asciiForm) with
  | '-' :: cs => (readNatural base cs).map fun value => -(value : Int)
  | '+' :: cs => (readNatural base cs).map fun value => (value : Int)
  | cs => (readNatural base cs).map fun value => (value : Int)

example : (readInteger 10 " 1_000 ").toOption = some 1000 := by decide +kernel
example : (readInteger 10 "1__0").toOption = none := by decide +kernel
example : (readInteger 16 "+0x_Ff").toOption = some 255 := by decide +kernel

end DiskFixture.Text
