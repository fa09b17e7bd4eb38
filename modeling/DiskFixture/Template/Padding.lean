import DiskFixture.Template.FormatSpec

/-!
Filling up to a width. A text is filled up at its sides; a number also between its sign and its
digits, and zeros that fill it up there are grouped like its digits.
-/

namespace DiskFixture.Template

/-- The widest text that is made. -/
def widthLimit : Nat := 268435456

/-- The characters in front of and behind something that `missing` characters are added to. -/
def Alignment.margins (alignment : Alignment) (missing : Nat) : Nat × Nat :=
  match alignment with
  | .left | .inner => (0, missing)
  | .right => (missing, 0)
  | .center => (missing / 2, missing - missing / 2)

/-- The digits `reversed`, the last one first, in groups of at most `size` with `separator` between
them, filled up with zeros to `width`. -/
def groupFrom (size : Nat) (separator : Char) : (fuel width : Nat) → List Char → List Char
  | 0, _, reversed => reversed
  | fuel + 1, width, reversed =>
    let length := min size (max (max reversed.length width) 1)
    let group := reversed.take length ++ List.replicate (length - reversed.length) '0'
    let rest := reversed.drop length
    if rest.isEmpty && width ≤ length then group
    else group ++ separator :: groupFrom size separator fuel (width - length - 1) rest

namespace FormatSpec

/-- The number of digits in a group. -/
def groupSize (spec : FormatSpec) : Nat :=
  if binaryCodes.contains spec.code then 4 else 3

/-- Digits in groups, if the specification asks for them, and filled up with zeros to `width`. -/
def grouped (spec : FormatSpec) (width : Nat) (digits : List Char) : List Char :=
  match spec.grouping with
  | none => List.replicate (width - digits.length) '0' ++ digits
  | some separator =>
    (groupFrom spec.groupSize separator (digits.length + width + 1) width digits.reverse).reverse

def signOf (spec : FormatSpec) (negative : Bool) : List Char :=
  if negative then ['-']
  else match spec.sign with
    | some '+' => ['+']
    | some ' ' => [' ']
    | _ => []

def surround (spec : FormatSpec) (content : List Char) : List Char :=
  let (before, behind) := spec.alignment.margins (spec.width.getD 0 - content.length)
  List.replicate before spec.fill ++ content ++ List.replicate behind spec.fill

/-- A number filled up: its sign, `mark` in front of its digits, the digits, and what comes behind
them. -/
def number (spec : FormatSpec) (negative : Bool) (mark digits behind : List Char) : List Char :=
  let sign := spec.signOf negative
  let width := spec.width.getD 0
  let others := sign.length + mark.length + behind.length
  let zeros := if spec.fill = '0' && spec.alignment = .inner then width - others else 0
  let body := (if digits.isEmpty then [] else spec.grouped zeros digits) ++ behind
  if spec.alignment = .inner then
    let missing := width - (sign.length + mark.length + body.length)
    sign ++ mark ++ List.replicate missing spec.fill ++ body
  else spec.surround (sign ++ mark ++ body)

/-- Refuses to fill up to more than can be made. -/
def checkWidth (spec : FormatSpec) : Except FormatFault Unit :=
  if widthLimit < spec.width.getD 0 then .error .tooWide else .ok ()

end FormatSpec

end DiskFixture.Template
