import DiskFixture.Text.Digit

/-!
Format specifications: how a value is filled up, signed, grouped and rounded when a template shows
it. A specification is written as marks in a fixed order, each of which may be missing:

    [[fill]alignment][sign][z][#][0][width][grouping][.precision][code]

Reading one says which marks there are; whether a kind of value can do with them is decided where
the value is shown.
-/

namespace DiskFixture.Template

/-- Where what is filled up stands. -/
inductive Alignment where
  | left
  | right
  | center
  /-- The filling comes between the sign and the digits of a number. -/
  | inner
  deriving DecidableEq, Repr

/-- The alignment that a mark asks for. -/
def Alignment.ofMark? : Char → Option Alignment
  | '<' => some .left
  | '>' => some .right
  | '^' => some .center
  | '=' => some .inner
  | _ => none

/-- What a text cannot do with. -/
inductive TextRefusal where
  | space
  | sign
  | positiveZero
  | alternate
  | innerAlignment
  deriving DecidableEq, Repr

inductive FormatFault where
  | countTooLarge
  | bothGroupings
  | precisionAbsent
  | malformed (spec kind : String)
  | groupingRefused (mark code : Char)
  | unknownCode (code : Char) (kind : String)
  | text (refusal : TextRefusal)
  | integerPrecision
  | integerPositiveZero
  | characterSign
  | characterAlternate
  | characterBeyondWord
  | characterBeyondRange
  | integerBeyondFloat
  | precisionTooLarge
  | unsupported (kind : String)
  | tooFine
  | tooWide
  deriving DecidableEq, Repr

structure FormatSpec where
  /-- The character that fills up. -/
  fill : Char
  alignment : Alignment
  /-- The sign mark: a plus sign, a hyphen or a space. -/
  sign : Option Char
  /-- Whether a zero is shown without its sign. -/
  positiveZero : Bool
  /-- Whether the base of an integer and the point of a number are always shown. -/
  alternate : Bool
  width : Option Nat
  /-- The character between groups of digits. -/
  grouping : Option Char
  precision : Option Nat
  /-- The letter that says how the value is shown. -/
  code : Char
  deriving DecidableEq, Repr

/-- What stands in a specification that does not say more: how values of a kind are aligned, and
their code. -/
structure FormatDefault where
  kind : String
  alignment : Alignment
  code : Char

/-- The largest number that a specification may hold. -/
def countLimit : Nat := 9223372036854775807

/-- The value of `cs` as decimal digits, of any script. -/
def decimalOf (cs : List Char) : Nat :=
  cs.foldl (fun value c => 10 * value + (Text.decimalValue? c).getD 0) 0

def isDecimal (c : Char) : Bool := (Text.decimalValue? c).isSome

namespace FormatSpec

/-- The fill character and the alignment at the start of `cs`, and the rest. -/
def readAlignment (cs : List Char) : Option Char × Option Alignment × List Char :=
  match cs with
  | [] => (none, none, [])
  | first :: rest =>
    match rest.head?.bind Alignment.ofMark? with
    | some alignment => (some first, some alignment, rest.tail)
    | none =>
      match Alignment.ofMark? first with
      | some alignment => (none, some alignment, rest)
      | none => (none, none, cs)

/-- Whether `cs` starts with `mark`, and the rest. -/
def takeMark (mark : Char) (cs : List Char) : Bool × List Char :=
  if cs.head? = some mark then (true, cs.tail) else (false, cs)

/-- The sign mark at the start of `cs`, and the rest. -/
def readSign (cs : List Char) : Option Char × List Char :=
  match cs with
  | mark :: rest =>
    if mark = '+' || mark = '-' || mark = ' ' then (some mark, rest) else (none, cs)
  | [] => (none, [])

/-- The number at the start of `cs`, and the rest. -/
def readCount (cs : List Char) : Except FormatFault (Option Nat × List Char) :=
  match cs.takeWhile isDecimal with
  | [] => .ok (none, cs)
  | digits =>
    if countLimit < decimalOf digits then .error .countTooLarge
    else .ok (some (decimalOf digits), cs.dropWhile isDecimal)

/-- The grouping mark at the start of `cs`, and the rest. -/
def readGrouping : List Char → Except FormatFault (Option Char × List Char)
  | ',' :: '_' :: _ | '_' :: ',' :: _ => .error .bothGroupings
  | ',' :: rest => .ok (some ',', rest)
  | '_' :: rest => .ok (some '_', rest)
  | cs => .ok (none, cs)

/-- The precision at the start of `cs`, after its point, and the rest. -/
def readPrecision (cs : List Char) : Except FormatFault (Option Nat × List Char) :=
  match cs with
  | '.' :: rest =>
    match readCount rest with
    | .ok (none, _) => .error .precisionAbsent
    | found => found
  | _ => .ok (none, cs)

/-- The codes whose digits can be grouped by threes. -/
def decimalCodes : List Char := ['d', 'e', 'f', 'g', 'E', 'G', '%', 'F', '\x00']

/-- The codes whose digits can be grouped by fours. -/
def binaryCodes : List Char := ['b', 'o', 'x', 'X']

/-- Whether digits shown by a code can be grouped by a mark. -/
def allowsGrouping (mark code : Char) : Bool :=
  decimalCodes.contains code || (mark == '_' && binaryCodes.contains code)

/-- The specification that `cs` holds for a value of the kind of `default`. -/
def read (default : FormatDefault) (cs : List Char) : Except FormatFault FormatSpec := do
  let (fill, alignment, rest) := readAlignment cs
  let (sign, rest) := readSign rest
  let (positiveZero, rest) := takeMark 'z' rest
  let (alternate, rest) := takeMark '#' rest
  let (zeros, rest) := if fill.isNone then takeMark '0' rest else (false, rest)
  let (width, rest) ← readCount rest
  let (grouping, rest) ← readGrouping rest
  let (precision, rest) ← readPrecision rest
  let code ← match rest with
    | [] => .ok default.code
    | [code] => .ok code
    | _ => .error (.malformed (String.ofList cs) default.kind)
  match grouping with
  | some mark => unless allowsGrouping mark code do throw (.groupingRefused mark code)
  | none => pure ()
  let usual := if zeros && default.alignment = .right then .inner else default.alignment
  return { fill := fill.getD (if zeros then '0' else ' '), alignment := alignment.getD usual,
           sign, positiveZero, alternate, width, grouping, precision, code }

end FormatSpec

end DiskFixture.Template
