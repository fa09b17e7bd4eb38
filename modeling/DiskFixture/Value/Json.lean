import DiskFixture.Value
import DiskFixture.Text.Integer
import DiskFixture.Decimal.Double

/-!
Reading values from JSON text. Beyond the standard, `NaN`, `Infinity` and `-Infinity` are numbers.
Of a repeated key the last value counts. An integer with too many digits and lists or objects that
are nested too deep are errors of their own kinds. Two things are assumed: what is read for a lone
surrogate, and how deep is too deep.
-/

namespace DiskFixture.Json

/-- Why a text is not read. -/
inductive Fault where
  | malformed
  | tooLong (digits : Nat)
  | tooDeep (inList : Bool)
  deriving DecidableEq, Repr

/-- What reading at some point of the text gives: a result and the rest of the text. -/
abbrev Reading (α : Type) := Except Fault (α × List Char)

def isSpace (c : Char) : Bool :=
  c == ' ' || c == '\t' || c == '\n' || c == '\r'

def skipSpace (cs : List Char) : List Char :=
  cs.dropWhile isSpace

/-- The rest of `cs` after `word`. -/
def after? : List Char → List Char → Option (List Char)
  | [], cs => some cs
  | _ :: _, [] => none
  | w :: word, c :: cs => if w = c then after? word cs else none

/-- The value of four hexadecimal digits, and the rest. -/
def readHex (cs : List Char) : Reading Nat :=
  match cs with
  | a :: b :: c :: d :: rest =>
    match Text.digitsValue? 16 [a, b, c, d] with
    | some code => .ok (code, rest)
    | none => .error .malformed
  | _ => .error .malformed

def isHighSurrogate (code : Nat) : Bool := 0xD800 ≤ code && code < 0xDC00

def isLowSurrogate (code : Nat) : Bool := 0xDC00 ≤ code && code < 0xE000

/-- What is read for half of a surrogate pair that stands alone. No text of ours can hold the half
itself; that this character takes its place is assumed. -/
def loneSurrogate : Char := '\uFFFD'

/-- The character that an escape with `code` stands for; the second half of a surrogate pair is
taken from the rest. -/
def joinSurrogates (code : Nat) (rest : List Char) : Reading Char :=
  if isHighSurrogate code then
    match rest with
    | '\\' :: 'u' :: more =>
      match readHex more with
      | .ok (low, more) =>
        if isLowSurrogate low then
          .ok (Char.ofNat (0x10000 + (code - 0xD800) * 0x400 + (low - 0xDC00)), more)
        else .ok (loneSurrogate, rest)
      | .error fault => .error fault
    | _ => .ok (loneSurrogate, rest)
  else if isLowSurrogate code then .ok (loneSurrogate, rest)
  else .ok (Char.ofNat code, rest)

def readEscape : List Char → Reading Char
  | '"' :: rest => .ok ('"', rest)
  | '\\' :: rest => .ok ('\\', rest)
  | '/' :: rest => .ok ('/', rest)
  | 'b' :: rest => .ok ('\x08', rest)
  | 'f' :: rest => .ok ('\x0c', rest)
  | 'n' :: rest => .ok ('\n', rest)
  | 'r' :: rest => .ok ('\r', rest)
  | 't' :: rest => .ok ('\t', rest)
  | 'u' :: rest =>
    match readHex rest with
    | .ok (code, more) => joinSurrogates code more
    | .error fault => .error fault
  | _ => .error .malformed

/-- The characters up to the closing quote. Each of the `fuel` steps takes at least one. -/
def readString : Nat → List Char → Reading (List Char)
  | 0, _ => .error .malformed
  | _ + 1, [] => .error .malformed
  | fuel + 1, c :: rest =>
    if c = '"' then .ok ([], rest)
    else if c = '\\' then
      match readEscape rest with
      | .ok (found, more) =>
        match readString fuel more with
        | .ok (tail, more) => .ok (found :: tail, more)
        | .error fault => .error fault
      | .error fault => .error fault
    else if c.toNat < 0x20 then .error .malformed
    else
      match readString fuel rest with
      | .ok (tail, more) => .ok (c :: tail, more)
      | .error fault => .error fault

def takeDigits (cs : List Char) : List Char × List Char :=
  (cs.takeWhile Char.isDigit, cs.dropWhile Char.isDigit)

/-- The digits of a whole number without superfluous zeros, and the rest. -/
def readWhole : List Char → Reading (List Char)
  | '0' :: rest => .ok (['0'], rest)
  | cs =>
    match takeDigits cs with
    | ([], _) => .error .malformed
    | found => .ok found

/-- The digits after a decimal point, if a point and a digit follow. -/
def readFraction (cs : List Char) : List Char × List Char :=
  match cs with
  | '.' :: rest =>
    match takeDigits rest with
    | ([], _) => ([], cs)
    | found => found
  | _ => ([], cs)

/-- An exponent, if a mark and digits follow. -/
def readExponent (cs : List Char) : Option Int × List Char :=
  match cs with
  | mark :: rest =>
    if mark = 'e' || mark = 'E' then
      let (negative, digits) : Bool × List Char :=
        match rest with
        | '+' :: more => (false, more)
        | '-' :: more => (true, more)
        | more => (false, more)
      match takeDigits digits with
      | ([], _) => (none, cs)
      | (found, more) =>
        let size : Int := ((Text.digitsValue? 10 found).getD 0 : Nat)
        (some (if negative then -size else size), more)
    else (none, cs)
  | [] => (none, cs)

/-- A number, after its sign. -/
def readNumber (negative : Bool) (cs : List Char) : Reading Value :=
  match readWhole cs with
  | .error fault => .error fault
  | .ok (whole, rest) =>
    let (fraction, rest) := readFraction rest
    let (exponent, rest) := readExponent rest
    let digits := (Text.digitsValue? 10 (whole ++ fraction)).getD 0
    if fraction.isEmpty && exponent.isNone then
      if Text.digitLimit < whole.length then .error (.tooLong whole.length)
      else .ok (.int (if negative then -(digits : Int) else digits), rest)
    else
      let scale := exponent.getD 0 - fraction.length
      .ok (.float (Decimal.nearestScaled negative digits scale), rest)

/-- The words that stand for a value, and the values. -/
def words : List (String × Value) := [
  ("null", .null), ("true", .bool true), ("false", .bool false),
  ("NaN", .float (0 / 0)), ("Infinity", .float (1 / 0)), ("-Infinity", .float (-1 / 0))]

/-- A value that is no list, object or string. -/
def readAtom (cs : List Char) : Reading Value :=
  match words.findSome? fun (word, value) => (after? word.toList cs).map (value, ·) with
  | some found => .ok found
  | none =>
    match cs with
    | '-' :: rest => readNumber true rest
    | _ => readNumber false cs

mutual

/-- A value, in which lists and objects may be nested `room` deep. Each of the `fuel` steps takes at
least one character. -/
def readValue : (fuel room : Nat) → List Char → Reading Value
  | 0, _, _ => .error .malformed
  | fuel + 1, room, cs =>
    match cs with
    | '"' :: rest =>
      match readString fuel rest with
      | .ok (content, more) => .ok (.text (String.ofList content), more)
      | .error fault => .error fault
    | '[' :: rest =>
      match room with
      | 0 => .error (.tooDeep true)
      | room + 1 =>
        match skipSpace rest with
        | ']' :: more => .ok (.list [], more)
        | more =>
          match readItems fuel room more with
          | .ok (items, more) => .ok (.list items, more)
          | .error fault => .error fault
    | '\x7b' :: rest =>
      match room with
      | 0 => .error (.tooDeep false)
      | room + 1 =>
        match skipSpace rest with
        | '\x7d' :: more => .ok (.object [], more)
        | more =>
          match readMembers fuel room more with
          | .ok (members, more) => .ok (.object (Fields.overlay [] members), more)
          | .error fault => .error fault
    | _ => readAtom cs

def readItems : (fuel room : Nat) → List Char → Reading (List Value)
  | 0, _, _ => .error .malformed
  | fuel + 1, room, cs =>
    match readValue fuel room cs with
    | .error fault => .error fault
    | .ok (item, rest) =>
      match skipSpace rest with
      | ']' :: more => .ok ([item], more)
      | ',' :: more =>
        match readItems fuel room (skipSpace more) with
        | .ok (items, more) => .ok (item :: items, more)
        | .error fault => .error fault
      | _ => .error .malformed

/-- The members of an object up to its closing brace, repeated keys included. -/
def readMembers : (fuel room : Nat) → List Char → Reading (List (String × Value))
  | 0, _, _ => .error .malformed
  | fuel + 1, room, cs =>
    match cs with
    | '"' :: rest =>
      match readString fuel rest with
      | .error fault => .error fault
      | .ok (key, rest) =>
        match skipSpace rest with
        | ':' :: rest =>
          match readValue fuel room (skipSpace rest) with
          | .error fault => .error fault
          | .ok (value, rest) =>
            match skipSpace rest with
            | '\x7d' :: more => .ok ([(String.ofList key, value)], more)
            | ',' :: more =>
              match readMembers fuel room (skipSpace more) with
              | .ok (members, more) => .ok ((String.ofList key, value) :: members, more)
              | .error fault => .error fault
            | _ => .error .malformed
        | _ => .error .malformed
    | _ => .error .malformed

end

/-- How deep lists and objects may be nested. A reader stops where its stack is used up, which
depends on its caller; that this is the depth is assumed. -/
def depthLimit : Nat := 990

def read (text : String) : Except Fault Value :=
  let cs := text.toList
  match readValue (2 * cs.length + 2) depthLimit (skipSpace cs) with
  | .ok (value, rest) => if (skipSpace rest).isEmpty then .ok value else .error .malformed
  | .error fault => .error fault

end DiskFixture.Json
