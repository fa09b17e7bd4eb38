import DiskFixture.Text.Digit

/-!
Decoding UTF-8. A fault names the bytes that cannot be decoded and the reason: a byte that starts no
character, a byte that does not continue the character begun, or an end in the middle of one.
Overlong forms and surrogates count as bytes that do not continue.
-/

namespace DiskFixture.Text.Utf8

/-- Why bytes cannot be decoded. -/
inductive Reason where
  | start
  | continuation
  | unfinished
  deriving DecidableEq, Repr

/-- The bytes from `first` up to but not including `past` cannot be decoded; `byte` is the first of
them. -/
structure Fault where
  first : Nat
  past : Nat
  byte : UInt8
  reason : Reason
  deriving DecidableEq, Repr

def Reason.text : Reason → String
  | .start => "invalid start byte"
  | .continuation => "invalid continuation byte"
  | .unfinished => "unexpected end of data"

def Fault.text (fault : Fault) : String :=
  let bytes :=
    if fault.past = fault.first + 1 then
      "byte 0x" ++ String.ofList (hexDigits 2 fault.byte.toNat) ++ " in position "
        ++ toString fault.first
    else "bytes in position " ++ toString fault.first ++ "-" ++ toString (fault.past - 1)
  "'utf-8' codec can't decode " ++ bytes ++ ": " ++ fault.reason.text

/-- What a first byte announces: the number of bytes that follow, the range of the next one, and
its share of the code point. -/
structure Lead where
  more : Nat
  low : UInt8
  high : UInt8
  share : Nat

/-- The announcement of a first byte; none for a byte that starts no character. -/
def lead? (byte : UInt8) : Option Lead :=
  let code := byte.toNat
  if code < 0x80 then some ⟨0, 0x80, 0xBF, code⟩
  else if code < 0xC2 then none
  else if code < 0xE0 then some ⟨1, 0x80, 0xBF, code - 0xC0⟩
  else if code < 0xF0 then
    some ⟨2, if code = 0xE0 then 0xA0 else 0x80, if code = 0xED then 0x9F else 0xBF, code - 0xE0⟩
  else if code < 0xF5 then
    some ⟨3, if code = 0xF0 then 0x90 else 0x80, if code = 0xF4 then 0x8F else 0xBF, code - 0xF0⟩
  else none

/-- Reads `more` continuation bytes, the next one between `low` and `high`. An error is the number
of bytes read before it and its reason. -/
def continuation (more : Nat) (low high : UInt8) (share : Nat) (done : Nat) :
    List UInt8 → Except (Nat × Reason) (Nat × Nat)
  | bytes =>
    match more, bytes with
    | 0, _ => .ok (share, done)
    | _ + 1, [] => .error (done, .unfinished)
    | more + 1, byte :: rest =>
      if low ≤ byte && byte ≤ high then
        continuation more 0x80 0xBF (share * 64 + (byte.toNat - 0x80)) (done + 1) rest
      else .error (done, .continuation)

/-- Decodes `bytes`, of which the first stands at `position`; `skip` of them belong to the character
before. -/
def decodeFrom (position skip : Nat) : List UInt8 → Except Fault (List Char)
  | [] => .ok []
  | byte :: rest =>
    match skip with
    | skip + 1 => decodeFrom (position + 1) skip rest
    | 0 =>
      match lead? byte with
      | none => .error ⟨position, position + 1, byte, .start⟩
      | some lead =>
        match continuation lead.more lead.low lead.high lead.share 1 rest with
        | .ok (code, done) =>
          (decodeFrom (position + 1) (done - 1) rest).map (Char.ofNat code :: ·)
        | .error (_, .unfinished) =>
          .error ⟨position, position + 1 + rest.length, byte, .unfinished⟩
        | .error (done, reason) => .error ⟨position, position + done, byte, reason⟩

/-- The text that `bytes` encode, or the first fault. -/
def decode (bytes : ByteArray) : Except Fault String :=
  (decodeFrom 0 0 bytes.data.toList).map String.ofList

example : (decode ⟨#[0xE6, 0x97, 0xA5]⟩).toOption = some "日" := by decide +kernel
example : Fault.text ⟨2, 4, 0xE3, .continuation⟩
    = "'utf-8' codec can't decode bytes in position 2-3: invalid continuation byte" := by
  decide +kernel

end DiskFixture.Text.Utf8
