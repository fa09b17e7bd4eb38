import DiskFixture.Template.Fault

/-!
Templates taken apart. A template is a row of characters and fields in braces; doubled braces stand
for themselves. A field has a name, perhaps a mark for its conversion and perhaps a format
specification, in which braces may be nested. A template that is not well formed has the pieces in
front of the place where it breaks off, and the fault. Main statement: without braces, the pieces
are the characters.
-/

namespace DiskFixture.Template

/-- A field in braces: its name, its conversion mark and its format specification. -/
structure Field where
  name : List Char
  mark : Option Char
  spec : List Char
  deriving DecidableEq, Repr

inductive Piece where
  | char (c : Char)
  | field (field : Field)
  deriving DecidableEq, Repr

/-- The pieces of a template, and what is wrong behind them. -/
structure Pieces where
  pieces : List Piece
  fault : Option TemplateFault
  deriving DecidableEq, Repr

namespace Pieces

def none : Pieces := ⟨[], Option.none⟩

def broken (fault : TemplateFault) : Pieces := ⟨[], some fault⟩

def cons (piece : Piece) (more : Pieces) : Pieces := { more with pieces := piece :: more.pieces }

end Pieces

mutual

def readPieces : List Char → Pieces
  | [] => .none
  | '\x7d' :: '\x7d' :: rest => .cons (.char '\x7d') (readPieces rest)
  | '\x7d' :: _ => .broken .singleClose
  | '\x7b' :: '\x7b' :: rest => .cons (.char '\x7b') (readPieces rest)
  | ['\x7b'] => .broken .singleOpen
  | '\x7b' :: c :: rest => readName [] (c :: rest)
  | c :: rest => .cons (.char c) (readPieces rest)
  termination_by structural cs => cs

/-- The rest of a template within the name of a field; `name` holds the characters of the name so
far, last first. -/
def readName (name : List Char) : List Char → Pieces
  | [] => .broken .unclosed
  | '\x7b' :: _ => .broken .nestedOpen
  | '\x7d' :: rest => .cons (.field ⟨name.reverse, none, []⟩) (readPieces rest)
  | ':' :: rest => readSpec name.reverse none 0 [] rest
  | '!' :: rest => readConversion name.reverse rest
  | '[' :: rest => readItem ('[' :: name) rest
  | c :: rest => readName (c :: name) rest
  termination_by structural cs => cs

/-- The rest of a template within brackets in the name of a field, where braces mean nothing. -/
def readItem (name : List Char) : List Char → Pieces
  | [] => .broken .unclosed
  | ']' :: rest => readName (']' :: name) rest
  | c :: rest => readItem (c :: name) rest
  termination_by structural cs => cs

/-- The rest of a template after the exclamation mark of a field. -/
def readConversion (name : List Char) : List Char → Pieces
  | [] => .broken .conversionAbsent
  | [_] => .broken .unclosedFormat
  | mark :: '\x7d' :: rest => .cons (.field ⟨name, some mark, []⟩) (readPieces rest)
  | mark :: ':' :: rest => readSpec name (some mark) 0 [] rest
  | _ :: _ :: _ => .broken .looseConversion
  termination_by structural cs => cs

/-- The rest of a template within the format specification of a field, where `depth` braces are
open; `spec` holds the characters of the specification so far, last first. -/
def readSpec (name : List Char) (mark : Option Char) (depth : Nat) (spec : List Char) :
    List Char → Pieces
  | [] => .broken .unclosedFormat
  | '\x7d' :: rest =>
    match depth with
    | 0 => .cons (.field ⟨name, mark, spec.reverse⟩) (readPieces rest)
    | depth + 1 => readSpec name mark depth ('\x7d' :: spec) rest
  | '\x7b' :: rest => readSpec name mark (depth + 1) ('\x7b' :: spec) rest
  | c :: rest => readSpec name mark depth (c :: spec) rest
  termination_by structural cs => cs

end

/-- A character that is no brace stands for itself. -/
theorem readPieces_cons_of_ne {c : Char} (rest : List Char) (opens : c ≠ '\x7b')
    (closes : c ≠ '\x7d') : readPieces (c :: rest) = .cons (.char c) (readPieces rest) := by
  rw [readPieces]
  all_goals simp_all

theorem readPieces_of_no_brace (cs : List Char) (plain : ∀ c ∈ cs, c ≠ '\x7b' ∧ c ≠ '\x7d') :
    readPieces cs = ⟨cs.map .char, none⟩ := by
  induction cs with
  | nil => rfl
  | cons c rest ih =>
    have first := plain c (by simp)
    rw [readPieces_cons_of_ne rest first.1 first.2, ih fun d inside => plain d (by simp [inside])]
    rfl

end DiskFixture.Template
