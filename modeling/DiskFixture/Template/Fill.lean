import DiskFixture.Template.Format
import DiskFixture.Template.Found
import DiskFixture.Template.Piece

/-!
Filling templates in. Each field is replaced by the part of a value that its name selects, converted
and shown as the field asks; fields within a format specification are replaced first. Values have
names only, so a field that is a number, or nothing, finds none. Main statement: a text without
braces stands for itself.
-/

namespace DiskFixture

open Template

namespace Template

/-- How deep templates may be nested. -/
def depthLimit : Nat := 2

def isNameEnd (c : Char) : Bool := c == '.' || c == '['

/-- What the fields of a template can start from: what has a name, and the fault of a position. -/
structure Scope where
  named : String → Option Found
  position : Nat → TemplateFault

def Field.select (field : Field) (scope : Scope) : Except TemplateFault Found := do
  let root := field.name.takeWhile (!isNameEnd ·)
  match ← (if root.isEmpty then .ok (.index 0) else Label.read root) with
  | .index index => throw (scope.position index)
  | .name name =>
    match scope.named name with
    | none => throw (.missing name)
    | some start => start.follow (readSteps (field.name.dropWhile (!isNameEnd ·)))

/-- The characters of `text`, those beyond ASCII as escapes. -/
def asciiOnly (text : String) : List Char :=
  text.toList.flatMap fun c =>
    if c.toNat < 128 then [c]
    else if c.toNat < 0x100 then '\\' :: 'x' :: Text.hexDigits 2 c.toNat
    else if c.toNat < 0x10000 then '\\' :: 'u' :: Text.hexDigits 4 c.toNat
    else '\\' :: 'U' :: Text.hexDigits 8 c.toNat

def Found.convert (found : Found) : Option Char → Except TemplateFault Found
  | none => .ok found
  | some 'r' => .ok (.text found.written)
  | some 's' => .ok (.text found.shown)
  | some 'a' => .ok (.text (String.ofList (asciiOnly found.written)))
  | some mark => .error (.unknownConversion mark)

def Found.format (found : Found) (spec : List Char) : Except TemplateFault (List Char) :=
  match found with
  | .value whole => (whole.format spec).mapError .format
  | .moment time | .instant time => (time.format spec).mapError .format
  | _ =>
    if spec.isEmpty then .ok found.shown.toList
    else .error (.format (.unsupported found.ofKind.title))

/-- Fills a template in, in which fields may be nested to a depth. -/
def fillNested (scope : Scope) : (depth : Nat) → List Char → Except TemplateFault (List Char)
  | 0, _ => .error .nestedTooDeep
  | depth + 1, cs => do
    let template := readPieces cs
    let parts ← template.pieces.mapM fun
      | .char c => pure [c]
      | .field field => do
        let found ← (← field.select scope).convert field.mark
        let spec ←
          if field.spec.contains '\x7b' then fillNested scope depth field.spec
          else pure field.spec
        found.format spec
    match template.fault with
    | none => return parts.flatten
    | some fault => throw fault

/-- `template` with its fields replaced by the values of their names. -/
def fill (template : String) (values : Fields) : Except TemplateFault String :=
  let scope : Scope := ⟨fun name => (values.get? name).map .value, .noPosition⟩
  (fillNested scope depthLimit template.toList).map String.ofList

/-- `template` with the fields named `time` replaced by a moment. It must be well formed as a whole,
whatever its fields are. -/
def fillTime (moment : Moment) (template : String) : Except TemplateFault String :=
  match (readPieces template.toList).fault with
  | some fault => .error fault
  | none =>
    let value? (name : String) : Option Found :=
      if name = "time" then some (.moment moment) else none
    let scope : Scope := ⟨value?, fun _ => .positionsRefused⟩
    (fillNested scope depthLimit template.toList).map String.ofList

theorem mapM_char (shown : Piece → Except TemplateFault (List Char))
    (keeps : ∀ c, shown (.char c) = .ok [c]) (cs : List Char) :
    (cs.map .char).mapM shown = .ok (cs.map fun c => [c]) := by
  induction cs with
  | nil => rfl
  | cons c rest ih => simp [keeps, ih, bind, Except.bind, pure, Except.pure]

theorem fillNested_of_no_brace (scope : Scope) (depth : Nat) (cs : List Char)
    (plain : ∀ c ∈ cs, c ≠ '\x7b' ∧ c ≠ '\x7d') : fillNested scope (depth + 1) cs = .ok cs := by
  simp only [fillNested, readPieces_of_no_brace cs plain]
  rw [mapM_char _ fun _ => rfl]
  simp [bind, Except.bind, pure, Except.pure, ← List.flatMap_def]

/-- A text without braces stands for itself, whatever the values are. -/
theorem fill_of_no_brace (template : String) (values : Fields)
    (plain : ∀ c ∈ template.toList, c ≠ '\x7b' ∧ c ≠ '\x7d') :
    fill template values = .ok template := by
  simp [fill, depthLimit, fillNested_of_no_brace _ _ _ plain, Except.map]

end Template

end DiskFixture
