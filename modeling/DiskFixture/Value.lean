/-!
Values whose kind is known only when they are used: settings, the details of log records, and the
fields of a partition description that nobody has checked yet. Main statements: a written key is
read back, and no other key notices.
-/

namespace DiskFixture

inductive Value where
  | null
  | bool (holds : Bool)
  | int (number : Int)
  | float (number : Float)
  | text (content : String)
  | list (items : List Value)
  | object (entries : List (String × Value))
  deriving Inhabited

namespace Value

/-- The name of a value's kind in error texts. -/
def kind : Value → String
  | .null => "NoneType"
  | .bool _ => "bool"
  | .int _ => "int"
  | .float _ => "float"
  | .text _ => "str"
  | .list _ => "list"
  | .object _ => "dict"

/-- Whether a value counts as true: everything but null, false, zero and what is empty. -/
def isTruthy : Value → Bool
  | .null => false
  | .bool holds => holds
  | .int number => number != 0
  | .float number => number != 0
  | .text content => !content.isEmpty
  | .list items => !items.isEmpty
  | .object entries => !entries.isEmpty

def ofTexts (texts : List String) : Value :=
  .list (texts.map .text)

end Value

/-- Named values, each name once, in the order in which the names first came up. -/
abbrev Fields := List (String × Value)

namespace Fields

def get? : Fields → String → Option Value
  | [], _ => none
  | (name, value) :: rest, key => if name = key then some value else get? rest key

/-- Gives `key` a value, in place if the key is there and at the end otherwise. -/
def put : Fields → String → Value → Fields
  | [], key, value => [(key, value)]
  | (name, old) :: rest, key, value =>
    if name = key then (name, value) :: rest else (name, old) :: put rest key value

/-- `base` with all of `upper` put on top. -/
def overlay (base upper : Fields) : Fields :=
  upper.foldl (fun fields entry => fields.put entry.1 entry.2) base

@[simp] theorem get?_put_self (fields : Fields) (key : String) (value : Value) :
    get? (put fields key value) key = some value := by
  induction fields with
  | nil => simp [put, get?]
  | cons entry rest ih =>
    obtain ⟨name, old⟩ := entry
    by_cases same : name = key <;> simp [put, get?, same, ih]

theorem get?_put_of_ne (fields : Fields) {key other : String} (value : Value)
    (different : other ≠ key) : get? (put fields key value) other = get? fields other := by
  induction fields with
  | nil => simp [put, get?, Ne.symm different]
  | cons entry rest ih =>
    obtain ⟨name, old⟩ := entry
    by_cases same : name = key
    · subst same
      simp [put, get?, Ne.symm different]
    · simp only [put, same, if_false, get?, ih]

@[simp] theorem overlay_nil (base : Fields) : overlay base [] = base := rfl

@[simp] theorem overlay_cons (base : Fields) (name : String) (value : Value) (upper : Fields) :
    overlay base ((name, value) :: upper) = overlay (put base name value) upper := rfl

end Fields

end DiskFixture
