import DiskFixture.Template.Fault

/-!
Names of fields. A name starts with the name of a value, and may go on to parts named after a point
and to items in brackets. Items are numbered from zero or have a key.
-/

namespace DiskFixture.Template

/-- A number, or a name. -/
inductive Label where
  | index (index : Nat)
  | name (name : String)
  deriving DecidableEq, Repr

/-- The label that `cs` stands for. Digits of any script count, and those in front of anything else
are not let through if they are too many. -/
def Label.read (cs : List Char) : Except TemplateFault Label :=
  let digits := cs.takeWhile isDecimal
  if countLimit < decimalOf digits then .error .countTooLarge
  else if digits.isEmpty || (cs.dropWhile isDecimal).length ≠ 0 then .ok (.name (String.ofList cs))
  else .ok (.index (decimalOf digits))

/-- A step from a value to a part of it. -/
inductive Step where
  | part (name : String)
  | item (label : Label)
  deriving DecidableEq, Repr

/-- Steps, and what is wrong behind them. -/
structure Steps where
  steps : List Step
  fault : Option TemplateFault
  deriving DecidableEq, Repr

namespace Steps

def none : Steps := ⟨[], Option.none⟩

def broken (fault : TemplateFault) : Steps := ⟨[], some fault⟩

/-- A named part in front, its name given last character first. -/
def thenPart (name : List Char) (more : Steps) : Steps :=
  if name.isEmpty then broken .emptyPart
  else { more with steps := .part (String.ofList name.reverse) :: more.steps }

/-- An item in front, its label given last character first. -/
def thenItem (label : List Char) (more : Steps) : Steps :=
  match Label.read label.reverse with
  | .error fault => broken fault
  | .ok found =>
    if label.isEmpty then broken .emptyPart
    else { more with steps := .item found :: more.steps }

end Steps

mutual

def readSteps : List Char → Steps
  | [] => .none
  | '.' :: rest => readPart [] rest
  | '[' :: rest => readLabel [] rest
  | _ => .broken .looseItem
  termination_by structural cs => cs

/-- The steps from within the name of a part, of which `name` was read, last character first. -/
def readPart (name : List Char) : List Char → Steps
  | [] => .thenPart name .none
  | '.' :: rest => .thenPart name (readPart [] rest)
  | '[' :: rest => .thenPart name (readLabel [] rest)
  | c :: rest => readPart (c :: name) rest
  termination_by structural cs => cs

/-- The steps from within the label of an item, of which `label` was read, last character first. -/
def readLabel (label : List Char) : List Char → Steps
  | [] => .broken .unclosedItem
  | ']' :: rest => .thenItem label (readSteps rest)
  | c :: rest => readLabel (c :: label) rest
  termination_by structural cs => cs

end

end DiskFixture.Template
