import DiskFixture.Value

/-!
Signatures: the parameters of what can be called. Arguments come in order or by name, and a
parameter without an argument falls back on its default. Main statement: a call with exactly one
argument in order for every parameter binds these arguments.
-/

namespace DiskFixture

structure Parameter where
  name : String
  /-- The value without an argument; without a default, there must be an argument. -/
  default : Option Value

/-- What can be called, how errors name it, and its parameters. -/
structure Signature where
  subject : String
  /-- The number of arguments that every call is given in front of its own. -/
  supplied : Nat
  parameters : List Parameter

/-- Why arguments do not fit a signature. -/
inductive ArgumentFault where
  | nameless (subject : String)
  | unexpected (subject name : String)
  | repeated (subject name : String)
  | tooMany (subject : String) (least most given : Nat)
  | missing (subject : String) (names : List String)

namespace ArgumentFault

/-- Names in a row, with commas and an `and`. -/
def listed : List String → String
  | [] => ""
  | [name] => name
  | [first, second] => first ++ " and " ++ second
  | names => ", ".intercalate names.dropLast ++ ", and " ++ names.getLastD ""

/-- A noun for a number of things. -/
def counted (isOne : Bool) (noun : String) : String := if isOne then noun else noun ++ "s"

def message : ArgumentFault → String
  | .nameless subject => subject ++ "() takes no keyword arguments"
  | .unexpected subject name =>
    subject ++ "() got an unexpected keyword argument '" ++ name ++ "'"
  | .repeated subject name =>
    subject ++ "() got multiple values for argument '" ++ name ++ "'"
  | .tooMany subject least most given =>
    let range := if least = most then toString most
      else "from " ++ toString least ++ " to " ++ toString most
    subject ++ "() takes " ++ range ++ " positional "
      ++ counted (least == most && most == 1) "argument" ++ " but " ++ toString given
      ++ (if given = 1 then " was given" else " were given")
  | .missing subject names =>
    subject ++ "() missing " ++ toString names.length ++ " required positional "
      ++ counted (names.length == 1) "argument" ++ ": "
      ++ listed (names.map fun name => "'" ++ name ++ "'")

end ArgumentFault

namespace Signature

/-- What each parameter gets, those in front from the arguments in order. -/
def assign : List Parameter → List Value → Fields → List (String × Option Value)
  | [], _, _ => []
  | parameter :: rest, [], named =>
    (parameter.name, (named.get? parameter.name).or parameter.default) :: assign rest [] named
  | parameter :: rest, value :: more, named =>
    (parameter.name, some value) :: assign rest more named

/-- Refuses a name that no parameter has, or one whose parameter got an argument in order. -/
def checkName (signature : Signature) (positional : List Value) (name : String) :
    Except ArgumentFault Unit :=
  match (signature.parameters.map (·.name)).idxOf? name with
  | none => .error (.unexpected signature.subject name)
  | some index =>
    if index < positional.length then .error (.repeated signature.subject name) else .ok ()

def checkCount (signature : Signature) (positional : List Value) : Except ArgumentFault Unit :=
  let required := (signature.parameters.filter (·.default.isNone)).length
  let most := signature.parameters.length
  if most < positional.length then
    .error (.tooMany signature.subject (signature.supplied + required) (signature.supplied + most)
      (signature.supplied + positional.length))
  else .ok ()

/-- The value of every parameter, by its name. -/
def bind (signature : Signature) (positional : List Value) (named : Fields) :
    Except ArgumentFault Fields := do
  named.forM fun entry => signature.checkName positional entry.1
  signature.checkCount positional
  let assigned := assign signature.parameters positional named
  match (assigned.filter (·.2.isNone)).map (·.1) with
  | [] => return assigned.filterMap fun entry => entry.2.map (entry.1, ·)
  | absent => throw (.missing signature.subject absent)

theorem assign_of_length_eq (parameters : List Parameter) (positional : List Value) (named : Fields)
    (full : positional.length = parameters.length) :
    (assign parameters positional named).filter (·.2.isNone) = []
      ∧ (assign parameters positional named).filterMap (fun entry => entry.2.map (entry.1, ·))
        = (parameters.map (·.name)).zip positional := by
  induction parameters generalizing positional with
  | nil => simp_all [assign]
  | cons parameter rest ih =>
    match positional, full with
    | value :: more, full => simp [assign, ih more (by simpa using full)]

/-- A call with one argument in order for every parameter binds these arguments. -/
theorem bind_of_length_eq (signature : Signature) (positional : List Value)
    (full : positional.length = signature.parameters.length) :
    signature.bind positional []
      = .ok ((signature.parameters.map (·.name)).zip positional) := by
  obtain ⟨complete, kept⟩ := assign_of_length_eq signature.parameters positional [] full
  simp [bind, checkCount, full, complete, kept, pure, Except.pure, Bind.bind, Except.bind]

end Signature

end DiskFixture
