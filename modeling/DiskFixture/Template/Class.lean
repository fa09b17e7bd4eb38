import DiskFixture.Template.Slot

/-!
Classes. Everything that a template can reach has a class, and a class offers members: operations,
values that are worked out from a thing or held by it, and values of the class as a whole.
-/

namespace DiskFixture.Template

/-- How a class offers a member. -/
inductive MemberKind where
  /-- An operation that many classes have under the same name. -/
  | slot
  /-- An operation of the things of the class. -/
  | method
  /-- An operation of the class itself. -/
  | classMethod
  /-- An operation that is kept with the class but belongs to nothing. -/
  | static
  /-- The operation that makes the things of the class. -/
  | maker
  /-- An operation that is written out. -/
  | function
  /-- A value that is worked out from a thing. -/
  | computed
  /-- A value that a thing holds. -/
  | held
  /-- A text, or null, of the class as a whole. -/
  | plain (content : Option String)
  /-- The description of the class. -/
  | documentation
  deriving DecidableEq, Repr

/-- A member of a class, with its parameters and its description as far as it has them. -/
structure Member where
  name : String
  kind : MemberKind
  parameters : Option String
  doc : Option String

/-- What a class says about the memory that its things take. -/
structure Measures where
  flags : Int
  basic : Int
  item : Int
  fields : Int
  weak : Int

structure Class where
  /-- The name in error texts. -/
  title : String
  name : String
  /-- Where the class is defined. -/
  home : String
  /-- The titles of the classes from which it takes members that are not its own, nearest first. -/
  ancestors : List String
  measures : Measures
  parameters : Option String
  doc : Option String
  members : List Member

namespace Class

def lines (texts : List String) : Option String := some ("\n".intercalate texts)

def slots (names : List String) : List Member :=
  names.map fun name => ⟨name, .slot, Slot.parameters? name, Slot.doc? name⟩

def method (name : String) (parameters doc : Option String) : Member :=
  ⟨name, .method, parameters, doc⟩

def classMethod (name : String) (parameters doc : Option String) : Member :=
  ⟨name, .classMethod, parameters, doc⟩

def static (name : String) (parameters doc : Option String) : Member :=
  ⟨name, .static, parameters, doc⟩

def maker : Member :=
  ⟨"__new__", .maker, some "($type, *args, **kwargs)",
    some "Create and return a new object.  See help(type) for accurate signature."⟩

def function (name : String) : Member := ⟨name, .function, none, none⟩

def computed (name : String) (doc : Option String) : Member := ⟨name, .computed, none, doc⟩

def held (name : String) (doc : Option String) : Member := ⟨name, .held, none, doc⟩

def plain (name content : String) : Member := ⟨name, .plain (some content), none, none⟩

/-- The member that says that the things of a class have no hash. -/
def unhashable : Member := ⟨"__hash__", .plain none, none, none⟩

def documentation : Member := ⟨"__doc__", .documentation, none, none⟩

def own? (found : Class) (name : String) : Option Member :=
  found.members.find? (·.name == name)

def isWritten (found : Class) : Bool := found.members.any (·.kind == .function)

/-- The name of a class with the place where it is defined, unless everybody knows it. -/
def fullName (found : Class) : String :=
  if found.home = "builtins" then found.name else found.home ++ "." ++ found.name

end Class

end DiskFixture.Template
