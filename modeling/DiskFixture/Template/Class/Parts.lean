import DiskFixture.Template.Class

/-!
The classes of what is no value: of classes themselves, of their members, and of what the members
are to one thing. The last two are those of the logging library, whose make-up is assumed; only the
path of a log file leads to them.
-/

namespace DiskFixture.Template.Class

def classes : Class where
  title := "type"
  name := "type"
  home := "builtins"
  ancestors := ["object"]
  measures := ⟨2148031744, 904, 40, 264, 368⟩
  parameters := none
  doc := lines [
      "type(object) -> the object's type",
      "type(name, bases, dict, **kwds) -> a new type"]
  members :=
    [maker]
    ++ slots ["__repr__", "__call__", "__getattribute__", "__setattr__", "__delattr__",
        "__init__", "__or__", "__ror__"]
    ++ [
      method "mro" (some "($self, /)") (some "Return a type's method resolution order."),
      method "__subclasses__" (some "($self, /)") (some "Return a list of immediate subclasses."),
      classMethod "__prepare__" none (lines [
        "__prepare__() -> dict",
        "used to create the namespace for the class statement"]),
      method "__instancecheck__"
        (some "($self, instance, /)")
        (some "Check if an object is an instance."),
      method "__subclasscheck__"
        (some "($self, subclass, /)")
        (some "Check if a class is a subclass."),
      method "__dir__" (some "($self, /)") (some "Specialized __dir__ implementation for types."),
      method "__sizeof__"
        (some "($self, /)")
        (some "Return memory consumption of the type object."),
      held "__basicsize__" none,
      held "__itemsize__" none,
      held "__flags__" none,
      held "__weakrefoffset__" none,
      held "__base__" none,
      held "__dictoffset__" none,
      held "__mro__" none,
      computed "__name__" none,
      computed "__qualname__" none,
      computed "__bases__" none,
      computed "__module__" none,
      computed "__abstractmethods__" none,
      computed "__dict__" none,
      computed "__doc__" none,
      computed "__text_signature__" none,
      computed "__annotations__" none]

/-- Rows of fixed length. -/
def tuples : Class where
  title := "tuple"
  name := "tuple"
  home := "builtins"
  ancestors := ["object"]
  measures := ⟨71849248, 24, 8, 0, 0⟩
  parameters := some "(iterable=(), /)"
  doc := lines [
      "Built-in immutable sequence.",
      "",
      "If no argument is given, the constructor returns an empty tuple.",
      "If iterable is specified the tuple is initialized from iterable's items.",
      "",
      "If the argument is a tuple, the return value is the same object."]
  members :=
    [maker]
    ++ slots ["__repr__", "__hash__", "__getattribute__", "__lt__", "__le__", "__eq__", "__ne__",
        "__gt__", "__ge__", "__iter__", "__len__", "__getitem__", "__add__", "__mul__",
        "__rmul__", "__contains__"]
    ++ [
      method "__getnewargs__" (some "($self, /)") none,
      method "index" (some "($self, value, start=0, stop=sys.maxsize, /)") (lines [
        "Return first index of value.",
        "",
        "Raises ValueError if the value is not present."]),
      method "count" (some "($self, value, /)") (some "Return number of occurrences of value."),
      classMethod "__class_getitem__" none (some "See PEP 585")]
    ++ [documentation]

/-- Methods of one thing. -/
def boundMethods : Class where
  title := "builtin_function_or_method"
  name := "builtin_function_or_method"
  home := "builtins"
  ancestors := ["object"]
  measures := ⟨547200, 56, 0, 0, 40⟩
  parameters := none
  doc := none
  members :=
    slots ["__repr__", "__hash__", "__call__", "__getattribute__", "__lt__", "__le__",
        "__eq__", "__ne__", "__gt__", "__ge__"]
    ++ [
      method "__reduce__" none none,
      held "__module__" none,
      computed "__doc__" none,
      computed "__name__" none,
      computed "__qualname__" none,
      computed "__self__" none,
      computed "__text_signature__" none]

/-- Slots of one thing. -/
def boundSlots : Class where
  title := "method-wrapper"
  name := "method-wrapper"
  home := "builtins"
  ancestors := ["object"]
  measures := ⟨545152, 32, 0, 0, 0⟩
  parameters := none
  doc := none
  members :=
    slots ["__repr__", "__hash__", "__call__", "__getattribute__", "__lt__", "__le__",
        "__eq__", "__ne__", "__gt__", "__ge__"]
    ++ [
      method "__reduce__" none none,
      held "__self__" none,
      computed "__objclass__" none,
      computed "__name__" none,
      computed "__qualname__" none,
      computed "__doc__" none,
      computed "__text_signature__" none]

/-- Slots as members of a class. -/
def slotMembers : Class where
  title := "wrapper_descriptor"
  name := "wrapper_descriptor"
  home := "builtins"
  ancestors := ["object"]
  measures := ⟨676224, 56, 0, 0, 0⟩
  parameters := none
  doc := none
  members :=
    slots ["__repr__", "__call__", "__getattribute__", "__get__"]
    ++ [
      method "__reduce__" none none,
      held "__objclass__" none,
      held "__name__" none,
      computed "__doc__" none,
      computed "__qualname__" none,
      computed "__text_signature__" none]

/-- Methods as members of a class. -/
def methodMembers : Class where
  title := "method_descriptor"
  name := "method_descriptor"
  home := "builtins"
  ancestors := ["object"]
  measures := ⟨678272, 56, 0, 0, 0⟩
  parameters := none
  doc := none
  members :=
    slots ["__repr__", "__call__", "__getattribute__", "__get__"]
    ++ [
      method "__reduce__" none none,
      held "__objclass__" none,
      held "__name__" none,
      computed "__doc__" none,
      computed "__qualname__" none,
      computed "__text_signature__" none]

/-- Computed values as members of a class. -/
def computedMembers : Class where
  title := "getset_descriptor"
  name := "getset_descriptor"
  home := "builtins"
  ancestors := ["object"]
  measures := ⟨545152, 48, 0, 0, 0⟩
  parameters := none
  doc := none
  members :=
    slots ["__repr__", "__getattribute__", "__get__", "__set__", "__delete__"]
    ++ [
      held "__objclass__" none,
      held "__name__" none,
      computed "__doc__" none,
      computed "__qualname__" none]

/-- Held values as members of a class. -/
def heldMembers : Class where
  title := "member_descriptor"
  name := "member_descriptor"
  home := "builtins"
  ancestors := ["object"]
  measures := ⟨545152, 48, 0, 0, 0⟩
  parameters := none
  doc := none
  members :=
    slots ["__repr__", "__getattribute__", "__get__", "__set__", "__delete__"]
    ++ [
      method "__reduce__" none none,
      held "__objclass__" none,
      held "__name__" none,
      computed "__doc__" none,
      computed "__qualname__" none]

/-- Methods of a class itself, as its members. -/
def classMethodMembers : Class where
  title := "classmethod_descriptor"
  name := "classmethod_descriptor"
  home := "builtins"
  ancestors := ["object"]
  measures := ⟨545152, 56, 0, 0, 0⟩
  parameters := none
  doc := none
  members :=
    slots ["__repr__", "__call__", "__getattribute__", "__get__"]
    ++ [
      held "__objclass__" none,
      held "__name__" none,
      computed "__doc__" none,
      computed "__qualname__" none,
      computed "__text_signature__" none]

/-- Methods that belong to nothing, as members of a class. -/
def staticMembers : Class where
  title := "staticmethod"
  name := "staticmethod"
  home := "builtins"
  ancestors := ["object"]
  measures := ⟨546048, 32, 0, 24, 0⟩
  parameters := none
  doc := none
  members :=
    [maker]
    ++ slots ["__repr__", "__call__", "__get__", "__init__"]
    ++ [
      held "__func__" none,
      held "__wrapped__" none,
      computed "__isabstractmethod__" none,
      computed "__dict__" none]
    ++ [documentation]

/-- Classes with the kind of their items. -/
def aliases : Class where
  title := "types.GenericAlias"
  name := "GenericAlias"
  home := "types"
  ancestors := ["object"]
  measures := ⟨548096, 64, 0, 0, 40⟩
  parameters := none
  doc := lines [
      "Represent a PEP 585 generic type",
      "",
      "E.g. for t = list[int], t.__origin__ is list and t.__args__ is (int,)."]
  members :=
    [maker]
    ++ slots ["__repr__", "__hash__", "__call__", "__getattribute__", "__lt__", "__le__",
        "__eq__", "__ne__", "__gt__", "__ge__", "__iter__", "__or__", "__ror__", "__getitem__"]
    ++ [
      method "__mro_entries__" none none,
      method "__instancecheck__" none none,
      method "__subclasscheck__" none none,
      method "__reduce__" none none,
      method "__dir__" none none,
      held "__origin__" none,
      held "__args__" none,
      held "__unpacked__" none,
      computed "__parameters__" (some "Type variables in the GenericAlias."),
      computed "__typing_unpacked_tuple_args__" none]
    ++ [documentation]

/-- The members of a class by name. -/
def views : Class where
  title := "mappingproxy"
  name := "mappingproxy"
  home := "builtins"
  ancestors := ["object"]
  measures := ⟨545088, 24, 0, 0, 0⟩
  parameters := none
  doc := none
  members :=
    [maker]
    ++ slots ["__repr__", "__str__", "__getattribute__", "__lt__", "__le__", "__eq__", "__ne__",
        "__gt__", "__ge__", "__iter__", "__or__", "__ror__", "__ior__", "__len__", "__getitem__",
        "__contains__"]
    ++ [
      method "get" none (some "D.get(k[,d]) -> D[k] if k in D, else d.  d defaults to None."),
      method "keys" none (some "D.keys() -> a set-like object providing a view on D's keys"),
      method "values" none (some "D.values() -> an object providing a view on D's values"),
      method "items" none (some "D.items() -> a set-like object providing a view on D's items"),
      method "copy" none (some "D.copy() -> a shallow copy of D"),
      classMethod "__class_getitem__" none (some "See PEP 585"),
      method "__reversed__" none (some "D.__reversed__() -> reverse iterator")]
    ++ [documentation, unhashable]

def functions : Class where
  title := "function"
  name := "function"
  home := "builtins"
  ancestors := ["object"]
  measures := ⟨678144, 136, 0, 88, 96⟩
  parameters := some "(code, globals, name=None, argdefs=None, closure=None)"
  doc := lines [
      "Create a function object.",
      "",
      "  code",
      "    a code object",
      "  globals",
      "    the globals dictionary",
      "  name",
      "    a string that overrides the name from the code object",
      "  argdefs",
      "    a tuple that specifies the default argument values",
      "  closure",
      "    a tuple that supplies the bindings for free variables"]
  members :=
    [maker]
    ++ slots ["__repr__", "__call__", "__get__"]
    ++ [
      held "__closure__" none,
      held "__doc__" none,
      held "__globals__" none,
      held "__module__" none,
      held "__builtins__" none,
      computed "__code__" none,
      computed "__defaults__" none,
      computed "__kwdefaults__" none,
      computed "__annotations__" none,
      computed "__dict__" none,
      computed "__name__" none,
      computed "__qualname__" none]

/-- Functions of one thing. -/
def boundFunctions : Class where
  title := "method"
  name := "method"
  home := "builtins"
  ancestors := ["object"]
  measures := ⟨547072, 48, 0, 0, 32⟩
  parameters := some "(function, instance, /)"
  doc := some "Create a bound instance method object."
  members :=
    [maker]
    ++ slots ["__repr__", "__hash__", "__call__", "__getattribute__", "__setattr__",
        "__delattr__", "__lt__", "__le__", "__eq__", "__ne__", "__gt__", "__ge__"]
    ++ [
      method "__reduce__" (some "($self, /)") none,
      held "__func__" (some "the function (or other callable) implementing a method"),
      held "__self__" (some "the instance to which a method is bound"),
      computed "__doc__" none]

/-- The moment at which a log file is opened. -/
def moments : Class where
  title := "FileDateFormatter"
  name := "FileDateFormatter"
  home := "loguru._file_sink"
  ancestors := ["object"]
  measures := ⟨546320, 24, 0, -48, 16⟩
  parameters := none
  doc := none
  members :=
    [plain "__module__" "loguru._file_sink"]
    ++ [
      function "__init__",
      function "__format__",
      computed "__dict__" (some "dictionary for instance variables"),
      computed "__weakref__" (some "list of weak references to the object")]
    ++ [documentation]

/-- Moments themselves. -/
def instants : Class where
  title := "datetime"
  name := "datetime"
  home := "loguru._datetime"
  ancestors := ["object"]
  measures := ⟨0, 0, 0, 0, 0⟩
  parameters := none
  doc := none
  members := [plain "__module__" "loguru._datetime", function "__format__"]

end DiskFixture.Template.Class
