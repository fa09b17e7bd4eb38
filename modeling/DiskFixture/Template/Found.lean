import DiskFixture.Template.Ancestry
import DiskFixture.Template.Moment
import DiskFixture.Template.Selector
import DiskFixture.Value.Text

/-!
What the steps of a field lead to. Besides values these are classes, their members, and what a
member is to one thing. A part of a thing is looked for among the members of its class and of the
ancestors of that; a part of a class first among the values that all classes have, then among its
own members, and at last among the operations that all classes have.
-/

namespace DiskFixture.Template

inductive Found where
  | value (value : Value)
  | type (type : Class)
  | row (items : List Found)
  /-- A class with the kind of its items, whatever that is. -/
  | generic (origin : Class) (item : Value)
  /-- A member of a class, as such. -/
  | entry (owner : Class) (member : Member)
  /-- A member of a class, for one thing. -/
  | bound (owner : Class) (member : Member) (subject : Found)
  /-- The members of a class by name. -/
  | view (owner : Class)
  /-- A moment that stands in for the name of a file. -/
  | moment (time : Moment)
  | instant (time : Moment)

namespace Found

def text (content : String) : Found := .value (.text content)

/-- A text, or null. -/
def text? (content : Option String) : Found := .value (content.elim .null .text)

def ofKind : Found → Class
  | .value found => .ofTitle found.kind
  | .type _ => .classes
  | .row _ => .tuples
  | .generic _ _ => .aliases
  | .entry _ member =>
    match member.kind with
    | .slot => .slotMembers
    | .method => .methodMembers
    | .classMethod => .classMethodMembers
    | .static => .staticMembers
    | .computed => .computedMembers
    | .function => .functions
    | _ => .heldMembers
  | .bound _ member _ =>
    match member.kind with
    | .slot => .boundSlots
    | .function => .boundFunctions
    | _ => .boundMethods
  | .view _ => .views
  | .moment _ => .moments
  | .instant _ => .instants

/-- Where things lie in memory, which nobody can tell. -/
def address : String := "0x0"

/-- How something is written of which only the place is known. -/
def placed (description : String) : String := "<" ++ description ++ " at " ++ address ++ ">"

/-- An operation of something with the given title, written. -/
def writtenBound (member : Member) (title : String) : String :=
  let behind := member.name ++ " of " ++ title ++ " object"
  match member.kind with
  | .slot => placed ("method-wrapper '" ++ member.name ++ "' of " ++ title ++ " object")
  | .function => placed ("bound method " ++ behind)
  | _ => placed ("built-in method " ++ behind)

/-- A member of a class, written. -/
def writtenMember (owner : Class) (member : Member) : String :=
  let described (noun : String) : String :=
    "<" ++ noun ++ " '" ++ member.name ++ "' of '" ++ owner.title ++ "' objects>"
  match member.kind with
  | .slot => described "slot wrapper"
  | .method | .classMethod => described "method"
  | .computed => described "attribute"
  | .held => described "member"
  | .static => "<staticmethod(" ++ writtenBound member Class.classes.title ++ ")>"
  | .maker => writtenBound member Class.classes.title
  | .function => placed ("function " ++ owner.name ++ "." ++ member.name)
  | .plain content => (content.elim .null .text : Value).written
  | .documentation => (owner.doc.elim .null .text : Value).written

/-- The members of a class by name, written. -/
def writtenMembers (owner : Class) : String :=
  let entries := owner.members.map fun member =>
    Text.quoted member.name ++ ": " ++ writtenMember owner member
  "\x7b" ++ ", ".intercalate entries ++ "\x7d"

mutual

/-- What was found, written in full. -/
def written : Found → String
  | .value found => found.written
  | .type found => "<class '" ++ found.fullName ++ "'>"
  | .row items =>
    match writtenItems items with
    | [item] => "(" ++ item ++ ",)"
    | items => "(" ++ ", ".intercalate items ++ ")"
  | .generic origin item => origin.fullName ++ "[" ++ item.written ++ "]"
  | .entry owner member => writtenMember owner member
  | .bound _ member subject => writtenBound member subject.ofKind.title
  | .view owner => Class.views.name ++ "(" ++ writtenMembers owner ++ ")"
  | .moment _ => placed (Class.moments.fullName ++ " object")
  | .instant _ => placed (Class.instants.fullName ++ " object")

def writtenItems : List Found → List String
  | [] => []
  | item :: rest => item.written :: writtenItems rest

end

/-- What was found, as it stands within a message. -/
def shown : Found → String
  | .value found => found.shown
  | .view owner => writtenMembers owner
  | found => found.written

/-- The real part of a number, and the others. -/
def ofNumber (name : String) : Value → Option Value
  | .bool holds => ofInteger (if holds then 1 else 0)
  | .int number => ofInteger number
  | .float x =>
    if name = "real" then some (.float x) else if name = "imag" then some (.float 0) else none
  | _ => none
where
  ofInteger (number : Int) : Option Value :=
    if name = "real" || name = "numerator" then some (.int number)
    else if name = "imag" then some (.int 0)
    else if name = "denominator" then some (.int 1)
    else none

def ofClass (found : Class) (name : String) : Except TemplateFault Found :=
  match name with
  | "__name__" | "__qualname__" => .ok (text found.name)
  | "__module__" => .ok (text found.home)
  | "__base__" => .ok ((found.lineage.tail.head?).elim (.value .null) .type)
  | "__bases__" => .ok (.row ((found.lineage.tail.take 1).map .type))
  | "__mro__" => .ok (.row (found.lineage.map .type))
  | "__dict__" => .ok (.view found)
  | "__doc__" =>
    match found.doc, found.own? name with
    | none, some member =>
      .ok (if member.kind = .documentation then .value .null else .entry found member)
    | doc, _ => .ok (text? doc)
  | "__text_signature__" => .ok (text? found.parameters)
  | "__flags__" => .ok (.value (.int found.measures.flags))
  | "__basicsize__" => .ok (.value (.int found.measures.basic))
  | "__itemsize__" => .ok (.value (.int found.measures.item))
  | "__dictoffset__" => .ok (.value (.int found.measures.fields))
  | "__weakrefoffset__" => .ok (.value (.int found.measures.weak))
  | "__abstractmethods__" => .error (.unset name)
  | "__annotations__" =>
    if found.isWritten then .ok (.value (.object []))
    else .error (.noKindAttribute found.title name)
  | _ => .error (.noKindAttribute found.title name)

/-- The values that all members of classes have, and what they are to one thing. -/
def ofMember (owner : Class) (member : Member) (name : String) : Option Found :=
  match name with
  | "__name__" => some (text member.name)
  | "__qualname__" => some (text (owner.name ++ "." ++ member.name))
  | "__objclass__" => some (.type owner)
  | "__doc__" => some (text? member.doc)
  | "__text_signature__" => some (text? member.parameters)
  | "__func__" | "__wrapped__" => some (.bound owner member (.type owner))
  | "__isabstractmethod__" => some (.value (.bool false))
  | "__dict__" | "__annotations__" => some (.value (.object []))
  | "__module__" => some (text owner.home)
  | "__defaults__" => some (if member.name = "__init__" then .row [.value .null] else .value .null)
  | "__kwdefaults__" | "__closure__" => some (.value .null)
  | _ => none

/-- The values of a member for one thing. The full name of an operation tells the class that it is
used with. -/
def ofBound (owner : Class) (member : Member) (subject : Found) (name : String) : Option Found :=
  let user := match subject with
    | .type found => found
    | other => other.ofKind
  match name, member.kind with
  | "__self__", .static => some (.value .null)
  | "__self__", _ => some subject
  | "__func__", .function => some (.entry owner member)
  | "__qualname__", .slot => ofMember owner member name
  | "__qualname__", _ => some (text (user.name ++ "." ++ member.name))
  | "__module__", _ => some (.value .null)
  | _, _ => ofMember owner member name

/-- The value of a thing that its class works out, or that it holds. -/
def compute (found : Found) (name : String) : Except TemplateFault Found :=
  let absent : TemplateFault := .noAttribute found.ofKind.title name
  let orAbsent (part : Option Found) : Except TemplateFault Found :=
    part.elim (.error absent) .ok
  if name = "__class__" then .ok (.type found.ofKind)
  else
    match found, name with
    | .value whole, _ => orAbsent ((ofNumber name whole).map .value)
    | .type found, _ => ofClass found name
    | .generic origin _, "__origin__" => .ok (.type origin)
    | .generic _ item, "__args__" => .ok (.row [.value item])
    | .generic _ _, "__parameters__" => .ok (.row [])
    | .generic _ _, "__unpacked__" => .ok (.value (.bool false))
    | .generic _ _, _ => .ok (.value .null)
    | .entry owner member, _ => orAbsent (ofMember owner member name)
    | .bound owner member subject, _ => orAbsent (ofBound owner member subject name)
    | .moment time, "__dict__" => .ok (.instant time)
    | .moment _, _ => .ok (.value .null)
    | _, _ => .error absent

/-- A member of a class as it is kept there. -/
def kept (owner : Class) (member : Member) : Found :=
  match member.kind with
  | .plain content => text? content
  | .documentation => text? owner.doc
  | .maker => .bound owner member (.type owner)
  | _ => .entry owner member

/-- What a member of a class is to a thing of the class `user`. -/
def use (owner : Class) (member : Member) (user : Class) (found : Found) :
    Except TemplateFault Found :=
  match member.kind with
  | .computed | .held => found.compute member.name
  | .slot | .method | .function => .ok (.bound owner member found)
  | .classMethod => .ok (.bound owner member (.type user))
  | .static => .ok (.bound owner member (.type owner))
  | _ => .ok (kept owner member)

/-- What a member is to the class itself or to one that takes it from there. -/
def useOfClass (owner : Class) (member : Member) (user : Class) : Found :=
  match member.kind with
  | .classMethod => .bound owner member (.type user)
  | .static => .bound owner member (.type owner)
  | _ => kept owner member

/-- A part of a thing, by the members of its class. -/
def ownPart (found : Found) (name : String) : Except TemplateFault Found :=
  match found.ofKind.find? name with
  | some (owner, member) => use owner member found.ofKind found
  | none => .error (.noAttribute found.ofKind.title name)

/-- Whether a class holds or works out a value for its things. -/
def isData (member : Member) : Bool := member.kind = .computed || member.kind = .held

def partOfClass (found : Class) (name : String) : Except TemplateFault Found :=
  match Class.classes.find? name, found.find? name with
  | common, own =>
    match common.filter (isData ·.2), own with
    | some (owner, member), _ => use owner member .classes (.type found)
    | none, some (owner, member) => .ok (useOfClass owner member found)
    | none, none =>
      match common with
      | some (owner, member) => use owner member .classes (.type found)
      | none => .error (.noKindAttribute found.title name)

/-- The parts of an alias that are not those of its class. -/
def aliasParts : List String :=
  ["__class__", "__origin__", "__args__", "__unpacked__", "__parameters__",
    "__typing_unpacked_tuple_args__", "__mro_entries__", "__reduce_ex__", "__reduce__", "__copy__",
    "__deepcopy__"]

def part (found : Found) (name : String) : Except TemplateFault Found :=
  match found with
  | .type kind => partOfClass kind name
  | .generic origin _ =>
    if aliasParts.contains name then found.ownPart name else partOfClass origin name
  | .bound owner member _ =>
    if member.kind = .function && (Class.boundFunctions.find? name).isNone then
      (Found.entry owner member).ownPart name
    else found.ownPart name
  | .moment time => if name = "datetime" then .ok (.instant time) else found.ownPart name
  | _ => found.ownPart name

/-- The item of a class: the class with the kind of its items, if it has items. -/
def itemOfClass (found : Class) (item : Value) : Except TemplateFault Found :=
  if found.title = Class.classes.title || (found.find? "__class_getitem__").isSome then
    .ok (.generic found item)
  else .error (.kindItems found.title)

def ofLabel : Label → Value
  | .index index => .int index
  | .name name => .text name

def item (found : Found) (label : Label) : Except TemplateFault Found :=
  match found, label with
  | .value (.list items), .index index => (items[index]?).elim (.error .listEnd) (.ok ∘ .value)
  | .value (.list _), .name _ => .error .listKey
  | .value (.text content), .index index =>
    (content.toList[index]?).elim (.error .textEnd) (.ok ∘ text ∘ String.singleton)
  | .value (.text _), .name _ => .error .textKey
  | .value (.object _), .index index => .error (.missingItem index)
  | .value (.object entries), .name name =>
    (Fields.get? entries name).elim (.error (.missing name)) (.ok ∘ .value)
  | .row items, .index index => (items[index]?).elim (.error .rowEnd) .ok
  | .row _, .name _ => .error .rowKey
  | .type kind, label => itemOfClass kind (ofLabel label)
  | .generic _ _, _ => .error (.notGeneric found.written)
  | .view _, .index index => .error (.missingItem index)
  | .view owner, .name name => (owner.own? name).elim (.error (.missing name)) (.ok ∘ kept owner)
  | _, _ => .error (.noItems found.ofKind.title)

def step (found : Found) : Step → Except TemplateFault Found
  | .part name => found.part name
  | .item label => found.item label

def follow (found : Found) (steps : Steps) : Except TemplateFault Found := do
  let part ← steps.steps.foldlM step found
  match steps.fault with
  | none => return part
  | some fault => throw fault

end Found

end DiskFixture.Template
