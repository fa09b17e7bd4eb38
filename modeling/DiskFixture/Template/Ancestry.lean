import DiskFixture.Template.Class.Parts
import DiskFixture.Template.Class.Values

/-!
The classes that there are, and the search for a member along the ancestors of a class: the nearest
class that has it decides. Main statement: every class and all its ancestors are found by their
titles.
-/

namespace DiskFixture.Template.Class

def all : List Class :=
  [anything, integers, truths, floats, texts, lists, objects, nothing, classes, tuples,
    boundMethods, boundSlots, slotMembers, methodMembers, computedMembers, heldMembers,
    classMethodMembers, staticMembers, aliases, views, functions, boundFunctions, moments,
    instants]

/-- The class with a title. Of a title that no class has, nothing is known but that it is one. -/
def ofTitle (title : String) : Class :=
  (all.find? (·.title == title)).getD { anything with title, name := title }

def lineage (found : Class) : List Class := found :: found.ancestors.map ofTitle

/-- The member with a name that a class has or takes from its ancestors, and the class that it is
taken from. -/
def find? (found : Class) (name : String) : Option (Class × Member) :=
  found.lineage.findSome? fun owner => (owner.own? name).map (owner, ·)

theorem ofTitle_title : ∀ found ∈ all, (ofTitle found.title).title = found.title := by
  decide +kernel

theorem title_ofTitle_ancestors :
    ∀ found ∈ all, found.ancestors.map (fun title => (ofTitle title).title) = found.ancestors := by
  decide +kernel

end DiskFixture.Template.Class
