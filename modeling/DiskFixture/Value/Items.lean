import DiskFixture.Value

/-!
Values taken apart into items.
-/

namespace DiskFixture

/-- The items of a value: those of a list, the characters of a text or the keys of an object. -/
def Value.items? : Value → Option (List Value)
  | .list items => some items
  | .text content => some (content.toList.map fun c => .text (String.singleton c))
  | .object entries => some (entries.map fun entry => .text entry.1)
  | _ => none

end DiskFixture
