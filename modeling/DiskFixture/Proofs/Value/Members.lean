import DiskFixture.Value.Json

/-!
The members of an object, as they stand in a text. Main statement: a text is read as an object if
and only if it has members, and the object has each of their keys once, with the last value.
-/

namespace DiskFixture.Json

/-- The members of an object behind its opening brace, repeated keys included. -/
def readObject (fuel room : Nat) (cs : List Char) : Reading Fields :=
  match skipSpace cs with
  | '\x7d' :: more => .ok ([], more)
  | start => readMembers fuel room start

/-- The members of the object that a text is, if it is one. -/
def members? (text : String) : Option Fields :=
  let cs := text.toList
  match skipSpace cs with
  | '\x7b' :: opened =>
    match readObject (2 * cs.length + 1) (depthLimit - 1) opened with
    | .ok (members, rest) => if (skipSpace rest).isEmpty then some members else none
    | .error _ => none
  | _ => none

/-- Whether a value is an object. -/
def isObject : Value → Bool
  | .object _ => true
  | _ => false

theorem isObject_of_readNumber {negative : Bool} {cs rest : List Char} {value : Value}
    (read : readNumber negative cs = .ok (value, rest)) : isObject value = false := by
  unfold readNumber at read
  split at read
  · cases read
  · dsimp only at read
    split at read
    · split at read
      · cases read
      · cases read
        rfl
    · cases read
      rfl

/-- No object is read where none is opened. -/
theorem isObject_of_readAtom {cs rest : List Char} {value : Value}
    (read : readAtom cs = .ok (value, rest)) : isObject value = false := by
  unfold readAtom at read
  split at read
  · next found finds =>
    cases read
    obtain ⟨word, listed, takes⟩ := List.exists_of_findSome?_eq_some finds
    obtain ⟨more, -, same⟩ := Option.map_eq_some_iff.1 takes
    have plain : ∀ word ∈ words, isObject word.2 = false := by simp [words, isObject]
    cases same
    exact plain _ listed
  · split at read
    · exact isObject_of_readNumber read
    · exact isObject_of_readNumber read

theorem eq_cons_of_readValue {fuel room : Nat} {cs rest : List Char} {entries : Fields}
    (read : readValue (fuel + 1) room cs = .ok (.object entries, rest)) :
    ∃ opened, cs = '\x7b' :: opened := by
  unfold readValue at read
  split at read
  · split at read
    · cases read
    · cases read
  · split at read
    · cases read
    · split at read
      · cases read
      · split at read
        · cases read
        · cases read
  · exact ⟨_, rfl⟩
  · cases isObject_of_readAtom read

theorem readValue_opened (fuel room : Nat) (cs : List Char) :
    readValue (fuel + 1) (room + 1) ('\x7b' :: cs) =
      (readObject fuel room cs).map fun found =>
        (.object (Fields.overlay [] found.1), found.2) := by
  rw [readValue]
  split
  · next more closes =>
    rw [readObject, closes]
    rfl
  · next absent =>
    have reads : readObject fuel room cs = readMembers fuel room (skipSpace cs) := by
      unfold readObject
      split
      · next more closes => exact absurd closes (absent more)
      · rfl
    rw [reads]
    cases readMembers fuel room (skipSpace cs) <;> rfl

theorem read_eq_ok_iff {text : String} {value : Value} :
    read text = .ok value ↔ ∃ rest,
      readValue (2 * text.toList.length + 2) depthLimit (skipSpace text.toList)
        = .ok (value, rest) ∧ (skipSpace rest).isEmpty = true := by
  unfold read
  dsimp only
  constructor
  · intro reads
    split at reads
    · next found rest starts =>
      split at reads
      · next ends =>
        cases reads
        exact ⟨rest, starts, ends⟩
      · cases reads
    · cases reads
  · rintro ⟨rest, starts, ends⟩
    rw [starts]
    exact if_pos ends

theorem members?_eq_some_iff {text : String} {members : Fields} :
    members? text = some members ↔ ∃ opened rest, skipSpace text.toList = '\x7b' :: opened ∧
      readObject (2 * text.toList.length + 1) (depthLimit - 1) opened = .ok (members, rest) ∧
      (skipSpace rest).isEmpty = true := by
  constructor
  · intro holds
    unfold members? at holds
    dsimp only at holds
    split at holds
    · next opened opens =>
      split at holds
      · next found rest reads =>
        split at holds
        · next ends =>
          cases holds
          exact ⟨opened, rest, opens, reads, ends⟩
        · cases holds
      · cases holds
    · cases holds
  · rintro ⟨opened, rest, opens, reads, ends⟩
    unfold members?
    dsimp only
    rw [opens]
    simp [reads, ends]

/-- A text is read as an object if it has members; of those of one key the last one stays. -/
theorem read_eq_object_iff {text : String} {entries : Fields} :
    read text = .ok (.object entries) ↔
      ∃ members, members? text = some members ∧ entries = Fields.overlay [] members := by
  have room : depthLimit = depthLimit - 1 + 1 := rfl
  constructor
  · intro reads
    obtain ⟨rest, starts, ends⟩ := read_eq_ok_iff.1 reads
    obtain ⟨opened, opens⟩ := eq_cons_of_readValue starts
    rw [opens, room, readValue_opened] at starts
    cases members : readObject (2 * text.toList.length + 1) (depthLimit - 1) opened with
    | error fault => simp [members, Except.map] at starts
    | ok found =>
      rw [members] at starts
      cases starts
      exact ⟨found.1, members?_eq_some_iff.2 ⟨opened, found.2, opens, members, ends⟩, rfl⟩
  · rintro ⟨members, holds, rfl⟩
    obtain ⟨opened, rest, opens, reads, ends⟩ := members?_eq_some_iff.1 holds
    refine read_eq_ok_iff.2 ⟨rest, ?_, ends⟩
    rw [opens, room, readValue_opened, reads]
    rfl

end DiskFixture.Json
