import DiskFixture.Proofs.Ending
import DiskFixture.Proofs.Files.Stride

/-!
Deletion of what a path names. Main statements: where a path that ends in a name is deleted, nothing
stands afterwards, whatever stood there before, and a deletion that goes well changes the files.
-/

namespace DiskFixture

/-- Whether the last part of a path is a name: no slash follows it, and it is not `.` or `..`. -/
def Path.endsInName (path : String) : Bool :=
  match (parts path).getLast? with
  | none => false
  | some part => part != "" && !FileTree.isDots part

theorem Path.exists_name {path : String} (ends : endsInName path = true) :
    ∃ front name, parts path = front ++ [name] ∧ name ≠ "" ∧ FileTree.isDots name = false := by
  unfold endsInName at ends
  split at ends
  · cases ends
  · rename_i name last
    have ⟨front, split⟩ := List.getLast?_eq_some_iff.1 last
    simp only [Bool.and_eq_true, bne_iff_ne, Bool.not_eq_true'] at ends
    exact ⟨front, name, split, ends⟩

namespace FileTree

variable {tree pruned : FileTree} {path : String}

/-- Whether something stands at a path itself, be it a link that leads nowhere. -/
def hasEntry (tree : FileTree) (path : String) : Bool :=
  isNameable path && (tree.find .entry path).isOk

/-- Whether a place is the one that a path names, or below it. -/
def Covers (tree : FileTree) (path : String) (place : Location) : Prop :=
  ∃ top, tree.resolve .entry path = .ok top ∧ (place = top ∨ isUnder top place = true)

section Name

variable {aim : Aim} {name : String}

theorem walk_long_name (filled : name ≠ "") (plain : isDots name = false) (proper : aim ≠ .file)
    (left : Nat) (here : Location) (long : nameLimit < name.utf8ByteSize) :
    tree.walk aim left here [name] = .error .nameTooLong := by
  simp only [isDots, Bool.or_eq_false_iff, beq_eq_false_iff_ne] at plain
  cases left <;> simp [walk, walkFrom, filled, plain, long, proper]

/-- The last part of a walk, if it is a name, leads to its place even if nothing stands there. -/
theorem walk_name (filled : name ≠ "") (plain : isDots name = false) (proper : aim ≠ .file)
    (left : Nat) (here : Location) (short : ¬ nameLimit < name.utf8ByteSize)
    (meant : aim = .entry ∨ ∀ target, tree.at? (here ++ [name]) ≠ some (.link target)) :
    tree.walk aim left here [name] = .ok (here ++ [name]) := by
  simp only [isDots, Bool.or_eq_false_iff, beq_eq_false_iff_ne] at plain
  rcases stands : tree.at? (here ++ [name]) with _ | _ | content | target
  · cases left <;> simp [walk, walkFrom, filled, plain, short, proper, stands]
  · cases left <;> simp [walk, walkFrom, filled, plain, short, proper, stands]
  · cases left <;> simp [walk, walkFrom, filled, plain, short, proper, stands]
  · rcases meant with rfl | other
    · cases left <;> simp [walk, walkFrom, filled, plain, short, stands]
    · exact absurd stands (other target)

end Name

/-- A path that ends in a name has a spot, which every walk along it reaches before the name, or no
walk along it gets as far as that. -/
theorem spot_cases (ends : Path.endsInName path = true) (tree : FileTree) :
    (∃ refusal, tree.spot path = .error refusal ∧
      ∀ aim, aim ≠ .file → tree.resolve aim path = .error refusal) ∨
    ∃ spot left, tree.spot path = .ok spot ∧ spot.slashed = false ∧ spot.name ≠ "" ∧
      isDots spot.name = false ∧
      ∀ aim, aim ≠ .file →
        tree.resolve aim path = tree.walk aim left spot.directory [spot.name] := by
  obtain ⟨front, name, split, filled, plain⟩ := Path.exists_name ends
  cases check : checkPath path with
  | error refusal =>
    exact .inl ⟨refusal, by simp [spot, check], fun aim _ => by simp [resolve, check]⟩
  | ok checked =>
    have filled' : name.isEmpty = false := by simpa using filled
    -- the spot and every walk start with the walk along the front, so they fail there alike
    obtain ⟨stop, walks⟩ := walk_append tree linkLimit (origin path) front
    have directory := walks .target [""] (by decide) (by simp)
    have named := fun aim proper => walks aim [name] proper (by simp)
    cases stop with
    | error refusal =>
      refine .inl ⟨refusal, ?_, fun aim proper => ?_⟩
      · simp [spot, check, split, filled', directory]
      · simp [resolve, check, split, named aim proper]
    | ok found =>
      obtain ⟨place, left⟩ := found
      have here : tree.walk .target left place [""] = .ok place := by cases left <;> rfl
      refine .inr ⟨⟨place, name, false⟩, left, ?_, rfl, filled, plain, fun aim proper => ?_⟩
      · simp [spot, check, split, filled', directory, here, filled]
      · simp [resolve, check, split, named aim proper]

theorem spot_of_isPruned (less : IsPruned pruned tree) (path : String) :
    pruned.spot path = tree.spot path ∨ pruned.spot path = .error .missing := by
  unfold spot
  cases checkPath path with
  | error refusal => exact .inl rfl
  | ok checked =>
    rcases walk_of_isPruned less linkLimit (origin path)
      ((Path.parts path).reverse.dropWhile (·.isEmpty)).tail.reverse with same | gone
    · exact .inl (by simp only [same])
    · exact .inr (by simp only [gone])

theorem hasEntry_of_isPruned (less : IsPruned pruned tree) {spot : Spot}
    (ends : Path.endsInName path = true) (found : tree.spot path = .ok spot)
    (empty : pruned.at? spot.place = none) : pruned.hasEntry path = false := by
  have absent : ∀ place, pruned.resolve .entry path = .ok place → pruned.at? place = none := by
    intro place resolved
    rcases spot_cases ends pruned with ⟨refusal, _, all⟩ |
      ⟨other, left, same, _, filled, plain, all⟩
    · rw [all .entry (by decide)] at resolved
      cases resolved
    · rcases spot_of_isPruned less path with kept | gone
      · rw [kept, found] at same
        cases same
        rw [all .entry (by decide)] at resolved
        by_cases long : nameLimit < spot.name.utf8ByteSize
        · rw [walk_long_name filled plain (by decide) left _ long] at resolved
          cases resolved
        · rw [walk_name filled plain (by decide) left _ long (.inl rfl)] at resolved
          cases resolved
          exact empty
      · rw [gone] at same
        cases same
  unfold hasEntry find
  split
  · simp [Except.isOk, Except.toBool]
  · rename_i place resolved
    simp [absent place resolved, Except.isOk, Except.toBool]

/-- The removal that a path asks for: that of a tree if it leads to a directory and is no link. -/
def removalOf (files : FileTree) (path : String) : Guarded :=
  if files.isDirectory path && !files.isLink path then .removeTree else .remove

/-- At a path that ends in a name stands nothing, and then there is nothing to remove, or something,
and then its kind decides on the removal. -/
theorem entry_cases (ends : Path.endsInName path = true) (tree : FileTree) :
    (tree.hasEntry path = false ∧ tree.removalOf path = .remove ∧
      ∃ refusal, tree.withoutFile path = .error refusal) ∨
    ∃ spot entry, tree.spot path = .ok spot ∧ isDots spot.name = false ∧
      ¬ nameLimit < spot.name.utf8ByteSize ∧
      tree.resolve .entry path = .ok spot.place ∧ tree.at? spot.place = some entry ∧
      ((entry = .directory ∧ tree.removalOf path = .removeTree ∧
          tree.resolve .target path = .ok spot.place) ∨
        (entry ≠ .directory ∧ tree.removalOf path = .remove ∧
          tree.withoutFile path = .ok (tree.erase spot.place))) := by
  rcases spot_cases ends tree with ⟨refusal, found, all⟩ |
    ⟨spot, left, found, slashed, filled, plain, all⟩
  · refine .inl ⟨?_, ?_, refusal, ?_⟩
    · simp [hasEntry, find, all .entry (by decide), Except.isOk, Except.toBool]
    · simp [removalOf, isDirectory, find, all .target (by decide)]
    · simp [withoutFile, found]
  have entry := all .entry (by decide)
  have target := all .target (by decide)
  by_cases long : nameLimit < spot.name.utf8ByteSize
  · rw [walk_long_name filled plain (by decide) left _ long] at entry target
    refine .inl ⟨?_, ?_, .nameTooLong, ?_⟩
    · simp [hasEntry, find, entry, Except.isOk, Except.toBool]
    · simp [removalOf, isDirectory, find, target]
    · simp [withoutFile, found, plain, lookUp, long]
  rw [walk_name filled plain (by decide) left _ long (.inl rfl)] at entry
  change tree.resolve .entry path = .ok spot.place at entry
  -- only a link makes a walk to the target go on from the spot
  have direct (other : ∀ target, tree.at? spot.place ≠ some (.link target)) :
      tree.resolve .target path = .ok spot.place :=
    target.trans (walk_name filled plain (by decide) left _ long (.inr other))
  rcases stands : tree.at? spot.place with _ | _ | content | aim
  · have target := direct (by simp [stands])
    refine .inl ⟨?_, ?_, .missing, ?_⟩
    · simp [hasEntry, find, entry, stands, Except.isOk, Except.toBool]
    · simp [removalOf, isDirectory, find, target, stands]
    · simp [withoutFile, found, plain, lookUp, long, stands]
  · have target := direct (by simp [stands])
    refine .inr ⟨spot, _, found, plain, long, entry, stands, .inl ⟨rfl, ?_, target⟩⟩
    simp [removalOf, isDirectory, isLink, find, target, entry, stands]
  · have target := direct (by simp [stands])
    refine .inr ⟨spot, _, found, plain, long, entry, stands, .inr ⟨by simp, ?_, ?_⟩⟩
    · simp [removalOf, isDirectory, find, target, stands]
    · simp [withoutFile, found, plain, lookUp, long, stands, slashed]
  · refine .inr ⟨spot, _, found, plain, long, entry, stands, .inr ⟨by simp, ?_, ?_⟩⟩
    · simp [removalOf, isLink, find, entry, stands]
    · simp [withoutFile, found, plain, lookUp, long, stands, slashed]

end FileTree

namespace Filing

section Deletion

variable (path : String) (tree : FileTree)

theorem ending_change (step : FileTree → Except Refusal FileTree) :
    ending (change path step) tree =
      if FileTree.isNameable path then
        match step tree with
        | .ok _ => .ok ()
        | .error refusal => .error (.refused refusal path)
      else .error .nullInPath := by
  unfold change
  by_cases nameable : FileTree.isNameable path = true
  · simp only [nameable, if_true, ending, replace]
    cases step tree <;> rfl
  · simp [nameable, ending_bind]

theorem after_change (step : FileTree → Except Refusal FileTree) :
    after (change path step) tree =
      if FileTree.isNameable path then
        match step tree with
        | .ok changed => changed
        | .error _ => tree
      else tree := by
  unfold change
  by_cases nameable : FileTree.isNameable path = true
  · simp only [nameable, if_true, after, replace]
    cases step tree <;> rfl
  · simp [nameable, after_bind]

theorem delete_eq :
    delete path tree =
      if tree.removalOf path = .removeTree then removeTree path tree else remove path tree := by
  have opened : delete path tree =
      (if tree.isDirectory path && !tree.isLink path then removeTree path else remove path) tree :=
    rfl
  rw [opened, FileTree.removalOf]
  split <;> rfl

theorem ending_delete :
    ending (delete path) tree =
      if tree.removalOf path = .removeTree then ending (removeTree path) tree
      else ending (remove path) tree := by
  unfold ending
  rw [delete_eq]
  by_cases asked : tree.removalOf path = .removeTree <;> simp only [asked, if_true, if_false]

theorem after_delete :
    after (delete path) tree =
      if tree.removalOf path = .removeTree then after (removeTree path) tree
      else after (remove path) tree := by
  unfold after
  rw [delete_eq]
  by_cases asked : tree.removalOf path = .removeTree <;> simp only [asked, if_true, if_false]

/-- A path that could name nothing is refused before the files are looked at. -/
theorem delete_of_not_nameable (nameless : FileTree.isNameable path = false) :
    ending (delete path) tree = .error .nullInPath ∧ after (delete path) tree = tree := by
  have nameless : ¬ FileTree.isNameable path = true := by simp [nameless]
  rw [ending_delete, after_delete]
  by_cases asked : tree.removalOf path = .removeTree
  · rw [if_pos asked, if_pos asked]
    constructor
    · rw [removeTree, ending_bind, clear, ending_change, if_neg nameless]
    · rw [removeTree, after_bind, clear, ending_change, after_change, if_neg nameless,
        if_neg nameless]
  · rw [if_neg asked, if_neg asked, remove, ending_change, after_change, if_neg nameless,
      if_neg nameless]
    exact ⟨rfl, rfl⟩

theorem isMisuse_of_change {step : FileTree → Except Refusal FileTree} {fault : CallFault}
    (nameable : FileTree.isNameable path = true)
    (fails : ending (change path step) tree = .error fault) : fault.isMisuse = false := by
  rw [ending_change, if_pos nameable] at fails
  cases changes : step tree with
  | ok changed => simp [changes] at fails
  | error refusal =>
    rw [changes] at fails
    cases fails
    rfl

theorem isMisuse_of_delete {fault : CallFault} (nameable : FileTree.isNameable path = true)
    (fails : ending (delete path) tree = .error fault) : fault.isMisuse = false := by
  rw [ending_delete] at fails
  by_cases asked : tree.removalOf path = .removeTree
  · rw [if_pos asked, removeTree, ending_bind] at fails
    cases clears : ending (clear path) tree with
    | ok done =>
      rw [clears] at fails
      exact isMisuse_of_change path _ nameable fails
    | error other =>
      rw [clears] at fails
      cases fails
      exact isMisuse_of_change path tree nameable clears
  · rw [if_neg asked] at fails
    exact isMisuse_of_change path tree nameable fails

variable {path} (ends : Path.endsInName path = true) (nameable : FileTree.isNameable path = true)

/-- The directory at a spot, emptied, can be removed if its spot is found again. Where a way to it
leads through the directory itself, emptying it has made the path lead nowhere. -/
theorem withoutDirectory_eraseUnder {spot : FileTree.Spot} (found : tree.spot path = .ok spot)
    (plain : FileTree.isDots spot.name = false)
    (short : ¬ FileTree.nameLimit < spot.name.utf8ByteSize)
    (stands : tree.at? spot.place = some .directory) :
    (tree.eraseUnder spot.place).withoutDirectory path
        = .ok ((tree.eraseUnder spot.place).erase spot.place) ∨
      ((tree.eraseUnder spot.place).spot path = .error .missing ∧
        (tree.eraseUnder spot.place).withoutDirectory path = .error .missing) := by
  have self : FileTree.isUnder spot.place spot.place = false := by simp [FileTree.isUnder]
  have kept : (tree.eraseUnder spot.place).at? spot.place = some .directory :=
    (FileTree.at?_eraseUnder tree self).trans stands
  have vacant : (tree.eraseUnder spot.place).isOccupied spot.place = false := by
    simp [FileTree.isOccupied, FileTree.eraseUnder]
  simp only [FileTree.isDots, Bool.or_eq_false_iff, beq_eq_false_iff_ne] at plain
  rcases FileTree.spot_of_isPruned (FileTree.isPruned_eraseUnder tree spot.place) path with
    same | gone
  · left
    simp [FileTree.withoutDirectory, same, found, plain, FileTree.lookUp, short, kept, vacant]
  · right
    simp [FileTree.withoutDirectory, gone]

include ends nameable

theorem after_delete_cases :
    (tree.hasEntry path = false ∧ after (delete path) tree = tree) ∨
    ∃ spot, tree.spot path = .ok spot ∧
      (after (delete path) tree = tree.erase spot.place ∨
        after (delete path) tree = (tree.eraseUnder spot.place).erase spot.place ∨
        (after (delete path) tree = tree.eraseUnder spot.place ∧
          (tree.eraseUnder spot.place).spot path = .error .missing)) := by
  rcases FileTree.entry_cases ends tree with ⟨absent, asked, refusal, refused⟩ |
    ⟨spot, entry, found, plain, short, -, stands, kind⟩
  · left
    refine ⟨absent, ?_⟩
    rw [after_delete, asked, if_neg (by decide), remove, after_change, if_pos nameable, refused]
  right
  refine ⟨spot, found, ?_⟩
  rcases kind with ⟨rfl, asked, target⟩ | ⟨_, asked, removes⟩
  · rw [after_delete, if_pos asked]
    have clears : ending (clear path) tree = .ok () := by
      rw [clear, ending_change, if_pos nameable, target]
      rfl
    have cleared : after (clear path) tree = tree.eraseUnder spot.place := by
      rw [clear, after_change, if_pos nameable, target]
      rfl
    rw [removeTree, after_bind, clears, cleared]
    simp only [removeDirectory, after_change, if_pos nameable]
    rcases withoutDirectory_eraseUnder tree found plain short stands with done | ⟨gone, refused⟩
    · exact .inr (.inl (by rw [done]))
    · exact .inr (.inr ⟨by rw [refused], gone⟩)
  · left
    rw [after_delete, asked, if_neg (by decide), remove, after_change, if_pos nameable, removes]

/-- Where a path that ends in a name is deleted, nothing stands at the path afterwards. -/
theorem hasEntry_after_delete : (after (delete path) tree).hasEntry path = false := by
  rcases after_delete_cases tree ends nameable with ⟨absent, same⟩ |
    ⟨spot, found, erased | emptied | ⟨cleared, lost⟩⟩
  · rw [same, absent]
  · rw [erased]
    exact FileTree.hasEntry_of_isPruned (FileTree.isPruned_erase tree _) ends found
      (FileTree.at?_erase_self tree (by simp [FileTree.Spot.place]))
  · rw [emptied]
    exact FileTree.hasEntry_of_isPruned
      ((FileTree.isPruned_erase _ _).trans (FileTree.isPruned_eraseUnder tree _)) ends found
      (FileTree.at?_erase_self _ (by simp [FileTree.Spot.place]))
  · rw [cleared]
    rcases FileTree.spot_cases ends (tree.eraseUnder spot.place) with ⟨refusal, _, all⟩ |
      ⟨other, _, again, _⟩
    · simp [FileTree.hasEntry, FileTree.find, all .entry (by decide), Except.isOk, Except.toBool]
    · rw [lost] at again
      cases again

end Deletion

section Effect

variable {path : String} {tree changed : FileTree}

theorem stands_of_lookUp {spot : FileTree.Spot} {entry : Entry}
    (found : tree.lookUp spot = .ok (some entry)) : tree.at? spot.place ≠ none := by
  unfold FileTree.lookUp at found
  split at found
  · cases found
  · simp [Except.ok.inj found]

theorem exists_erase_of_withoutFile (removes : tree.withoutFile path = .ok changed) :
    ∃ spot : FileTree.Spot, tree.at? spot.place ≠ none ∧ changed = tree.erase spot.place := by
  unfold FileTree.withoutFile at removes
  split at removes
  · cases removes
  split at removes
  · cases removes
  split at removes
  · cases removes
  · cases removes
  · cases removes
  rename_i stands
  split at removes
  · cases removes
  exact ⟨_, stands_of_lookUp stands, (Except.ok.inj removes).symm⟩

/-- What is removed as a directory is one, by a name of its own, and nothing is in it. -/
theorem spot_of_withoutDirectory (removes : tree.withoutDirectory path = .ok changed) :
    ∃ spot : FileTree.Spot, tree.spot path = .ok spot ∧ FileTree.isDots spot.name = false ∧
      ¬ FileTree.nameLimit < spot.name.utf8ByteSize ∧ tree.at? spot.place = some .directory ∧
      tree.isOccupied spot.place = false ∧ changed = tree.erase spot.place := by
  unfold FileTree.withoutDirectory at removes
  split at removes
  · cases removes
  rename_i spot found
  split at removes
  · cases removes
  rename_i dot
  split at removes
  · cases removes
  rename_i dots
  split at removes
  · cases removes
  · cases removes
  · rename_i stands
    split at removes
    · cases removes
    rename_i vacant
    have plain : FileTree.isDots spot.name = false := by simp [FileTree.isDots, dot, dots]
    have short : ¬ FileTree.nameLimit < spot.name.utf8ByteSize := by
      intro long
      simp [FileTree.lookUp, long] at stands
    have directory : tree.at? spot.place = some .directory := by
      simpa [FileTree.lookUp, short] using stands
    exact ⟨spot, found, plain, short, directory, Bool.eq_false_iff.2 vacant,
      (Except.ok.inj removes).symm⟩
  · cases removes

theorem exists_erase_of_withoutDirectory (removes : tree.withoutDirectory path = .ok changed) :
    ∃ spot : FileTree.Spot, tree.at? spot.place ≠ none ∧ changed = tree.erase spot.place := by
  obtain ⟨spot, -, -, -, directory, -, erased⟩ := spot_of_withoutDirectory removes
  exact ⟨spot, by simp [directory], erased⟩

theorem exists_of_change {step : FileTree → Except Refusal FileTree}
    (done : ending (change path step) tree = .ok ()) :
    ∃ changed, step tree = .ok changed ∧ after (change path step) tree = changed := by
  rw [ending_change] at done
  split at done
  · rename_i nameable
    rw [after_change, if_pos nameable]
    cases outcome : step tree with
    | ok changed => exact ⟨changed, rfl, rfl⟩
    | error refusal => simp [outcome] at done
  · cases done

theorem after_change_of_error {step : FileTree → Except Refusal FileTree} {fault : CallFault}
    (fails : ending (change path step) tree = .error fault) :
    after (change path step) tree = tree := by
  rw [ending_change] at fails
  rw [after_change]
  split at fails
  · rename_i nameable
    rw [if_pos nameable]
    cases outcome : step tree with
    | ok changed => simp [outcome] at fails
    | error refusal => rfl
  · rename_i nameless
    rw [if_neg nameless]

theorem isPruned_clear (done : ending (clear path) tree = .ok ()) :
    FileTree.IsPruned (after (clear path) tree) tree := by
  obtain ⟨changed, clears, same⟩ := exists_of_change done
  rw [clear, same]
  cases top : tree.resolve .target path with
  | error refusal => simp [top, Except.map] at clears
  | ok place =>
    simp only [top, Except.map, Except.ok.injEq] at clears
    exact clears ▸ FileTree.isPruned_eraseUnder tree place

theorem erase_ne {pruned : FileTree} (less : FileTree.IsPruned pruned tree)
    {spot : FileTree.Spot} (stands : pruned.at? spot.place ≠ none) :
    pruned.erase spot.place ≠ tree := by
  intro same
  have below : spot.place ≠ [] := by simp [FileTree.Spot.place]
  have gone := FileTree.at?_erase_self pruned below
  rcases less spot.place with kept | lost
  · exact stands (kept.trans (same ▸ gone))
  · exact stands lost

/-- A deletion that goes well changes the files. -/
theorem ne_after_delete (done : ending (delete path) tree = .ok ()) :
    after (delete path) tree ≠ tree := by
  rw [ending_delete] at done
  rw [after_delete]
  split at done
  · rename_i asked
    rw [if_pos asked]
    rw [removeTree, ending_bind] at done
    cases clears : ending (clear path) tree with
    | error fault => simp [clears] at done
    | ok cleared =>
      simp only [clears] at done
      obtain ⟨changed, removes, same⟩ := exists_of_change done
      obtain ⟨spot, stands, rfl⟩ := exists_erase_of_withoutDirectory removes
      rw [removeTree, after_bind, clears]
      dsimp only
      rw [removeDirectory, same]
      exact erase_ne (isPruned_clear clears) stands
  · rename_i asked
    rw [if_neg asked]
    obtain ⟨changed, removes, same⟩ := exists_of_change done
    obtain ⟨spot, stands, rfl⟩ := exists_erase_of_withoutFile removes
    rw [remove, same]
    exact erase_ne (fun _ => .inl rfl) stands

end Effect

end Filing

end DiskFixture
