import DiskFixture.Proofs.Files.Deletion

/-!
Reach of a deletion, for any path whatever it ends in. Main statements: a path and the spot that it
is taken apart at name the same place, to delete a path is noticed only at the place that it names
and below it, and of a directory that it names itself nothing is left but perhaps the directory.
-/

namespace DiskFixture

namespace FileTree

variable {tree : FileTree}

theorem isPrefix_of_inside {top place : Location}
    (inside : place = top ∨ isUnder top place = true) : top <+: place := by
  rcases inside with rfl | under
  · exact List.prefix_refl place
  · rw [isUnder, Bool.and_eq_true] at under
    exact List.isPrefixOf_iff_prefix.1 under.1

theorem at?_of_find {aim : Aim} {path : String} {place : Location}
    {entry : Entry} (found : tree.find aim path = .ok (place, entry)) :
    tree.at? place = some entry := by
  unfold find at found
  split at found
  · cases found
  · split at found
    · cases found
    · rename_i stands
      cases found
      exact stands

/-- A walk that leaves a link at the end alone ends where the walk through it does, or at a link. -/
theorem walk_entry_cases (tree : FileTree) (links : Nat) (here : Location) (parts : List String) :
    tree.walk .entry links here parts = tree.walk .target links here parts ∨
      ∃ place target, tree.walk .entry links here parts = .ok place ∧
        tree.at? place = some (.link target) := by
  have last (links : Nat) (here : Location) (part : String) :
      tree.walk .entry links here [part] = tree.walk .target links here [part] ∨
        ∃ place target, tree.walk .entry links here [part] = .ok place ∧
          tree.at? place = some (.link target) := by
    by_cases dot : part = "" ∨ part = "."
    · left
      cases links <;> simp [walk, walkFrom, dot]
    by_cases up : part = ".."
    · left
      cases links <;> simp [walk, walkFrom, up]
    by_cases long : nameLimit < part.utf8ByteSize
    · left
      cases links <;> simp [walk, walkFrom, dot, up, long]
    rcases stands : tree.at? (here ++ [part]) with _ | _ | content | target
    · left
      cases links <;> simp [walk, walkFrom, dot, up, long, stands]
    · left
      cases links <;> simp [walk, walkFrom, dot, up, long, stands]
    · left
      cases links <;> simp [walk, walkFrom, dot, up, long, stands]
    · right
      refine ⟨here ++ [part], target, ?_, stands⟩
      cases links <;> simp [walk, walkFrom, dot, up, long, stands]
  induction links, here, parts using @stride_induction tree with
  | nil links here => exact .inl (by cases links <;> rfl)
  | stop links here part rest refusal taken =>
    by_cases more : rest = []
    · exact more ▸ last links here part
    · left
      rw [walk_cons links here part (by decide) more, walk_cons links here part (by decide) more,
        taken]
  | go links here part rest place left inserted taken ih =>
    by_cases more : rest = []
    · exact more ▸ last links here part
    · rw [walk_cons links here part (by decide) more, walk_cons links here part (by decide) more,
        taken]
      exact ih

theorem resolve_entry_cases (tree : FileTree) (path : String) :
    tree.resolve .entry path = tree.resolve .target path ∨
      ∃ place target, tree.resolve .entry path = .ok place ∧
        tree.at? place = some (.link target) := by
  unfold resolve
  cases checkPath path with
  | error refusal => exact .inl rfl
  | ok checked => exact walk_entry_cases tree _ _ _

theorem walk_empties (tree : FileTree) (aim : Aim) (links : Nat) (here : Location)
    {parts : List String} (empty : ∀ part ∈ parts, part = "") :
    tree.walk aim links here parts = .ok here := by
  induction parts with
  | nil => cases links <;> rfl
  | cons part rest ih =>
    have first := empty part List.mem_cons_self
    have later := ih fun part inside => empty part (List.mem_cons_of_mem _ inside)
    subst first
    cases links <;> simpa [walk, walkFrom] using later

/-- A name that slashes may follow: a walk takes it if a directory stands there, and without slashes
in any case. -/
theorem walk_name_empties {name : String} {rest : List String} (filled : name ≠ "")
    (plain : isDots name = false) (left : Nat) (here : Location)
    (short : ¬ nameLimit < name.utf8ByteSize) (empty : ∀ part ∈ rest, part = "")
    (kind : rest = [] ∨ tree.at? (here ++ [name]) = some .directory) :
    tree.walk .entry left here (name :: rest) = .ok (here ++ [name]) := by
  by_cases single : rest = []
  · subst rest
    exact walk_name filled plain (by decide) left here short (.inl rfl)
  · have directory := kind.resolve_left single
    have taken : tree.stride left here name = .ok (here ++ [name], left, []) := by
      simp only [isDots, Bool.or_eq_false_iff, beq_eq_false_iff_ne] at plain
      simp [stride, filled, plain, short, directory]
    rw [walk_cons left here name (by decide) single, taken]
    exact walk_empties tree _ _ _ empty

/-- A list around its last text that is not empty, if there is one. -/
theorem exists_split_at_last (parts : List String) :
    parts.reverse.dropWhile (·.isEmpty) = [] ∨
      ∃ front name rest, parts = front ++ name :: rest ∧ name ≠ "" ∧
        (∀ part ∈ rest, part = "") ∧
        parts.reverse.dropWhile (·.isEmpty) = name :: front.reverse := by
  have split := List.takeWhile_append_dropWhile
    (p := fun part : String => part.isEmpty) (l := parts.reverse)
  have filled := fun more : parts.reverse.dropWhile (·.isEmpty) ≠ [] =>
    List.head_dropWhile_not (fun part : String => part.isEmpty) more
  cases dropped : parts.reverse.dropWhile (·.isEmpty) with
  | nil => exact .inl rfl
  | cons name tail =>
    right
    rw [dropped] at split
    refine ⟨tail.reverse, name, (parts.reverse.takeWhile (·.isEmpty)).reverse, ?_, ?_, ?_, ?_⟩
    · have turned := congrArg List.reverse split
      simpa using turned.symm
    · have filled := filled (by simp [dropped])
      simpa [dropped] using filled
    · intro part inside
      have empty := List.all_eq_true.1 List.all_takeWhile part (List.mem_reverse.1 inside)
      simpa using empty
    · simp

/-- How the parts of a path lead to its spot: in front of the name there is the way to the
directory, and behind it there is nothing but slashes. -/
theorem exists_parts_of_spot {path : String} {spot : Spot} (found : tree.spot path = .ok spot)
    (plain : isDots spot.name = false) :
    ∃ front rest, checkPath path = .ok () ∧ Path.parts path = front ++ spot.name :: rest ∧
      spot.name ≠ "" ∧ (∀ part ∈ rest, part = "") ∧ (spot.slashed = false → rest = []) ∧
      tree.walk .target linkLimit (origin path) (front ++ [""]) = .ok spot.directory := by
  unfold FileTree.spot at found
  cases check : checkPath path with
  | error refusal => simp [check] at found
  | ok checked =>
    simp only [check] at found
    split at found
    · cases found
    rename_i directory walks
    cases found
    rcases exists_split_at_last (Path.parts path) with
      none | ⟨front, name, rest, split, filled, empty, dropped⟩
    · simp [none, isDots] at plain
    · rw [dropped] at walks ⊢
      refine ⟨front, rest, rfl, split, filled, empty, fun bare => ?_, by simpa using walks⟩
      rcases List.eq_nil_or_concat rest with none | ⟨init, last, ends⟩
      · exact none
      · have blank : last = "" := empty last (by simp [ends])
        have reads : (Path.parts path).getLast? = some "" := by
          simp [split, ends, blank, List.getLast?_cons]
        simp [reads] at bare

/-- The spot of a path is the place that the path names, if nothing or only the like of what the
path can mean stands there. -/
theorem resolve_of_spot {path : String} {spot : Spot} (found : tree.spot path = .ok spot)
    (plain : isDots spot.name = false) (short : ¬ nameLimit < spot.name.utf8ByteSize)
    (kind : spot.slashed = false ∨ tree.at? spot.place = some .directory) :
    tree.resolve .entry path = .ok spot.place := by
  obtain ⟨front, rest, check, split, filled, empty, bare, walks⟩ :=
    exists_parts_of_spot found plain
  -- the walk to the spot and the one along the path start with the same parts
  obtain ⟨stop, onwards⟩ := walk_append tree linkLimit (origin path) front
  rw [onwards .target [""] (by decide) (by simp)] at walks
  cases stop with
  | error refusal => cases walks
  | ok stopped =>
    obtain ⟨here, left⟩ := stopped
    dsimp only at walks
    rw [walk_empties tree _ _ _ (by simp)] at walks
    have reached : here = spot.directory := Except.ok.inj walks
    unfold resolve
    rw [check, split]
    dsimp only
    rw [onwards .entry _ (by decide) (by simp)]
    dsimp only
    rw [reached]
    exact walk_name_empties filled plain left _ short empty (kind.imp_left bare)

/-- A path asks for the removal of a tree if and only if it names a directory itself. -/
theorem removalOf_eq_removeTree_iff {path : String} : tree.removalOf path = .removeTree ↔
    ∃ top, tree.resolve .entry path = .ok top ∧ tree.resolve .target path = .ok top ∧
      tree.at? top = some .directory := by
  constructor
  · intro asked
    unfold removalOf at asked
    split at asked
    · rename_i direct
      rw [Bool.and_eq_true, Bool.not_eq_true'] at direct
      obtain ⟨leads, other⟩ := direct
      unfold isDirectory find at leads
      rcases resolve_entry_cases tree path with same | ⟨place, target, here, link⟩
      · cases reached : tree.resolve .target path with
        | error refusal => simp [reached] at leads
        | ok top =>
          refine ⟨top, same.trans reached, rfl, ?_⟩
          rcases stands : tree.at? top with _ | _ | content | target
          all_goals simp [reached, stands] at leads
          rfl
      · simp [isLink, find, here, link] at other
    · cases asked
  · rintro ⟨top, here, reached, stands⟩
    simp [removalOf, isDirectory, isLink, find, here, reached, stands]

theorem removalOf_of_directory {path : String} {top : Location}
    (here : tree.resolve .entry path = .ok top) (stands : tree.at? top = some .directory) :
    tree.removalOf path = .removeTree := by
  rcases resolve_entry_cases tree path with same | ⟨place, target, other, link⟩
  · exact removalOf_eq_removeTree_iff.2 ⟨top, here, same.symm.trans here, stands⟩
  · rw [here] at other
    cases other
    rw [stands] at link
    cases link

end FileTree

namespace Filing

variable {path : String} {tree pruned changed : FileTree}

theorem exists_of_withoutFile (removes : tree.withoutFile path = .ok changed) :
    ∃ place, tree.resolve .entry path = .ok place ∧ changed = tree.erase place := by
  unfold FileTree.withoutFile at removes
  split at removes
  · cases removes
  rename_i spot found
  split at removes
  · cases removes
  rename_i plain
  split at removes
  · cases removes
  · cases removes
  · cases removes
  rename_i stands
  split at removes
  · cases removes
  rename_i bare
  cases removes
  refine ⟨spot.place, ?_, rfl⟩
  have short : ¬ FileTree.nameLimit < spot.name.utf8ByteSize := by
    intro long
    simp [FileTree.lookUp, long] at stands
  exact FileTree.resolve_of_spot found (Bool.eq_false_iff.2 plain) short
    (.inl (Bool.eq_false_iff.2 bare))

/-- What is removed from a pruned tree as a directory, the path names in the whole tree. -/
theorem exists_of_withoutDirectory (less : FileTree.IsPruned pruned tree)
    (removes : pruned.withoutDirectory path = .ok changed) :
    ∃ place, tree.resolve .entry path = .ok place ∧ changed = pruned.erase place := by
  obtain ⟨spot, found, plain, short, directory, -, erased⟩ := spot_of_withoutDirectory removes
  refine ⟨spot.place, ?_, erased⟩
  have whole : tree.spot path = .ok spot := by
    rcases FileTree.spot_of_isPruned less path with same | gone
    · exact same.symm.trans found
    · rw [found] at gone
      cases gone
  refine FileTree.resolve_of_spot whole plain short (.inr ?_)
  rcases less spot.place with same | gone
  · exact same.symm.trans directory
  · rw [directory] at gone
    cases gone

theorem at?_eq_none_of_isOccupied {top other : Location} (vacant : tree.isOccupied top = false)
    (inside : FileTree.isUnder top other = true) : tree.at? other = none := by
  have below : other ≠ [] := by
    rintro rfl
    cases top <;> simp [FileTree.isUnder] at inside
  rw [FileTree.at?, if_neg below, List.find?_eq_none.2, Option.map_none]
  intro found member hit
  have outside := List.any_eq_false.1 vacant found member
  rw [of_decide_eq_true hit] at outside
  exact outside inside

/-- A removal of a single directory takes the place that the path names, of which nothing stands
below, or changes nothing. -/
theorem after_removeDirectory_cases (path : String) (tree : FileTree) :
    after (removeDirectory path) tree = tree ∨
    ∃ place, tree.resolve .entry path = .ok place ∧ tree.at? place = some .directory ∧
      (∀ other, FileTree.isUnder place other = true → tree.at? other = none) ∧
      after (removeDirectory path) tree = tree.erase place := by
  rw [removeDirectory, after_change]
  split
  · cases removes : tree.withoutDirectory path with
    | error refusal => exact .inl rfl
    | ok changed =>
      obtain ⟨spot, found, plain, short, directory, vacant, erased⟩ :=
        spot_of_withoutDirectory removes
      refine .inr ⟨spot.place, ?_, directory, ?_, erased⟩
      · exact FileTree.resolve_of_spot found plain short (.inr directory)
      · intro other inside
        exact at?_eq_none_of_isOccupied vacant inside
  · exact .inl rfl

/-- A removal of a tree empties the directory that the path names, and may take the directory away,
but nothing else. -/
theorem after_removeTree_cases (nameable : FileTree.isNameable path = true) {top : Location}
    (here : tree.resolve .entry path = .ok top) (reached : tree.resolve .target path = .ok top) :
    after (removeTree path) tree = tree.eraseUnder top ∨
      after (removeTree path) tree = (tree.eraseUnder top).erase top := by
  have clears : ending (clear path) tree = .ok () := by
    rw [clear, ending_change, if_pos nameable, reached]
    rfl
  have cleared : after (clear path) tree = tree.eraseUnder top := by
    rw [clear, after_change, if_pos nameable, reached]
    rfl
  rw [removeTree, after_bind, clears, cleared]
  simp only [removeDirectory, after_change, if_pos nameable]
  cases removes : (tree.eraseUnder top).withoutDirectory path with
  | error refusal => exact .inl rfl
  | ok changed =>
    obtain ⟨place, named, same⟩ :=
      exists_of_withoutDirectory (FileTree.isPruned_eraseUnder tree top) removes
    rw [here] at named
    cases named
    exact .inr same

/-- To delete a path is noticed only at the place that it names and below it. -/
theorem at?_after_delete {place : Location} (outside : ¬ tree.Covers path place) :
    (after (delete path) tree).at? place = tree.at? place := by
  cases nameable : FileTree.isNameable path with
  | false => rw [(delete_of_not_nameable path tree nameable).2]
  | true =>
    rw [after_delete]
    split
    · rename_i asked
      obtain ⟨top, here, reached, -⟩ := FileTree.removalOf_eq_removeTree_iff.1 asked
      have other : place ≠ top := fun same => outside ⟨top, here, .inl same⟩
      have beside : FileTree.isUnder top place = false :=
        Bool.eq_false_iff.2 fun under => outside ⟨top, here, .inr under⟩
      rcases after_removeTree_cases nameable here reached with emptied | gone
      · rw [emptied, FileTree.at?_eraseUnder tree beside]
      · rw [gone, FileTree.at?_erase_of_ne _ other, FileTree.at?_eraseUnder tree beside]
    · rw [remove, after_change, if_pos nameable]
      cases removes : tree.withoutFile path with
      | error refusal => rfl
      | ok changed =>
        obtain ⟨top, here, rfl⟩ := exists_of_withoutFile removes
        have other : place ≠ top := fun same => outside ⟨top, here, .inl same⟩
        exact FileTree.at?_erase_of_ne tree other

/-- Of a directory that a path names itself, nothing is left below when the path is deleted. -/
theorem at?_after_delete_of_isUnder (nameable : FileTree.isNameable path = true)
    {top place : Location} (here : tree.resolve .entry path = .ok top)
    (stands : tree.at? top = some .directory) (under : FileTree.isUnder top place = true) :
    (after (delete path) tree).at? place = none := by
  have asked := FileTree.removalOf_of_directory here stands
  obtain ⟨same, named, reached, -⟩ := FileTree.removalOf_eq_removeTree_iff.1 asked
  rw [here] at named
  cases named
  have other : place ≠ top := by
    rintro rfl
    simp [FileTree.isUnder] at under
  rw [after_delete, if_pos asked]
  rcases after_removeTree_cases nameable here reached with emptied | gone
  · rw [emptied, FileTree.at?_eraseUnder_of_isUnder tree under]
  · rw [gone, FileTree.at?_erase_of_ne _ other, FileTree.at?_eraseUnder_of_isUnder tree under]

end Filing

end DiskFixture
