import DiskFixture.Files.Change

/-!
Walks part by part. A part of a path that is not the last one is taken in one stride, which moves
on, follows a link or stops. Main statements: a walk takes the front of its parts first, and where
something was taken away from the tree a walk ends as before or meets a missing part.
-/

namespace DiskFixture.FileTree

variable {tree : FileTree} {aim : Aim}

/-- How a part that is not the last one is taken: the place from which the walk goes on, the links
that it may still follow, and the parts that a link puts in front of the rest. -/
def stride (tree : FileTree) (links : Nat) (here : Location) (part : String) :
    Except Refusal (Location × Nat × List String) :=
  if part = "" ∨ part = "." then .ok (here, links, [])
  else if part = ".." then .ok (here.dropLast, links, [])
  else if nameLimit < part.utf8ByteSize then .error .nameTooLong
  else
    match tree.at? (here ++ [part]), links with
    | none, _ => .error .missing
    | some .directory, links => .ok (here ++ [part], links, [])
    | some (.file _), _ => .error .notDirectory
    | some (.link _), 0 => .error .tooManyLinks
    | some (.link target), links + 1 =>
      .ok (if Path.isAbsolute target then [] else here, links, Path.parts target)

/-- A part with parts behind it is taken in one stride. A walk for a file stops where nothing but
slashes is behind. -/
theorem walk_cons_of_not_isSlashed (links : Nat) (here : Location) (part : String)
    {rest : List String} (proper : aim = .file → isSlashed rest = false) (more : rest ≠ []) :
    tree.walk aim links here (part :: rest) =
      match tree.stride links here part with
      | .error refusal => .error refusal
      | .ok (place, left, inserted) => tree.walk aim left place (inserted ++ rest) := by
  have goesOn : ¬ (aim = .file ∧ isSlashed rest = true) := by
    rintro ⟨file, slashed⟩
    rw [proper file] at slashed
    cases slashed
  unfold stride
  by_cases dot : part = "" ∨ part = "."
  · cases links <;> simp [walk, walkFrom, dot]
  by_cases up : part = ".."
  · cases links <;> simp [walk, walkFrom, up]
  by_cases long : nameLimit < part.utf8ByteSize
  · cases links <;> simp [walk, walkFrom, dot, up, long, goesOn]
  rcases stands : tree.at? (here ++ [part]) with _ | _ | content | target <;> cases links <;>
    simp [walk, walkFrom, dot, up, long, goesOn, stands, more]

theorem walk_cons (links : Nat) (here : Location) (part : String) {rest : List String}
    (proper : aim ≠ .file) (more : rest ≠ []) :
    tree.walk aim links here (part :: rest) =
      match tree.stride links here part with
      | .error refusal => .error refusal
      | .ok (place, left, inserted) => tree.walk aim left place (inserted ++ rest) :=
  walk_cons_of_not_isSlashed links here part (fun file => absurd file proper) more

/-- A stride puts parts in front of the rest only by following a link. -/
theorem links_of_stride {links left : Nat} {here place : Location} {part : String}
    {inserted : List String} (taken : tree.stride links here part = .ok (place, left, inserted)) :
    (left = links ∧ inserted = []) ∨ left < links := by
  unfold stride at taken
  split at taken
  · cases taken
    exact .inl ⟨rfl, rfl⟩
  split at taken
  · cases taken
    exact .inl ⟨rfl, rfl⟩
  split at taken
  · cases taken
  split at taken <;> cases taken
  · exact .inl ⟨rfl, rfl⟩
  · exact .inr (Nat.lt_succ_self _)

/-- Strides are taken one after the other: an induction over the links that may still be followed,
and for each number of links over the parts. -/
theorem stride_induction {motive : Nat → Location → List String → Prop}
    (nil : ∀ links here, motive links here [])
    (stop : ∀ links here part rest refusal, tree.stride links here part = .error refusal →
      motive links here (part :: rest))
    (go : ∀ links here part rest place left inserted,
      tree.stride links here part = .ok (place, left, inserted) →
      motive left place (inserted ++ rest) → motive links here (part :: rest))
    (links : Nat) (here : Location) (parts : List String) : motive links here parts := by
  induction links using Nat.strongRecOn generalizing here parts with
  | ind links fewer =>
    induction parts generalizing here with
    | nil => exact nil links here
    | cons part rest shorter =>
      cases taken : tree.stride links here part with
      | error refusal => exact stop links here part rest refusal taken
      | ok found =>
        obtain ⟨place, left, inserted⟩ := found
        apply go links here part rest place left inserted taken
        rcases links_of_stride taken with ⟨rfl, rfl⟩ | less
        · exact shorter place
        · exact fewer left less place (inserted ++ rest)

/-- A walk takes the front of its parts first. Where it stands then, and how many links it may still
follow, does not depend on the rest. -/
theorem walk_append (tree : FileTree) (links : Nat) (here : Location) (front : List String) :
    ∃ stop : Except Refusal (Location × Nat), ∀ aim rest, aim ≠ .file → rest ≠ [] →
      tree.walk aim links here (front ++ rest) =
        match stop with
        | .error refusal => .error refusal
        | .ok (place, left) => tree.walk aim left place rest := by
  induction links, here, front using @stride_induction tree with
  | nil links here => exact ⟨.ok (here, links), fun aim rest _ _ => rfl⟩
  | stop links here part front refusal taken =>
    refine ⟨.error refusal, fun aim rest proper more => ?_⟩
    rw [List.cons_append, walk_cons links here part proper (by simp [more]), taken]
  | go links here part front place left inserted taken ih =>
    obtain ⟨stop, found⟩ := ih
    refine ⟨stop, fun aim rest proper more => ?_⟩
    rw [List.cons_append, walk_cons links here part proper (by simp [more]), taken,
      ← found aim rest proper more, List.append_assoc]

def IsPruned (pruned tree : FileTree) : Prop :=
  ∀ place, pruned.at? place = tree.at? place ∨ pruned.at? place = none

theorem isPruned_erase (tree : FileTree) (place : Location) : IsPruned (tree.erase place) tree := by
  intro other
  by_cases same : other = place
  · subst other
    by_cases root : place = []
    · exact .inl (by simp [at?, root])
    · exact .inr (at?_erase_self tree root)
  · exact .inl (at?_erase_of_ne tree same)

theorem isPruned_eraseUnder (tree : FileTree) (top : Location) :
    IsPruned (tree.eraseUnder top) tree := by
  intro other
  cases under : isUnder top other with
  | false => exact .inl (at?_eraseUnder tree under)
  | true => exact .inr (at?_eraseUnder_of_isUnder tree under)

theorem IsPruned.trans {first second third : FileTree} (more : IsPruned third second)
    (some : IsPruned second first) : IsPruned third first := by
  intro place
  rcases more place with same | gone
  · exact same ▸ some place
  · exact .inr gone

theorem stride_of_isPruned {pruned : FileTree} (less : IsPruned pruned tree) (links : Nat)
    (here : Location) (part : String) :
    pruned.stride links here part = tree.stride links here part ∨
      pruned.stride links here part = .error .missing := by
  unfold stride
  split
  · exact .inl rfl
  split
  · exact .inl rfl
  split
  · exact .inl rfl
  rcases less (here ++ [part]) with same | gone
  · exact .inl (by rw [same])
  · exact .inr (by rw [gone])

/-- The walk to a directory ends in a pruned tree as it did, or something is missing on the way. -/
theorem walk_of_isPruned {pruned : FileTree} (less : IsPruned pruned tree) (links : Nat)
    (here : Location) (front : List String) :
    pruned.walk .target links here (front ++ [""]) = tree.walk .target links here (front ++ [""]) ∨
      pruned.walk .target links here (front ++ [""]) = .error .missing := by
  have proper : Aim.target ≠ .file := by decide
  induction links, here, front using @stride_induction tree with
  | nil links here => cases links <;> exact .inl rfl
  | stop links here part front refusal taken =>
    rw [List.cons_append, walk_cons links here part proper (by simp),
      walk_cons links here part proper (by simp)]
    rcases stride_of_isPruned less links here part with same | gone
    · exact .inl (by rw [same, taken])
    · exact .inr (by rw [gone])
  | go links here part front place left inserted taken ih =>
    rw [List.cons_append, walk_cons links here part proper (by simp),
      walk_cons links here part proper (by simp)]
    rcases stride_of_isPruned less links here part with same | gone
    · rw [same, taken]
      simpa using ih
    · exact .inr (by rw [gone])

end DiskFixture.FileTree
