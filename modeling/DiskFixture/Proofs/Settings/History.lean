import DiskFixture.Proofs.Settings.Load
import DiskFixture.Proofs.Value.Fields
import DiskFixture.Proofs.Value.Members

/-!
Histories of the settings: loads, and settings set and asked for, in any order, while the files
change as they like. Main statement: what is asked for is what was set last since the last load, or
what the file then held, or the default, and nothing that came before this load has a say in it.
-/

namespace DiskFixture.Settings

variable {σ : Type}

/-- What happens to the settings and the files. -/
inductive Move where
  | change (files : FileTree → FileTree)
  | load
  | set (key : String) (value : Value)
  | get (key : String) (otherwise : Value)

namespace Move

/-- Makes a move; the settings file is at `path`. -/
def act (path : String) : Move → Action σ Value
  | .change files => do
    modify fun world => { world with files := files world.files }
    return .null
  | .load => do
    Settings.load path
    return .null
  | .set key value => do
    Settings.set key value
    return .null
  | .get key otherwise => return lookup (← MonadState.get).settings key otherwise

/-- The setting that a move sets, and its value. -/
def entry? : Move → Option (String × Value)
  | .set key value => some (key, value)
  | _ => none

end Move

/-- The world after some moves. A move that ends in a fault does not stop those behind it. -/
def history (path : String) (world : World σ) (moves : List Move) : World σ :=
  moves.foldl (fun world move => after (move.act path) world) world

/-- The settings that a load leaves in force. -/
def loaded (path : String) (files : FileTree) : Fields :=
  match files.read path with
  | .error _ => defaults
  | .ok content =>
    match ofContent content with
    | .ok settings => settings
    | .error _ => defaults

section Loaded

variable {path key : String} {files : FileTree}

theorem settings_after_load (path : String) (world : World σ) :
    (after (load path) world).settings = loaded path world.files := by
  rw [after_load, loaded]
  cases world.files.read path with
  | error fault => rfl
  | ok content => rfl

/-- The last member of a key in the file is the setting that a load leaves. -/
theorem get?_loaded_of_members {text : String} {members : Fields}
    (content : files.read path = .ok text.toUTF8) (object : Json.members? text = some members) :
    (loaded path files).get? key = (Fields.last? members key).or (defaults.get? key) := by
  have reads := Json.read_eq_object_iff.2 ⟨members, object, rfl⟩
  rw [loaded, content]
  dsimp only
  rw [ofContent_of_object rfl reads]
  exact Fields.get?_overlay_overlay defaults members key

/-- Where no object with the key is in the file, a load leaves the default. -/
theorem get?_loaded_of_absent
    (absent : ∀ (text : String) (members : Fields), files.read path = .ok text.toUTF8 →
      Json.members? text = some members → ∀ entry ∈ members, entry.1 ≠ key) :
    (loaded path files).get? key = defaults.get? key := by
  by_cases object : ∃ (text : String) (members : Fields),
      files.read path = .ok text.toUTF8 ∧ Json.members? text = some members
  · obtain ⟨text, members, content, object⟩ := object
    rw [get?_loaded_of_members content object, Fields.last?_eq_none (absent _ _ content object)]
    rfl
  · have plain : loaded path files = defaults := by
      unfold loaded
      split
      · rfl
      next content reads =>
      split
      · next settings found =>
        refine eq_defaults_of_ofContent ?_ found
        intro text entries encodes holds
        obtain ⟨members, members?, -⟩ := Json.read_eq_object_iff.1 holds
        exact object ⟨text, members, encodes ▸ reads, members?⟩
      · rfl
    rw [plain]

end Loaded

section History

variable (path : String) (world : World σ)

theorem history_append (front rest : List Move) :
    history path world (front ++ rest) = history path (history path world front) rest :=
  List.foldl_append

theorem settings_after_act (move : Move) (other : move ≠ .load) :
    (after (move.act path) world).settings
      = Fields.overlay world.settings move.entry?.toList := by
  cases move with
  | load => exact absurd rfl other
  | change files => rfl
  | set key value => rfl
  | get key otherwise => rfl

/-- Without a load, the settings that are set are laid over those in force. -/
theorem settings_history (since : List Move) (later : Move.load ∉ since) :
    (history path world since).settings
      = Fields.overlay world.settings (since.filterMap Move.entry?) := by
  induction since generalizing world with
  | nil => rfl
  | cons move rest ih =>
    have other : move ≠ .load := fun same => later (same ▸ List.mem_cons_self)
    have step := settings_after_act path world move other
    have run := ih (after (move.act path) world) fun member => later (List.mem_cons_of_mem _ member)
    have moves : history path world (move :: rest)
        = history path (after (move.act path) world) rest := rfl
    rw [moves, run, step]
    cases sets : move.entry? with
    | none => simp [sets]
    | some entry =>
      obtain ⟨name, value⟩ := entry
      simp [sets]

/-- Behind a load, the settings in force are those that it left and those set since. -/
theorem settings_since_load (before since : List Move) (later : Move.load ∉ since) :
    (history path world (before ++ .load :: since)).settings
      = Fields.overlay (loaded path (history path world before).files)
        (since.filterMap Move.entry?) := by
  have moves : history path world (before ++ .load :: since)
      = history path (after (Move.load.act path) (history path world before)) since :=
    history_append path world before (.load :: since)
  have load : (after (Move.load.act path) (history path world before)).settings
      = loaded path (history path world before).files := by
    rw [← settings_after_load, Move.act, after_bind]
    cases ending (Settings.load path) (history path world before) <;> rfl
  rw [moves, settings_history _ _ since later, load]

theorem ending_get_since_load (before since : List Move) (later : Move.load ∉ since)
    (key : String) (otherwise : Value) :
    ending ((Move.get key otherwise).act path) (history path world (before ++ .load :: since))
      = .ok (((Fields.last? (since.filterMap Move.entry?) key).or
        ((loaded path (history path world before).files).get? key)).getD otherwise) := by
  rw [← Fields.get?_overlay, ← settings_since_load path world before since later]
  rfl

end History

theorem mem_entries_iff {moves : List Move} {key : String} {value : Value} :
    (key, value) ∈ moves.filterMap Move.entry? ↔ Move.set key value ∈ moves := by
  rw [List.mem_filterMap]
  constructor
  · rintro ⟨move, member, sets⟩
    cases move <;> cases sets
    exact member
  · intro member
    exact ⟨_, member, rfl⟩

theorem free_of_unset {moves : List Move} {key : String}
    (unset : ∀ value, Move.set key value ∉ moves) :
    ∀ entry ∈ moves.filterMap Move.entry?, entry.1 ≠ key := by
  rintro ⟨name, value⟩ member rfl
  exact unset value (mem_entries_iff.1 member)

theorem last?_of_set {front rest : List Move} {key : String} {value : Value}
    (last : ∀ other, Move.set key other ∉ rest) :
    Fields.last? ((front ++ .set key value :: rest).filterMap Move.entry?) key = some value := by
  have split : (front ++ .set key value :: rest).filterMap Move.entry?
      = front.filterMap Move.entry? ++ (key, value) :: rest.filterMap Move.entry? := by
    rw [List.filterMap_append, List.filterMap_cons]
    rfl
  rw [split, Fields.last?_eq_some (free_of_unset last)]

/-- Setting one name says nothing of another. -/
theorem last?_of_other {front rest : List Move} {key name : String} {value : Value}
    (different : name ≠ key) :
    Fields.last? ((front ++ .set name value :: rest).filterMap Move.entry?) key
      = Fields.last? ((front ++ rest).filterMap Move.entry?) key := by
  have alone : Fields.last? ((Move.set name value :: rest).filterMap Move.entry?) key
      = Fields.last? (rest.filterMap Move.entry?) key := by
    show (Fields.last? (rest.filterMap Move.entry?) key).or
      (if name = key then some value else none) = _
    rw [if_neg different, Option.or_none]
  rw [List.filterMap_append, List.filterMap_append, Fields.last?_append, Fields.last?_append, alone]

/-- A setting that is asked for is what was set last since the last load; or what the last member of
its name in the settings file was at that load; or the default; or what was given with the question.
Nothing before the load has a say in the settings, and no setting in those of other names. -/
theorem get_of_history (path : String) (world : World σ) (before since : List Move)
    (later : Move.load ∉ since) (key : String) (otherwise : Value) :
    let content := (history path world before).files.read path
    let left := history path world (before ++ .load :: since)
    let answer := ending ((Move.get key otherwise).act path) left
    (∀ front rest value, since = front ++ .set key value :: rest →
      (∀ other, Move.set key other ∉ rest) → answer = .ok value) ∧
    ((∀ value, Move.set key value ∉ since) →
      (∀ (text : String) (front rest : Fields) (value : Value), content = .ok text.toUTF8 →
        Json.members? text = some (front ++ (key, value) :: rest) →
        (∀ entry ∈ rest, entry.1 ≠ key) → answer = .ok value) ∧
      ((∀ (text : String) (members : Fields), content = .ok text.toUTF8 →
        Json.members? text = some members → ∀ entry ∈ members, entry.1 ≠ key) →
        answer = .ok ((defaults.get? key).getD otherwise))) ∧
    (∀ (other : World σ) (earlier : List Move),
      (history path other earlier).files.read path = content →
      (history path other (earlier ++ .load :: since)).settings = left.settings) ∧
    (∀ front rest name value, since = front ++ .set name value :: rest → name ≠ key →
      ending ((Move.get key otherwise).act path)
        (history path world (before ++ .load :: (front ++ rest))) = answer) := by
  dsimp only
  have settings := settings_since_load path world before since later
  have answers := ending_get_since_load path world before since later key otherwise
  refine ⟨?_, ?_, ?_, ?_⟩
  · rintro front rest value rfl last
    rw [answers, last?_of_set last]
    rfl
  · intro unset
    rw [Fields.last?_eq_none (free_of_unset unset)] at answers
    refine ⟨?_, ?_⟩
    · intro text front rest value holds object last
      rw [answers, get?_loaded_of_members holds object, Fields.last?_eq_some last]
      rfl
    · intro absent
      rw [answers, get?_loaded_of_absent absent]
      rfl
  · intro other earlier same
    have files : loaded path (history path other earlier).files
        = loaded path (history path world before).files := by
      rw [loaded, same, loaded]
    rw [settings_since_load path other earlier since later, settings, files]
  · rintro front rest name value rfl different
    have calm : Move.load ∉ front ++ rest := by simpa using later
    rw [answers, ending_get_since_load path world before _ calm,
      last?_of_other different]

/-- Whether members are these integers. -/
def areIntegers : Fields → List (String × Int) → Bool
  | [], [] => true
  | (name, .int held) :: members, (key, number) :: numbers =>
    name == key && held == number && areIntegers members numbers
  | _, _ => false

theorem eq_of_areIntegers {members : Fields} {numbers : List (String × Int)}
    (same : areIntegers members numbers = true) :
    members = numbers.map fun (key, number) => (key, .int number) := by
  fun_induction areIntegers members numbers with
  | case1 => rfl
  | case2 name held members key number numbers ih =>
    simp only [Bool.and_eq_true, beq_iff_eq] at same
    obtain ⟨⟨rfl, rfl⟩, rest⟩ := same
    rw [ih rest, List.map_cons]
  | case3 => cases same

/-- Of a repeated key the last member counts, what was set before the load is gone, and what is set
behind it stands. -/
theorem get_of_history_repeated :
    let text := "\x7b\"a\": 1, \"a\": 2\x7d"
    let world : World Unit := .holding [("settings.json", text.toUTF8)]
    let since : List Move := [.set "b" (.int 3)]
    let left := history "settings.json" world ([.set "a" (.int 9)] ++ .load :: since)
    Move.load ∉ since ∧
      ending ((Move.get "a" .null).act "settings.json") left = .ok (.int 2) ∧
      ending ((Move.get "b" .null).act "settings.json") left = .ok (.int 3) := by
  intro text world since left
  have later : Move.load ∉ since := by simp [since]
  have object : Json.members? text = some ([("a", .int 1)] ++ ("a", .int 2) :: []) := by
    have listed : (Json.members? text).any (areIntegers · [("a", 1), ("a", 2)]) = true := by
      decide +kernel
    obtain ⟨members, holds, same⟩ := Option.any_eq_true _ _ |>.1 listed
    rw [holds, eq_of_areIntegers same]
    rfl
  have content : (history "settings.json" world [.set "a" (.int 9)]).files.read "settings.json"
      = .ok text.toUTF8 := read_holding_settings _
  have first := get_of_history "settings.json" world [.set "a" (.int 9)] since later "a" .null
  have second := get_of_history "settings.json" world [.set "a" (.int 9)] since later "b" .null
  refine ⟨later, ?_, ?_⟩
  · refine (first.2.1 ?_).1 text _ _ _ content object ?_
    · simp [since]
    · simp
  · refine second.1 [] [] _ rfl ?_
    simp

end DiskFixture.Settings
