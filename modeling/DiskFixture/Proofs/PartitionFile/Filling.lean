import DiskFixture.PartitionFile
import DiskFixture.Proofs.Disk.BuildPlan
import DiskFixture.Proofs.Mount

/-!
Making and filling a partition file. Main statements: two commands make it, and a creator is called
once, behind the mount of the file and in front of its release, or not at all.
-/

namespace DiskFixture

variable {σ : Type} {host : Host σ}

/-- The commands that make a file with a filesystem. -/
def Plan.ofFile (path filesystem : String) (size : Value) : List Plan.Step :=
  [must (allocate path size), must ["mkfs." ++ filesystem, path]]

namespace PartitionFile

section Make

variable (host) (path filesystem : String) (size : Value) (world : World σ)

def make : Action σ Unit := do
  allocate host path size
  let _ ← Filesystem.make host (.text path) (.text filesystem) .null

theorem performs_make :
    Performs host world (Plan.ofFile path filesystem size) (make host path filesystem size) :=
  (Performs.allocate path size).bind fun _ _ => (Performs.make_of_command rfl).bind_pure _

end Make

section Fill

variable (path : String)

def fill (host : Host σ) (path : String) : Option (String → Action σ Unit) → Action σ Unit
  | none => pure ()
  | some creator => populate host path creator

/-- How a file that was made comes to be filled: the world that is left, and whether all went well.
A creator is called once, behind the mount of the file, or not at all. Of the release behind it,
only a call that goes wrong is seen. -/
inductive Fills (host : Host σ) (path : String) (made : World σ) :
    Option (String → Action σ Unit) → World σ → Bool → Prop
  | unasked : Fills host path made none made true
  | unplaced {creator : String → Action σ Unit} {fault : Fault} {full : World σ}
      (fails : ending (Mount.makePoint host) made = .error fault)
      (commands : full.commands = made.commands) :
      Fills host path made (some creator) full false
  | unmounted {creator : String → Action σ Unit} {point : String} {full : World σ}
      (placed : ending (Mount.makePoint host) made = .ok point)
      (fails : ((after (Mount.makePoint host) made).scene.reply host
        (Mount.mounting path point)).succeeds = false)
      (commands : full.commands = made.commands ++ [Mount.mounting path point]) :
      Fills host path made (some creator) full false
  | called {creator : String → Action σ Unit} {point : String} {before full : World σ}
      (placed : ending (Mount.makePoint host) made = .ok point)
      (mounts : ((after (Mount.makePoint host) made).scene.reply host
        (Mount.mounting path point)).succeeds = true)
      (issued : before.commands = made.commands ++ [Mount.mounting path point])
      (scene : before.scene
        = (after (Mount.makePoint host) made).scene.next host (Mount.mounting path point))
      (unset : before.settings = made.settings)
      (commands : full.commands = (after (creator point) before).commands
        ++ Plan.issued host (after (creator point) before).scene (Mount.releasePlan point true))
      (settings : full.settings = (after (creator point) before).settings) :
      Fills host path made (some creator) full
        ((Mount.releasing host point true (after (creator point) before).scene).isOk
          && (ending (creator point) before).isOk)

variable {path} in
theorem Fills.of_none {made full : World σ} {filled : Bool}
    (fills : Fills host path made none full filled) : full = made ∧ filled = true := by
  cases fills
  exact ⟨rfl, rfl⟩

variable {path} in
/-- Where a creator filled the file, every command of the release was issued. -/
theorem Fills.of_some {made full : World σ} {creator : String → Action σ Unit} {filled : Bool}
    (fills : Fills host path made (some creator) full filled) (success : filled = true) :
    ∃ point before, before.commands = made.commands ++ [Mount.mounting path point] ∧
      before.settings = made.settings ∧ (ending (creator point) before).isOk = true ∧
      full.commands = (after (creator point) before).commands ++ Mount.unmounting point ∧
      full.settings = (after (creator point) before).settings := by
  cases fills with
  | unplaced fails commands => cases success
  | unmounted placed fails commands => cases success
  | @called _ point before _ placed mounts issued scene unset commands settings =>
    rw [Bool.and_eq_true] at success
    rw [Mount.issued_of_releasing success.1] at commands
    exact ⟨point, before, issued, unset, success.2, commands, settings⟩

/-- A creator, whatever it raises being a populate fault. -/
def filler (path : String) (creator : String → Action σ Unit) (point : String) :
    Action σ Unit := do
  match ← Action.attempt (creator point) with
  | .ok _ => return
  | .error fault =>
    if fault.problem.isPopulate then throw fault
    else throw (.dueTo (.populate (.text point) (.text fault.message) (.text path)) fault)

theorem populate_eq (host : Host σ) (creator : String → Action σ Unit) :
    populate host path creator = Mount.within host (.text path) (filler path creator) := rfl

theorem isOk_filler (creator : String → Action σ Unit) (point : String) (before : World σ) :
    (ending (filler path creator point) before).isOk = (ending (creator point) before).isOk := by
  cases ends : ending (creator point) before with
  | ok done => simp [filler, ending_bind, ends]
  | error fault =>
    cases populate : fault.problem.isPopulate <;>
      simp [filler, ending_bind, ends, populate, Except.isOk, Except.toBool]

theorem after_filler (creator : String → Action σ Unit) (point : String) (before : World σ) :
    after (filler path creator point) before = after (creator point) before := by
  cases ends : ending (creator point) before with
  | ok done => simp [filler, after_bind, ends]
  | error fault =>
    cases populate : fault.problem.isPopulate <;> simp [filler, after_bind, ends, populate]

theorem fills_fill (host : Host σ) (creator : Option (String → Action σ Unit)) (made : World σ) :
    Fills host path made creator (after (fill host path creator) made)
      (ending (fill host path creator) made).isOk := by
  cases creator with
  | none => exact .unasked
  | some creator =>
    simp only [fill, populate_eq]
    cases placed : ending (Mount.makePoint host) made with
    | error fault =>
      obtain ⟨ends, left⟩ := Mount.within_of_unplaced path (filler path creator) made placed
      rw [ends, left]
      exact .unplaced placed (Mount.places_makePoint host made).commands
    | ok point =>
      cases mounts : Command.reading (Mount.mounting path point)
        ((after (Mount.makePoint host) made).scene.reply host (Mount.mounting path point)) with
      | error fault =>
        obtain ⟨ends, left⟩ :=
          Mount.within_of_unmounted path (filler path creator) made placed mounts
        obtain ⟨-, commands, -⟩ :=
          Mount.release_spec (Mount.tried host path point made) host point false
        rw [Mount.commands_tried, ← left] at commands
        have bad : (ending (Mount.within host (.text path) (filler path creator)) made).isOk
            = false := by
          rw [ends]
          cases Mount.releasing host point false (Mount.tried host path point made).scene <;> rfl
        rw [bad]
        exact .unmounted placed (Command.not_succeeds_of_reading mounts)
          (commands.trans (List.append_nil _))
      | ok output =>
        let before := Mount.mounted host path point made
        obtain ⟨ends, left⟩ := Mount.within_of_mounted path (filler path creator) made placed mounts
        rw [after_filler] at ends left
        obtain ⟨-, commands, settings⟩ :=
          Mount.release_spec (after (creator point) before) host point true
        rw [← left] at commands settings
        -- the creator decides, but a call of the release that goes wrong takes its place
        have filled : (ending (Mount.within host (.text path) (filler path creator)) made).isOk
            = ((Mount.releasing host point true (after (creator point) before).scene).isOk
              && (ending (creator point) before).isOk) := by
          rw [ends, ← isOk_filler]
          cases Mount.releasing host point true (after (creator point) before).scene <;> rfl
        rw [filled]
        exact .called placed (Command.reading_eq_ok_iff.1 mounts).1
          (Mount.commands_tried path made host point) (Mount.scene_tried path made host point)
          (Mount.settings_tried path made host point) commands settings

end Fill

end PartitionFile

end DiskFixture
