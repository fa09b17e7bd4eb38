import DiskFixture.Proofs.Disk.Leftover
import DiskFixture.Proofs.Disk.Lifetime
import DiskFixture.Proofs.Text.Strip

/-!
Builds that return. Nothing of such a build was taken back, so it went through its commands and
nothing else. Main statement: the device of the disk is what the attachment printed, stripped; a
closing detaches it if that is not empty, and none ever does if it is.
-/

namespace DiskFixture

variable {σ : Type} {α β : Type} {host : Host σ} {world : World σ}

/-- An action that issues these commands, and changes the host and the files through nothing
else. -/
structure Issues (host : Host σ) (world : World σ) (issued : List (List String))
    (action : Action σ α) : Prop where
  commands : (after action world).commands = world.commands ++ issued
  scene : (after action world).scene = world.scene.through host issued

namespace Issues

variable {issued front rest : List (List String)} {action : Action σ α} {next : α → Action σ β}

theorem of_same (commands : (after action world).commands = world.commands)
    (scene : (after action world).scene = world.scene) : Issues host world [] action :=
  ⟨by rw [commands, List.append_nil], scene⟩

theorem run (argv : List String) : Issues host world [argv] (Command.run host argv) :=
  ⟨Command.commands_after_run host argv world, Command.scene_after_run host argv world⟩

theorem bind {middle : α} (first : Issues host world front action)
    (ends : ending action world = .ok middle)
    (second : Issues host (after action world) rest (next middle)) :
    Issues host world (front ++ rest) (action >>= next) := by
  constructor
  · rw [after_bind_of_ok ends, second.commands, first.commands, List.append_assoc]
  · rw [after_bind_of_ok ends, second.scene, first.scene, Scene.through_append]

theorem bind_pure (first : Issues host world issued action) (f : α → β) :
    Issues host world issued (action >>= fun result => pure (f result)) := by
  have same : after (action >>= fun result => pure (f result)) world = after action world := by
    rw [after_bind]
    cases ending action world <;> rfl
  exact ⟨same ▸ first.commands, same ▸ first.scene⟩

theorem of_performs {plan : List Plan.Step} {result : α}
    (performs : Performs host world plan action) (ends : ending action world = .ok result) :
    Issues host world (plan.map (·.argv)) action := by
  have issued := Plan.issued_of_ok (performs.verdict_of_ok ends)
  exact ⟨issued ▸ performs.commands, performs.scene_of_ok ends⟩

/-- The wait for device nodes issues its command if there is a tool for it, whatever comes of it. -/
theorem settle (host : Host σ) (world : World σ) :
    Issues host world (if host.hasTool world.memory "udevadm" then [["udevadm", "settle"]] else [])
      (Command.settle host) := by
  have waits : Issues host world [["udevadm", "settle"]]
      (Command.run host ["udevadm", "settle"]) := run _
  cases found : host.hasTool world.memory "udevadm" with
  | false =>
    have left : after (Command.settle host) world = world := by
      simp [Command.settle, after_bind, found]
    exact of_same (by rw [left]) (by rw [left])
  | true =>
    simp only [if_true]
    cases ends : ending (Command.run host ["udevadm", "settle"]) world with
    | ok output =>
      have left : after (Command.settle host) world
          = after (Command.run host ["udevadm", "settle"]) world := by
        simp [Command.settle, after_bind, found, ends]
      exact ⟨left ▸ waits.commands, left ▸ waits.scene⟩
    | error fault =>
      constructor <;> cases command : fault.problem.isCommand <;>
        simp [Command.settle, after_bind, found, ends, command]

end Issues

namespace LoopDisk

variable {path : String} {specs : List PartitionSpec} {device : String} {disk : LoopDisk}

/-- The wait for device nodes behind an attachment, unless the settings do without it. -/
def await (host : Host σ) : Action σ Unit := do
  if Settings.isOn (← get).settings "settle_udev" true then Command.settle host

theorem attach_eq (host : Host σ) (path : String) :
    attach host path = Command.run host (Plan.attach path) >>= fun output =>
      await host >>= fun _ => pure (Text.strip output) := by
  simp only [attach, await, bind_assoc]
  congr 1
  funext output
  congr 1
  funext world
  split <;> simp

theorem issues_await (host : Host σ) (world : World σ) :
    ∃ waits, (∀ argv ∈ waits, argv = ["udevadm", "settle"]) ∧
      Issues host world waits (await host) := by
  have nothing : Issues host world [] (get : Action σ (World σ)) := .of_same rfl rfl
  cases wanted : Settings.isOn world.settings "settle_udev" true with
  | false => exact ⟨[], by simp, nothing.bind rfl (by simpa [wanted] using .of_same rfl rfl)⟩
  | true =>
    refine ⟨_, ?_, nothing.bind rfl (by simpa [wanted] using .settle host world)⟩
    split <;> simp

/-- An attachment that returns issues its command, which went well, and perhaps one to wait. -/
theorem issues_attach (attaches : ending (attach host path) world = .ok device) :
    (world.scene.reply host (Plan.attach path)).succeeds = true ∧
      ∃ waits, (∀ argv ∈ waits, argv = ["udevadm", "settle"]) ∧
        Issues host world (Plan.attach path :: waits) (attach host path) := by
  rw [attach_eq] at attaches ⊢
  obtain ⟨output, runs, rest⟩ := ending_bind_eq_ok_iff.1 attaches
  obtain ⟨done, awaits, -⟩ := ending_bind_eq_ok_iff.1 rest
  obtain ⟨waits, settles, second⟩ :=
    issues_await host (after (Command.run host (Plan.attach path)) world)
  have answer := (Command.ending_run host (Plan.attach path) world).symm.trans runs
  exact ⟨(Command.reading_eq_ok_iff.1 answer).1, waits, settles,
    (Issues.run _).bind runs (second.bind_pure _)⟩

/-- Where the steps up to the attachment return a device, they issued their plan and perhaps a
command to wait. -/
theorem issues_untilAttached
    (attaches : ending (untilAttached host path specs) world = .ok device) :
    ((world.scene.through host (Plan.untilPartitioned path specs)).reply host
        (Plan.attach path)).succeeds = true ∧
      ∃ waits, (∀ argv ∈ waits, argv = ["udevadm", "settle"]) ∧
        Issues host world (Plan.untilAttached path specs ++ waits)
          (untilAttached host path specs) := by
  obtain ⟨done, partitions, rest⟩ := ending_bind_eq_ok_iff.1 attaches
  have first : Issues host world _ (untilPartitioned host path specs) :=
    .of_performs (Performs.untilPartitioned host world path specs) partitions
  rw [Plan.argv_must] at first
  obtain ⟨success, waits, settles, second⟩ := issues_attach rest
  rw [first.scene] at success
  refine ⟨success, waits, settles, ?_⟩
  rw [Plan.untilAttached_eq, List.append_assoc]
  exact first.bind partitions second

/-- The device of a disk that a build returns is what the attachment printed, stripped, and it is
empty if and only if nothing but blanks was printed. A device that is not empty is released by the
next closing, which issues nothing else; one that is empty is never released, whatever the session
does. -/
theorem device_of_build (returned : ending (build host path specs) world = .ok disk) :
    ∃ device front rest,
      let answer := (world.scene.through host front).reply host (Plan.attach path)
      disk.device = .text device ∧
      (after (build host path specs) world).commands
        = world.commands ++ front ++ Plan.attach path :: rest ∧
      answer.succeeds = true ∧
      device = Text.strip answer.output ∧
      Text.IsStripped device ∧
      (device ≠ "" ↔ ∃ c ∈ answer.output.toList, Text.isBlank c = false) ∧
      (device ≠ "" → ∀ later : World σ,
        (after (disk.close host) later).commands = later.commands ++ [Plan.release device]) ∧
      (device = "" → ∀ (state : Lifetime.State σ) (number : Nat), state.disks[number]? = some disk →
        ∀ session, ∀ call ∈ Lifetime.calls host number state session,
          (call.left host).commands = call.world.commands) := by
  have named := (eq_of_build returned).2
  obtain ⟨device, attaches, completes, alike⟩ := parts_of_build returned
  obtain ⟨success, waits, -, first⟩ := issues_untilAttached attaches
  have onward : CommandsOnly host (onceAttached host path specs device) :=
    CommandsOnly.compositional.onceAttached path specs device
  obtain ⟨rest, issued, -⟩ := onward (after (untilAttached host path specs)
    (started host path specs world))
  refine ⟨Plan.device host world.scene path specs, Plan.untilPartitioned path specs, waits ++ rest,
    named, ?_, success, rfl, Text.isStripped_strip _, Text.strip_ne_empty_iff _, ?_, ?_⟩
  · rw [alike.commands, issued, first.commands, commands_started, Plan.untilAttached_eq]
    simp only [List.append_assoc, List.cons_append, List.nil_append]
  · intro nonempty later
    rw [commands_after_close, releases_of_text named, if_neg nonempty]
  · intro empty state number there session call member
    -- a device without a name counts as none, from the first closing on
    have detached : disk.attached? = none := by
      simp [attached?, named, empty, Value.isTruthy]
    have same := (Lifetime.life_of_detached host there session detached).2 call member
    rw [Lifetime.Call.left, commands_after_close, same, releases, detached]
    exact List.append_nil _

theorem device_of_build_obliging :
    ∃ disk, ending (build .obliging "disk.img" [.data]) .untouched = .ok disk ∧
      disk.device = .text "/dev/loop0" ∧
      (after (disk.close .obliging) .untouched).commands = [["losetup", "-d", "/dev/loop0"]] := by
  have worded : ∀ spec ∈ [PartitionSpec.data], spec.IsWorded := by
    simp [PartitionSpec.isWorded_data]
  obtain ⟨⟨disk, returned⟩, -⟩ := build_of_fulfils .obliging .untouched "disk.img" [.data]
    worded (by decide +kernel) (by decide +kernel)
  have printed : Plan.device .obliging World.untouched.scene "disk.img" [.data] = "/dev/loop0" := by
    decide +kernel
  have named := (eq_of_build returned).2
  rw [printed] at named
  obtain ⟨device, -, -, same, -, -, -, -, -, detaches, -⟩ := device_of_build returned
  obtain rfl : device = "/dev/loop0" := Value.text.inj (same.symm.trans named)
  exact ⟨disk, returned, named, detaches (by decide) .untouched⟩

end LoopDisk

/-- A host on which an attachment goes well, but prints nothing. -/
def Host.mute : Host Unit :=
  .fixed
    (fun argv => match argv with
      | "losetup" :: _ => .exited (.int 0) ""
      | _ => .usual argv)
    imaging

/-- A disk whose device has no name is returned, and no closing of it detaches anything. -/
theorem LoopDisk.device_of_build_mute :
    let built := Lifetime.run .mute ⟨.untouched, []⟩ [.build "disk.img" [.data]]
    Plan.attach "disk.img" ∈ built.world.commands ∧
      (built.disks.map fun disk => disk.device.shown) = [""] ∧
      (Lifetime.run .mute built [.close 0, .close 0]).world.commands = built.world.commands := by
  decide +kernel

end DiskFixture
