import DiskFixture.Proofs.Disk.Returned
import DiskFixture.Proofs.Partition.Node

/-!
The partitions of a disk that a build returns. The loop over the specifications takes one device
node after the other, looks up its identifier and formats it. Main statement: the partitions are
those that were asked for, in their order, and each has the node of its position and the identifier
that the only lookup of this node printed.
-/

namespace DiskFixture

variable {σ : Type} {host : Host σ} {world : World σ} {scene : Scene σ} {device : String}
  {index : Nat} {specs : List PartitionSpec} {partitions : List Partition}

theorem Layout.node_inj {i j : Nat} (same : node device i = node device j) : i = j :=
  Int.ofNat.inj (node_eq_node_iff.1 same).2

theorem Command.eq_of_wordsFrom {position : Nat} {first : String} {rest : List Value}
    {argv : List String} (words : wordsFrom position (.text first :: rest) = .ok argv) :
    ∃ more, argv = first :: more ∧ wordsFrom (position + 1) rest = .ok more := by
  simp only [wordsFrom] at words
  cases later : wordsFrom (position + 1) rest with
  | error misuse => simp [later, Except.map] at words
  | ok more => exact ⟨more, by simpa [later, Except.map] using words.symm, rfl⟩

namespace Filesystem

theorem eq_of_makeWords {target filesystem label : Value} {values : List Value}
    (words : makeWords target filesystem label = .ok values) :
    ∃ options, values = .text ("mkfs." ++ filesystem.shown) :: target :: options := by
  simp only [makeWords] at words
  split at words
  · exact ⟨[], (Except.ok.inj words).symm⟩
  · cases flag : labelFlagOf filesystem with
    | error misuse => simp [flag, Except.map] at words
    | ok flag => exact ⟨_, by simpa [flag, Except.map] using words.symm⟩

/-- The command that makes a filesystem names its tool and then its target. -/
theorem eq_of_makeCommand {target : String} {filesystem label : Value} {argv : List String}
    (command : makeCommand (.text target) filesystem label = .ok argv) :
    ∃ options, argv = ("mkfs." ++ filesystem.shown) :: target :: options := by
  unfold makeCommand at command
  cases words : makeWords (.text target) filesystem label with
  | error misuse => rw [words] at command; cases command
  | ok values =>
    obtain ⟨options, rfl⟩ := eq_of_makeWords words
    rw [words] at command
    obtain ⟨more, rfl, rest⟩ := Command.eq_of_wordsFrom command
    obtain ⟨others, rfl, -⟩ := Command.eq_of_wordsFrom rest
    exact ⟨others, rfl⟩

/-- No filesystem is made by a tool of another family. -/
theorem head_ne_of_makeCommand {target tool : String} {filesystem label : Value}
    {argv : List String} (command : makeCommand (.text target) filesystem label = .ok argv)
    (foreign : ¬ "mkfs.".toList <+: tool.toList) :
    argv.head? ≠ some tool := by
  obtain ⟨options, rfl⟩ := eq_of_makeCommand command
  intro same
  have letters : "mkfs.".toList ++ filesystem.shown.toList = tool.toList := by
    rw [← String.toList_append, Option.some.inj same]
  exact foreign ⟨_, letters⟩

end Filesystem

namespace Plan

theorem onceAttached_append (front rest : List PartitionSpec) :
    onceAttached device index (front ++ rest)
      = onceAttached device index front ++ onceAttached device (index + front.length) rest := by
  simp [onceAttached, List.zipIdx_append]

theorem onceAttached_cons {spec : PartitionSpec} {argv : List String}
    (command : Filesystem.makeCommand (.text (Layout.node device index)) spec.filesystem spec.label
      = .ok argv) :
    onceAttached device index (spec :: specs)
      = ["blkid", Layout.node device index] :: argv :: onceAttached device (index + 1) specs := by
  simp [onceAttached, command, Except.toOption]

/-- The commands for the partitions, split at the one at a position. -/
theorem onceAttached_split {i : Nat} (within : i < specs.length) {argv : List String}
    (command : Filesystem.makeCommand (.text (Layout.node device (i + index : Nat)))
      specs[i].filesystem specs[i].label = .ok argv) :
    onceAttached device index specs
      = onceAttached device index (specs.take i)
        ++ ["blkid", Layout.node device (i + index : Nat)] :: argv
          :: onceAttached device (i + index + 1) (specs.drop (i + 1)) := by
  have parts : specs = specs.take i ++ specs[i] :: specs.drop (i + 1) := by
    rw [← List.drop_eq_getElem_cons within, List.take_append_drop]
  have front : (specs.take i).length = i := by simp; omega
  conv_lhs => rw [parts]
  rw [onceAttached_append, front, Nat.add_comm index i, onceAttached_cons command]

/-- A node outside these indices is not looked up. -/
theorem lookup_not_mem_onceAttached {first : Nat}
    (outside : index < first ∨ first + specs.length ≤ index) :
    ["blkid", Layout.node device index] ∉ onceAttached device first specs := by
  intro member
  obtain ⟨⟨spec, other⟩, inside, issued⟩ := List.mem_flatMap.1 member
  rcases List.mem_cons.1 issued with same | making
  · have equal : index = other := Layout.node_inj (by simpa using same)
    have bounds := List.mem_zipIdx inside
    omega
  · have command : Filesystem.makeCommand (.text (Layout.node device other)) spec.filesystem
        spec.label = .ok ["blkid", Layout.node device index] := by
      cases make : Filesystem.makeCommand (.text (Layout.node device other)) spec.filesystem
        spec.label <;> simp [make, Except.toOption] at making
      rw [making]
    exact Filesystem.head_ne_of_makeCommand command (by decide) rfl

/-- The commands up to the attachment look nothing up. -/
theorem lookup_not_mem_untilAttached (path : String) (specs : List PartitionSpec) (node : String) :
    ["blkid", node] ∉ untilAttached path specs := by
  simp [untilAttached, allocate, makeTable, makePartition, attach]

end Plan

namespace Partition

/-- What a partition says about itself. -/
def draft (partition : Partition) : PartitionDraft :=
  ⟨partition.spec.filesystem, partition.spec.label, .int partition.spec.size,
    some (partition.device, partition.identifier)⟩

/-- A partition passes the check that a draft has to pass. -/
theorem check_draft (partition : Partition) : partition.draft.check = .ok partition.spec.size := by
  have positive := partition.spec.size_pos
  have filled := partition.spec.filesystem_isTruthy
  simp only [draft, PartitionDraft.check, filled, if_true, PartitionDraft.checkSize]
  rw [if_neg (by omega), Int.toNat_natCast]

end Partition

/-- A lookup that returns an identifier read it off what its command printed. -/
theorem Identifier.of_resolve {node : String} {identifier : Identifier}
    (resolves : ending (resolve host node) world = .ok identifier) :
    (world.scene.reply host ["blkid", node]).succeeds = true ∧
      ofOutput node (world.scene.reply host ["blkid", node]).output = .ok identifier := by
  obtain ⟨output, runs, reads⟩ := ending_bind_eq_ok_iff.1 resolves
  rw [Command.ending_run] at runs
  obtain ⟨success, rfl⟩ := Command.reading_eq_ok_iff.1 runs
  refine ⟨success, ?_⟩
  cases found : ofOutput node (world.scene.reply host ["blkid", node]).output with
  | error fault => simp [found] at reads
  | ok other => simpa [found, ending_bind, Except.map] using reads

theorem Filesystem.exists_command_of_make {target filesystem label : Value} {output : String}
    (makes : ending (make host target filesystem label) world = .ok output) :
    ∃ argv, makeCommand target filesystem label = .ok argv := by
  cases command : makeCommand target filesystem label with
  | ok argv => exact ⟨argv, rfl⟩
  | error misuse => simp [make, command, ending_bind, Except.mapError] at makes

/-- What the loop over these specifications makes of the nodes of a device, the first of which has
this index, if it starts from this scene: each partition is its specification with the node and with
the identifier that is then printed for it, and the filesystem is made on the same node. -/
inductive Formats (host : Host σ) (device : String) :
    (index : Nat) → Scene σ → List PartitionSpec → List Partition → Prop where
  | nil {index : Nat} {scene : Scene σ} : Formats host device index scene [] []
  | cons {index : Nat} {scene : Scene σ} {spec : PartitionSpec} {rest : List PartitionSpec}
      {identifier : Identifier} {argv : List String} {partitions : List Partition}
      (found : (scene.reply host ["blkid", Layout.node device index]).succeeds = true)
      (named : Identifier.ofOutput (Layout.node device index)
        (scene.reply host ["blkid", Layout.node device index]).output = .ok identifier)
      (command : Filesystem.makeCommand (.text (Layout.node device index)) spec.filesystem
        spec.label = .ok argv)
      (later : Formats host device (index + 1)
        (scene.through host [["blkid", Layout.node device index], argv]) rest partitions) :
      Formats host device index scene (spec :: rest)
        (⟨spec, .text (Layout.node device index), identifier⟩ :: partitions)

namespace Formats

theorem length (formats : Formats host device index scene specs partitions) :
    partitions.length = specs.length := by
  induction formats with
  | nil => rfl
  | cons found named command later ih => simp [ih]

/-- The loop at one position, behind the commands of the positions in front of it. -/
theorem at_position (formats : Formats host device index scene specs partitions) {i : Nat}
    (within : i < specs.length) :
    ∃ identifier argv,
      let node := Layout.node device (i + index : Nat)
      let answer := (scene.through host (Plan.onceAttached device index (specs.take i))).reply host
        ["blkid", node]
      partitions[i]? = some ⟨specs[i], .text node, identifier⟩ ∧
      answer.succeeds = true ∧ Identifier.ofOutput node answer.output = .ok identifier ∧
      Filesystem.makeCommand (.text node) specs[i].filesystem specs[i].label = .ok argv := by
  induction formats generalizing i with
  | nil => cases within
  | @cons index scene spec rest identifier argv partitions found named command later ih =>
    cases i with
    | zero =>
      rw [Nat.zero_add]
      exact ⟨identifier, argv, rfl, found, named, command⟩
    | succ i =>
      have next : i + (index + 1) = i + 1 + index := by omega
      have rest := ih (Nat.lt_of_succ_lt_succ within)
      rw [next] at rest
      rw [List.take_succ_cons, Plan.onceAttached_cons command]
      exact rest

end Formats

/-- The loop that formats, where it returns, issued its plan and went as it should. -/
theorem formats_of_formatPartitions
    (returned : ending (formatPartitions host device index specs) world = .ok partitions) :
    Formats host device index world.scene specs partitions ∧
      Issues host world (Plan.onceAttached device index specs)
        (formatPartitions host device index specs) := by
  induction specs generalizing world index partitions with
  | nil =>
    cases returned
    exact ⟨.nil, .of_same rfl rfl⟩
  | cons spec rest ih =>
    obtain ⟨identifier, resolves, makesOn⟩ := ending_bind_eq_ok_iff.1 returned
    obtain ⟨output, makes, goesOn⟩ := ending_bind_eq_ok_iff.1 makesOn
    obtain ⟨others, formats, done⟩ := ending_bind_eq_ok_iff.1 goesOn
    obtain ⟨found, named⟩ := Identifier.of_resolve resolves
    obtain ⟨argv, command⟩ := Filesystem.exists_command_of_make makes
    obtain ⟨later, issuesRest⟩ := ih formats
    have issuesLookup := Issues.of_performs (Performs.resolve _) resolves
    have issuesMake := Issues.of_performs (Performs.make_of_command command) makes
    cases done
    constructor
    · refine .cons found named command ?_
      rw [issuesMake.scene, issuesLookup.scene] at later
      exact later
    · rw [Plan.onceAttached_cons command]
      exact issuesLookup.bind resolves (issuesMake.bind makes (issuesRest.bind_pure _))

namespace PartitionSpec

def boot : PartitionSpec := ⟨.text "vfat", .text "boot", 8, by decide, by decide⟩

theorem isWorded_boot : boot.IsWorded := ⟨⟨_, rfl⟩, .inr ⟨_, rfl⟩⟩

end PartitionSpec

namespace LoopDisk

variable {path : String} {disk : LoopDisk}

theorem formats_of_onceAttached
    (completes : ending (onceAttached host path specs device) world = .ok disk) :
    disk.device = .text device ∧ Formats host device 1 world.scene specs disk.partitions ∧
      Issues host world (Plan.onceAttached device 1 specs)
        (onceAttached host path specs device) := by
  obtain ⟨done, logs, goesOn⟩ := ending_bind_eq_ok_iff.1 completes
  obtain ⟨partitions, formatted, ends⟩ := ending_bind_eq_ok_iff.1 goesOn
  obtain ⟨formats, issues⟩ := formats_of_formatPartitions formatted
  have logging : Issues host world [] (Logger.ownDisk.log (σ := σ) .info
      ("Attached " ++ path ++ " as " ++ device)) := .of_same rfl rfl
  cases ends
  exact ⟨rfl, formats, logging.bind logs (issues.bind_pure _)⟩

/-- A build that returns issued the commands up to the attachment, perhaps a command to wait, and
those for the partitions, which went as they should. -/
theorem formats_of_build (returned : ending (build host path specs) world = .ok disk) :
    ∃ device waits,
      let front := Plan.untilAttached path specs ++ waits
      disk.device = .text device ∧ (∀ argv ∈ waits, argv = ["udevadm", "settle"]) ∧
        Formats host device 1 (world.scene.through host front) specs disk.partitions ∧
        (after (build host path specs) world).commands
          = world.commands ++ front ++ Plan.onceAttached device 1 specs := by
  obtain ⟨device, attaches, completes, alike⟩ := parts_of_build returned
  obtain ⟨-, waits, settles, first⟩ := issues_untilAttached attaches
  obtain ⟨named, formats, second⟩ := formats_of_onceAttached completes
  rw [first.scene, scene_started] at formats
  refine ⟨device, waits, named, settles, formats, ?_⟩
  rw [alike.commands, second.commands, first.commands, commands_started]

/-- The partitions of a disk that a build returns are those that were asked for, in their order. The
one at a position has the node of this position on the device of the disk, on which its filesystem
is made, and the identifier printed by the only command of the build that looks this node up. -/
theorem partitions_of_build (returned : ending (build host path specs) world = .ok disk) :
    disk.partitions.length = specs.length ∧
    ∃ device, disk.device = .text device ∧
      ∀ (i : Nat) (within : i < specs.length), ∃ identifier front argv rest,
        let node := device ++ "p" ++ toString (i + 1)
        let partition : Partition := ⟨specs[i], .text node, identifier⟩
        let answer := (world.scene.through host front).reply host ["blkid", node]
        disk.partitions[i]? = some partition ∧
        partition.draft.check = .ok specs[i].size ∧
        (after (build host path specs) world).commands
          = world.commands ++ front ++ ["blkid", node] :: argv :: rest ∧
        ["blkid", node] ∉ front ∧ ["blkid", node] ∉ argv :: rest ∧
        answer.succeeds = true ∧ Identifier.ofOutput node answer.output = .ok identifier ∧
        Filesystem.makeCommand (.text node) specs[i].filesystem specs[i].label = .ok argv ∧
        argv[1]? = some node := by
  obtain ⟨device, waits, named, settles, formats, commands⟩ := formats_of_build returned
  refine ⟨formats.length, device, named, fun i within => ?_⟩
  obtain ⟨identifier, argv, there, success, read, command⟩ := formats.at_position within
  obtain ⟨options, words⟩ := Filesystem.eq_of_makeCommand command
  rw [← Scene.through_append] at success read
  refine ⟨identifier, _, argv, Plan.onceAttached device (i + 2) (specs.drop (i + 1)), there,
    Partition.check_draft _, ?_, ?_, ?_, success, read, command, by rw [words]; rfl⟩
  · rw [commands, Plan.onceAttached_split within command]
    simp only [List.append_assoc]
    rfl
  -- other positions have other nodes, so only this position looks this node up
  · have before : ["blkid", Layout.node device (i + 1 : Nat)]
        ∉ Plan.onceAttached device 1 (specs.take i) :=
      Plan.lookup_not_mem_onceAttached (.inr (by simp; omega))
    have waiting (node : String) : ["blkid", node] ∉ waits := fun member => by
      simpa using settles _ member
    simp only [List.mem_append, not_or]
    exact ⟨⟨Plan.lookup_not_mem_untilAttached path specs _, waiting _⟩, before⟩
  · have behind : ["blkid", Layout.node device (i + 1 : Nat)]
        ∉ Plan.onceAttached device (i + 2) (specs.drop (i + 1)) :=
      Plan.lookup_not_mem_onceAttached (.inl (by omega))
    have making : argv.head? ≠ some "blkid" :=
      Filesystem.head_ne_of_makeCommand command (by decide)
    rw [List.mem_cons, not_or]
    exact ⟨fun same => making (same ▸ rfl), behind⟩

theorem partitions_of_build_obliging :
    ∃ disk, ending (build .obliging "disk.img" [.boot, .data]) .untouched = .ok disk ∧
      disk.partitions.length = 2 ∧
      ∃ identifier, disk.partitions[1]? = some ⟨.data, .text "/dev/loop0p2", identifier⟩ := by
  have worded : ∀ spec ∈ [PartitionSpec.boot, PartitionSpec.data], spec.IsWorded := by
    simp [PartitionSpec.isWorded_data, PartitionSpec.isWorded_boot]
  obtain ⟨⟨disk, returned⟩, -⟩ := build_of_fulfils .obliging .untouched "disk.img" [.boot, .data]
    worded (by decide +kernel) (by decide +kernel)
  have printed : Plan.device .obliging World.untouched.scene "disk.img" [.boot, .data]
      = "/dev/loop0" := by
    decide +kernel
  have named := (eq_of_build returned).2
  rw [printed] at named
  obtain ⟨length, device, same, entries⟩ := partitions_of_build returned
  obtain rfl : device = "/dev/loop0" := Value.text.inj (same.symm.trans named)
  obtain ⟨identifier, -, -, -, entry, -⟩ := entries 1 (by decide)
  exact ⟨disk, returned, length, identifier, entry⟩

end LoopDisk

end DiskFixture
