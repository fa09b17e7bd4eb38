import DiskFixture.Proofs.Disk.Closing

/-!
The life of a disk within a session. A session builds disks and closes them, in any order and any
number of times, and anything may happen to the world in between. Main statements: the closings of a
disk fall into those that cannot detach its device, at most one that does, and those after it, which
only remove what is at its path.
-/

namespace DiskFixture.Lifetime

variable {σ : Type}

/-- What a session does. Disks are numbered in the order in which they were built. -/
inductive Step (σ : Type) where
  | build (path : String) (specs : List PartitionSpec)
  | close (number : Nat)
  /-- Whatever else happens to the world. -/
  | meanwhile (change : World σ → World σ)

structure State (σ : Type) where
  world : World σ
  disks : List LoopDisk

def step (host : Host σ) (state : State σ) : Step σ → State σ
  | .build path specs =>
    let built := ending (LoopDisk.build host path specs) state.world
    ⟨after (LoopDisk.build host path specs) state.world, state.disks ++ built.toOption.toList⟩
  | .close number =>
    match state.disks[number]? with
    | none => state
    | some disk =>
      ⟨after (disk.close host) state.world,
        state.disks.set number (disk.closing host state.world).1⟩
  | .meanwhile change => { state with world := change state.world }

def run (host : Host σ) (state : State σ) (session : List (Step σ)) : State σ :=
  session.foldl (step host) state

/-- A closing of a disk, told by the world and the disk before it. -/
structure Call (σ : Type) where
  world : World σ
  disk : LoopDisk

/-- The closing of the disk of this number that a step is, if it is one. -/
def call? (number : Nat) (state : State σ) : Step σ → Option (Call σ)
  | .close other =>
    if other = number then state.disks[number]?.map fun disk => ⟨state.world, disk⟩ else none
  | _ => none

def calls (host : Host σ) (number : Nat) : State σ → List (Step σ) → List (Call σ)
  | _, [] => []
  | state, next :: rest =>
    (call? number state next).toList ++ calls host number (step host state next) rest

namespace Call

def result (host : Host σ) (call : Call σ) : LoopDisk × Except Fault Unit :=
  call.disk.closing host call.world

def left (host : Host σ) (call : Call σ) : World σ :=
  after (call.disk.close host) call.world

/-- A closing whose release gave no output. The disk keeps the device, and nothing is removed. The
fault is that of the teardown, unless the call went wrong, which is not caught. -/
structure Keeps (host : Host σ) (disk : LoopDisk) (device : String) (call : Call σ) : Prop where
  before : call.disk = disk
  fails : (call.world.scene.reply host (Plan.release device)).succeeds = false
  afterwards : (call.result host).1 = disk
  teardown : (call.world.scene.reply host (Plan.release device)).isMisuse = false →
    ∃ message causes, (call.result host).2
      = .error ⟨.teardown (.text message) (.text device) (.text disk.path), causes⟩
  uncaught : ∀ wrong,
    call.world.scene.reply host (Plan.release device) = .failed (.misuse wrong) →
      (call.result host).2 = .error (.ofMisuse wrong)
  commands : (call.left host).commands = call.world.commands ++ [Plan.release device]
  scene : (call.left host).scene = call.world.scene.next host (Plan.release device)

/-- A closing that detached the device. The disk has none then, whatever comes of the removal. -/
structure Frees (host : Host σ) (disk : LoopDisk) (device : String) (call : Call σ) : Prop where
  before : call.disk = disk
  succeeds : (call.world.scene.reply host (Plan.release device)).succeeds = true
  afterwards : (call.result host).1 = { disk with device := .null }
  outcome : LoopDisk.Reports host (call.world.scene.next host (Plan.release device)) disk.path
    (call.result host).2
  commands : (call.left host).commands = call.world.commands ++ [Plan.release device]
  scene : (call.left host).scene
    = (call.world.scene.next host (Plan.release device)).removed host disk.path

/-- A closing of a disk without a device. It issues nothing. -/
structure Clears (host : Host σ) (disk : LoopDisk) (call : Call σ) : Prop where
  before : call.disk = { disk with device := .null }
  afterwards : (call.result host).1 = { disk with device := .null }
  outcome : LoopDisk.Reports host call.world.scene disk.path (call.result host).2
  commands : (call.left host).commands = call.world.commands
  scene : (call.left host).scene = call.world.scene.removed host disk.path

end Call

section Steps

variable (host : Host σ) {state : State σ} {number : Nat} {disk : LoopDisk}
  (there : state.disks[number]? = some disk) (next : Step σ)
include there

theorem step_cases :
    (call? number state next = none ∧ (step host state next).disks[number]? = some disk) ∨
    (call? number state next = some ⟨state.world, disk⟩ ∧
      (step host state next).disks[number]? = some (disk.closing host state.world).1) := by
  have inside : number < state.disks.length := (List.getElem?_eq_some_iff.1 there).1
  cases next with
  | build path specs =>
    exact .inl ⟨rfl, (List.getElem?_append_left inside).trans there⟩
  | meanwhile change => exact .inl ⟨rfl, there⟩
  | close other =>
    by_cases same : other = number
    · subst other
      refine .inr ⟨by simp [call?, there], ?_⟩
      simp only [step, there]
      exact List.getElem?_set_self inside
    · refine .inl ⟨if_neg same, ?_⟩
      cases found : state.disks[other]? with
      | none => simp only [step, found, there]
      | some closed => simp only [step, found, List.getElem?_set_ne same, there]

end Steps

section Calls

variable {host : Host σ} {disk : LoopDisk} {device : String}

theorem result_of_detached (host : Host σ) (call : Call σ) (detached : call.disk.attached? = none) :
    (call.result host).1 = call.disk := by
  rw [Call.result, LoopDisk.closing_of_detached host _ _ detached]

theorem clears_of_detached {call : Call σ}
    (before : call.disk = { disk with device := .null }) : call.Clears host disk := by
  have detached : call.disk.attached? = none := by rw [before]; rfl
  have path : call.disk.path = disk.path := by rw [before]
  obtain ⟨commands, scene⟩ := LoopDisk.after_close_of_detached host call.disk call.world detached
  rw [path] at scene
  refine ⟨before, (result_of_detached host call detached).trans before, ?_, commands, scene⟩
  rw [Call.result, LoopDisk.closing_of_detached host _ _ detached, path]
  exact LoopDisk.reports_removePath host call.world disk.path

/-- A closing with a device detaches it or changes nothing but what the command does. -/
theorem keeps_or_frees (named : disk.device = .text device) (nonempty : device ≠ "") {call : Call σ}
    (before : call.disk = disk) :
    call.Keeps host disk device ∨ call.Frees host disk device := by
  subst before
  have attached : call.disk.attached? = some (.text device) := by
    simp [LoopDisk.attached?, named, Value.isTruthy, nonempty]
  obtain ⟨commands, scene⟩ := LoopDisk.after_detach host call.world device
  have ends := LoopDisk.ending_detach host call.world device
  cases success : (call.world.scene.reply host (Plan.release device)).succeeds with
  | true =>
    right
    rw [Scene.detaching, Command.reading_of_succeeds _ success] at ends
    obtain ⟨result, left⟩ := LoopDisk.close_of_detach host attached ends
    -- what is left of the closing is the closing of the disk without its device
    have later : Call.Clears host call.disk
        ⟨after (detach host (.text device)) call.world, { call.disk with device := .null }⟩ :=
      clears_of_detached rfl
    have outcome := later.outcome
    have removed := later.scene
    rw [scene] at outcome removed
    refine ⟨rfl, success, (congrArg Prod.fst result).trans later.afterwards, ?_,
      (congrArg World.commands left).trans (later.commands.trans commands),
      (congrArg World.scene left).trans removed⟩
    rw [Call.result, result]
    exact outcome
  | false =>
    left
    obtain ⟨fault, reads⟩ := Command.reading_of_not_succeeds (Plan.release device) success
    rw [Scene.detaching, reads] at ends
    obtain ⟨result, left⟩ := LoopDisk.close_of_failed_detach host attached ends
    have outcome := congrArg Prod.snd result
    refine ⟨rfl, success, congrArg Prod.fst result, fun proper => ?_, fun wrong answers => ?_,
      (congrArg World.commands left).trans commands, (congrArg World.scene left).trans scene⟩
    · have command : fault.problem.isCommand = true := by
        simpa [proper] using Command.isMisuse_of_reading reads
      exact ⟨_, _, outcome.trans (congrArg Except.error (if_pos command))⟩
    · rw [answers] at reads
      cases reads
      exact outcome

end Calls

section Lives

variable (host : Host σ) {number : Nat} {state : State σ} {disk : LoopDisk}
  (there : state.disks[number]? = some disk) (session : List (Step σ))
include there

theorem life_of_detached (detached : disk.attached? = none) :
    (run host state session).disks[number]? = some disk ∧
      ∀ call ∈ calls host number state session, call.disk = disk := by
  induction session generalizing state with
  | nil => exact ⟨there, by simp [calls]⟩
  | cons next rest ih =>
    rcases step_cases host there next with ⟨other, kept⟩ | ⟨closes, changed⟩
    · obtain ⟨final, later⟩ := ih kept
      exact ⟨final, by simpa [calls, other] using later⟩
    · have same : (disk.closing host state.world).1 = disk :=
        result_of_detached host ⟨state.world, disk⟩ detached
      obtain ⟨final, later⟩ := ih (changed.trans (congrArg some same))
      exact ⟨final, by simpa [calls, closes] using later⟩

/-- A disk with a device keeps it until a closing detaches it. -/
theorem life_of_attached {device : String}
    (named : disk.device = .text device) (nonempty : device ≠ "") :
    ((run host state session).disks[number]? = some disk ∧
      ∀ call ∈ calls host number state session, call.Keeps host disk device) ∨
    ((run host state session).disks[number]? = some { disk with device := .null } ∧
      ∃ failed first later, calls host number state session = failed ++ first :: later ∧
        (∀ call ∈ failed, call.Keeps host disk device) ∧ first.Frees host disk device ∧
        ∀ call ∈ later, call.Clears host disk) := by
  induction session generalizing state with
  | nil => exact .inl ⟨there, by simp [calls]⟩
  | cons next rest ih =>
    rcases step_cases host there next with ⟨other, kept⟩ | ⟨closes, changed⟩
    · have unchanged : calls host number state (next :: rest)
          = calls host number (step host state next) rest := by
        simp [calls, other]
      rw [unchanged]
      exact ih kept
    · have first : calls host number state (next :: rest)
          = ⟨state.world, disk⟩ :: calls host number (step host state next) rest := by
        simp [calls, closes]
      rw [first]
      have kind : Call.Keeps host disk device ⟨state.world, disk⟩ ∨
          Call.Frees host disk device ⟨state.world, disk⟩ :=
        keeps_or_frees named nonempty rfl
      rcases kind with keeps | frees
      · have kept := changed.trans (congrArg some keeps.afterwards)
        rcases ih kept with ⟨final, all⟩ | ⟨final, failed, frees, later, split, before, rest⟩
        · exact .inl ⟨final, by simpa using ⟨keeps, all⟩⟩
        · refine .inr ⟨final, ⟨state.world, disk⟩ :: failed, frees, later, by rw [split]; rfl, ?_,
            rest⟩
          simpa using ⟨keeps, before⟩
      · -- from here on the disk is one without a device, whose closings cannot give it one
        have freed := changed.trans (congrArg some frees.afterwards)
        obtain ⟨final, same⟩ := life_of_detached host freed rest rfl
        exact .inr ⟨final, [], _, _, rfl, by simp, frees,
          fun call later => clears_of_detached (same call later)⟩

end Lives

theorem mem_calls (host : Host σ) {number : Nat} {state : State σ} {disk : LoopDisk}
    (there : state.disks[number]? = some disk) (rest : List (Step σ)) :
    ⟨state.world, disk⟩ ∈ calls host number state (.close number :: rest) := by
  simp [calls, call?, there]

theorem disk_of_build {host : Host σ} {state : State σ} {path : String}
    {specs : List PartitionSpec} {disk : LoopDisk}
    (returned : ending (LoopDisk.build host path specs) state.world = .ok disk) :
    (step host state (.build path specs)).disks[state.disks.length]? = some disk := by
  have appended : (step host state (.build path specs)).disks = state.disks ++ [disk] := by
    rw [step, returned]
    rfl
  rw [appended]
  exact List.getElem?_concat_length

/-- On a faithful host, a closing of whatever kind goes well, or fails with a fault of the teardown,
or its call went wrong. -/
theorem outcome_of_call {host : Host σ} (faithful : host.Faithful) {disk : LoopDisk}
    {device : String} {call : Call σ}
    (kind : call.Keeps host disk device ∨ call.Frees host disk device ∨ call.Clears host disk) :
    (call.result host).2 = .ok () ∨ ∃ fault, (call.result host).2 = .error fault ∧
      (fault.problem.isTeardown = true ∨ fault.IsOfCall) := by
  rcases kind with keeps | frees | clears
  · right
    cases answer : call.world.scene.reply host (Plan.release device) with
    | exited status output =>
      obtain ⟨message, causes, report⟩ := keeps.teardown (by rw [answer]; rfl)
      exact ⟨_, report, .inl rfl⟩
    | failed fault =>
      cases fault with
      | system error =>
        obtain ⟨message, causes, report⟩ := keeps.teardown (by rw [answer]; rfl)
        exact ⟨_, report, .inl rfl⟩
      | misuse wrong =>
        exact ⟨_, keeps.uncaught wrong answer, .inr (faithful.isOfCall_of_reply answer)⟩
  · exact frees.outcome.cases faithful
  · exact clears.outcome.cases faithful

/-- The life of a disk that was built with a device, in whatever session follows. Its closings keep
the device, each with a fault that names it, until one detaches it; from then on the disk has none,
and the closings issue nothing. What is at its path is removed only by the one that detaches and by
those after it, and their outcome is that of the removal. A call that goes wrong is the one fault
that is not turned into a fault of the teardown. -/
theorem life_of_built (host : Host σ) (state : State σ) {path : String} {specs : List PartitionSpec}
    {disk : LoopDisk} {device : String}
    (returned : ending (LoopDisk.build host path specs) state.world = .ok disk)
    (named : disk.device = .text device) (nonempty : device ≠ "") (session : List (Step σ)) :
    let start := step host state (.build path specs)
    let final := (run host start session).disks[state.disks.length]?
    let closings := calls host state.disks.length start session
    disk.path = path ∧
      ((final = some disk ∧ ∀ call ∈ closings, call.Keeps host disk device) ∨
        (final = some { disk with device := .null } ∧
          ∃ failed first later, closings = failed ++ first :: later ∧
            (∀ call ∈ failed, call.Keeps host disk device) ∧ first.Frees host disk device ∧
            ∀ call ∈ later, call.Clears host disk)) ∧
      (host.Faithful → ∀ call ∈ closings, (call.result host).2 = .ok () ∨
        ∃ fault, (call.result host).2 = .error fault ∧
          (fault.problem.isTeardown = true ∨ fault.IsOfCall)) := by
  have life := life_of_attached host (disk_of_build returned) session named nonempty
  refine ⟨(LoopDisk.eq_of_build returned).1, life, fun faithful call inside => ?_⟩
  apply outcome_of_call faithful
  rcases life with ⟨-, keeps⟩ | ⟨-, failed, first, later, split, keeps, frees, clears⟩
  · exact .inl (keeps call inside)
  · rw [split] at inside
    rcases List.mem_append.1 inside with before | behind
    · exact .inl (keeps call before)
    · rcases List.mem_cons.1 behind with rfl | after
      · exact .inr (.inl frees)
      · exact .inr (.inr (clears call after))

theorem life_of_built_obliging :
    ∃ disk, ending (LoopDisk.build .obliging "disk.img" [.data]) .untouched = .ok disk ∧
      disk.device = .text "/dev/loop0" ∧
      (run .obliging (step .obliging ⟨.untouched, []⟩ (.build "disk.img" [.data]))
        [.close 0, .close 0]).disks[0]? = some { disk with device := .null } := by
  have worded : ∀ spec ∈ [PartitionSpec.data], spec.IsWorded := by
    simp [PartitionSpec.isWorded_data]
  obtain ⟨⟨disk, returned⟩, -⟩ := LoopDisk.build_of_fulfils .obliging .untouched "disk.img" [.data]
    worded (by decide +kernel) (by decide +kernel)
  have device : Plan.device .obliging World.untouched.scene "disk.img" [.data] = "/dev/loop0" := by
    decide +kernel
  have named := (LoopDisk.eq_of_build returned).2
  rw [device] at named
  refine ⟨disk, returned, named, ?_⟩
  obtain ⟨-, ⟨-, keeps⟩ | ⟨freed, -⟩, -⟩ := life_of_built .obliging ⟨.untouched, []⟩
    returned named (by decide) [.close 0, .close 0]
  · have there : (step .obliging ⟨.untouched, []⟩ (.build "disk.img" [.data])).disks[0]?
        = some disk := disk_of_build returned
    have fails := (keeps _ (mem_calls .obliging there [.close 0])).fails
    have released : ((step .obliging ⟨.untouched, []⟩ (.build "disk.img" [.data])).world.scene.reply
        .obliging (Plan.release "/dev/loop0")).succeeds = true := by
      decide +kernel
    dsimp only at fails
    rw [released] at fails
    cases fails
  · exact freed

/-- A closing whose release prints what is no text ends in another fault and keeps the device. -/
theorem closing_of_garbled :
    let host := Host.garbling ["losetup", "-d"]
    let state := run host ⟨.untouched, []⟩ [.build "disk.img" [.data]]
    host.Faithful ∧ (state.disks.map fun disk => disk.device.shown) = ["/dev/loop0"] ∧
      (state.disks.map fun disk => match (disk.closing host state.world).2 with
        | .ok _ => ""
        | .error fault => fault.kind) = ["UnicodeDecodeError"] ∧
      ((step host state (.close 0)).disks.map fun disk => disk.device.shown) = ["/dev/loop0"] := by
  refine ⟨Host.faithful_garbling _, ?_⟩
  decide +kernel

/-- A disk that was closed well is closed again, after whatever happened. Nothing is issued, but
what is at the path by then is removed: all stays as it is if and only if there is nothing. -/
theorem close_again (host : Host σ) {state : State σ} {number : Nat} {disk : LoopDisk}
    (there : state.disks[number]? = some disk)
    (closed : (disk.closing host state.world).2 = .ok ()) (between : List (Step σ)) :
    let later := run host (step host state (.close number)) between
    ∃ stale, later.disks[number]? = some stale ∧
      (after (stale.close host) later.world).commands = later.world.commands ∧
      ((stale.closing host later.world).2 = .ok () ∧
          (after (stale.close host) later.world).files = later.world.files ↔
        later.world.scene.findsNothing host disk.path = true) := by
  have detached := LoopDisk.attached?_closing_of_ok host disk state.world closed
  have changed : (step host state (.close number)).disks[number]?
      = some (disk.closing host state.world).1 := by
    rcases step_cases host there (.close number) with ⟨other, -⟩ | ⟨-, changed⟩
    · simp [call?, there] at other
    · exact changed
  obtain ⟨kept, -⟩ := life_of_detached host changed between detached
  refine ⟨_, kept, ?_⟩
  rw [← LoopDisk.path_closing host disk state.world, ← Scene.findsNothing_iff]
  generalize (disk.closing host state.world).1 = stale at detached
  generalize (run host (step host state (.close number)) between).world = world
  obtain ⟨commands, scene⟩ := LoopDisk.after_close_of_detached host stale world detached
  refine ⟨commands, ?_⟩
  rw [LoopDisk.closing_of_detached host stale world detached, LoopDisk.report_eq_ok_iff, ← scene,
    World.scene_files, World.scene_files]

/-- A disk is closed again, but another one has been built since. -/
theorem close_again_writing :
    let built := run .writing ⟨.untouched, []⟩ [.build "disk.img" [.data]]
    let later := run .writing (step .writing built (.close 0)) [.build "other.img" [.data]]
    ∃ disk stale, built.disks[0]? = some disk ∧
      (disk.closing .writing built.world).2 = .ok () ∧ later.disks[0]? = some stale ∧
      (stale.closing .writing later.world).2 = .ok () ∧
      (after (stale.close .writing) later.world).files = later.world.files := by
  intro built later
  have first : (built.disks[0]?.map fun disk =>
      (disk.path, (disk.closing .writing built.world).2.isOk)) = some ("disk.img", true) := by
    decide +kernel
  obtain ⟨disk, there, same⟩ := Option.map_eq_some_iff.1 first
  obtain ⟨path, closed⟩ := Prod.mk.inj same
  have closed : (disk.closing .writing built.world).2 = .ok () := by
    cases outcome : (disk.closing .writing built.world).2 with
    | ok done => rfl
    | error fault => simp [outcome, Except.isOk, Except.toBool] at closed
  have nothing : later.world.scene.findsNothing .writing "disk.img" = true := by decide +kernel
  obtain ⟨stale, kept, -, noop⟩ := close_again .writing there closed
    [.build "other.img" [.data]]
  rw [path] at noop
  exact ⟨disk, stale, there, closed, kept, noop.2 nothing⟩

/-- A stale disk removes the image of another disk at its path. -/
theorem close_again_removes :
    let built := run .writing ⟨.untouched, []⟩ [.build "disk.img" [.data]]
    let rebuilt := run .writing built [.close 0, .build "disk.img" [.data]]
    (built.disks.map fun disk => (disk.closing .writing built.world).2.isOk) = [true] ∧
      rebuilt.world.files.hasEntry "disk.img" = true ∧
      (step .writing rebuilt (.close 0)).world.files.hasEntry "disk.img" = false := by
  decide +kernel

end DiskFixture.Lifetime
