import DiskFixture.Fixture
import DiskFixture.Proofs.Disk.Lifetime
import DiskFixture.Proofs.Disk.Records

/-!
The teardown of a factory of disks. A test calls the factory, closes what it returned or does not,
and anything may happen in between; at the end the disks are closed, the one built last first. Main
statement: every disk that was built is closed once, and one that cannot be released is only
recorded, so nothing is raised, but where a call that goes wrong makes a closing break off.
-/

namespace DiskFixture

variable {σ : Type} {host : Host σ}

open Lifetime (State Call)

namespace LoopDisk

/-- Whether the path of a disk, or the device that it has, is a name that names nothing. -/
def isNameless (disk : LoopDisk) : Bool :=
  !FileTree.isNameable disk.path || disk.held?.any (!FileTree.isNameable ·)

theorem isNameless_of_aged {fresh disk : LoopDisk} (nameless : disk.isNameless = true)
    (aged : disk = fresh ∨ disk = { fresh with device := .null }) : fresh.isNameless = true := by
  rcases aged with rfl | rfl
  · exact nameless
  · simp only [isNameless, held?, Option.any_none, Bool.or_false] at nameless
    simp only [isNameless, nameless, Bool.true_or]

theorem Reports.not_isNameable {scene : Scene σ} {path : String} {fault : Fault}
    (reports : Reports host scene path (.error fault)) (faithful : host.Faithful)
    (other : fault.problem.isTeardown = false) : FileTree.isNameable path = false := by
  have unclear : scene.clears host path = false := by
    cases clear : scene.clears host path with
    | false => rfl
    | true => cases reports.ok_iff.2 clear
  obtain ⟨cause, removes, -⟩ := Scene.clearing_of_not_clears unclear
  rcases Scene.fault_of_removal faithful removes with proper | ⟨nameless, -⟩
  · cases cause with
    | system error =>
      obtain ⟨message, causes, same⟩ := reports.teardown error removes unclear
      cases same
      cases other
    | misuse wrong => cases proper
  · exact nameless

theorem held?_of_attached {disk : LoopDisk} {device : Value}
    (worded : disk.device = .null ∨ ∃ device, disk.device = .text device)
    (attached : disk.attached? = some device) :
    ∃ text, disk.held? = some text ∧ device = .text text := by
  rcases worded with none | ⟨text, named⟩
  · simp [attached?, none, Value.isTruthy] at attached
  · by_cases empty : text = ""
    · simp [attached?, named, empty, Value.isTruthy] at attached
    · refine ⟨text, by simp [held?, named, empty], ?_⟩
      simpa [attached?, named, empty, Value.isTruthy] using attached.symm

/-- On a faithful host, a closing that breaks off does so over a name that is none, or over output
that is no text. -/
theorem isNameless_of_closing (faithful : host.Faithful) {disk : LoopDisk} {world : World σ}
    {fault : Fault} (worded : disk.device = .null ∨ ∃ device, disk.device = .text device)
    (fails : (disk.closing host world).2 = .error fault)
    (other : fault.problem.isTeardown = false) :
    disk.isNameless = true ∨ ∃ wrong, fault = .ofMisuse (.undecodable wrong) := by
  have of_path (nameless : FileTree.isNameable disk.path = false) : disk.isNameless = true := by
    simp [isNameless, nameless]
  cases attached : disk.attached? with
  | none =>
    have reports := reports_removePath host world disk.path
    rw [closing_of_detached host disk world attached] at fails
    dsimp only at fails
    rw [fails] at reports
    exact .inl (of_path (reports.not_isNameable faithful other))
  | some device =>
    obtain ⟨text, held, rfl⟩ := held?_of_attached worded attached
    cases detaches : ending (detach host (.text text)) world with
    | ok done =>
      have reports := reports_removePath host (after (detach host (.text text)) world) disk.path
      rw [(close_of_detach host attached detaches).1, closing_of_detached host _ _ rfl] at fails
      dsimp only at fails
      rw [fails] at reports
      exact .inl (of_path (reports.not_isNameable faithful other))
    | error cause =>
      rw [(close_of_failed_detach host attached detaches).1] at fails
      obtain rfl := Except.error.inj fails
      rw [ending_detach] at detaches
      -- the release holds only one name that is not fixed, that of the device
      rcases faithful.fault_of_reading (eq_error_of_map detaches) with
        command | ⟨nameless, -⟩ | ⟨wrong, rfl⟩
      · rw [detachFault, if_pos command] at other
        cases other
      · have plain : FileTree.isNameable "losetup" = true ∧ FileTree.isNameable "-d" = true := by
          decide
        have device : FileTree.isNameable text = false := by
          simpa [Plan.release, plain] using nameless
        exact .inl (by simp [isNameless, held, device])
      · exact .inr ⟨wrong, rfl⟩

end LoopDisk

namespace Fixture

/-- The text of the record of a disk that could not be released. -/
def releaseNote (closed : LoopDisk) (fault : Fault) : String :=
  "Failed to release " ++ closed.written ++ ": " ++ fault.message

/-- What is recorded of a closing: one text if the disk could not be released, and else none. -/
def notes (host : Host σ) (call : Call σ) : List String :=
  match (call.result host).2 with
  | .ok _ => []
  | .error fault =>
    if fault.problem.isTeardown then [releaseNote (call.result host).1 fault] else []

/-- The closings of these disks, one after the other, with what is left and how they end: a disk
that cannot be released is recorded, and only another fault keeps those behind it from being
closed. -/
inductive Closes (host : Host σ) :
    World σ → List LoopDisk → List (Call σ) → World σ → Except Fault Unit → Prop where
  | done {world : World σ} : Closes host world [] [] world (.ok ())
  | released {world left : World σ} {disk : LoopDisk} {rest : List LoopDisk}
      {calls : List (Call σ)} {outcome : Except Fault Unit}
      (closes : (disk.closing host world).2 = .ok ())
      (later : Closes host (after (disk.close host) world) rest calls left outcome) :
      Closes host world (disk :: rest) (⟨world, disk⟩ :: calls) left outcome
  | recorded {world left : World σ} {disk : LoopDisk} {rest : List LoopDisk}
      {calls : List (Call σ)} {outcome : Except Fault Unit} {fault : Fault}
      (fails : (disk.closing host world).2 = .error fault)
      (teardown : fault.problem.isTeardown = true)
      (later : Closes host (Logger.fixture.noted .error
        (releaseNote (disk.closing host world).1 fault) (after (disk.close host) world))
          rest calls left outcome) :
      Closes host world (disk :: rest) (⟨world, disk⟩ :: calls) left outcome
  | broken {world : World σ} {disk : LoopDisk} {rest : List LoopDisk} {fault : Fault}
      (fails : (disk.closing host world).2 = .error fault)
      (other : fault.problem.isTeardown = false) :
      Closes host world (disk :: rest) [⟨world, disk⟩] (after (disk.close host) world)
        (.error fault)

theorem closeAll_of_teardown {disk closed : LoopDisk} {world : World σ} {fault : Fault}
    (rest : List LoopDisk) (ends : ending (disk.close host) world = .ok (closed, .error fault))
    (teardown : fault.problem.isTeardown = true) :
    let recorded := Logger.fixture.noted .error (releaseNote closed fault)
      (after (disk.close host) world)
    ending (closeAll host (disk :: rest)) world
        = (ending (closeAll host rest) recorded).map
            (fun result => (closed :: result.1, result.2)) ∧
      after (closeAll host (disk :: rest)) world = after (closeAll host rest) recorded := by
  dsimp only
  rw [closeAll, ending_bind, after_bind, ends]
  dsimp only
  rw [if_pos teardown, ending_bind, after_bind, Logger.ending_log, Logger.after_log]
  unfold releaseNote
  generalize Logger.fixture.noted .error _ _ = recorded
  dsimp only
  rw [ending_bind, after_bind]
  constructor <;> cases ending (closeAll host rest) recorded <;> rfl

/-- The loop over the disks of a teardown. -/
theorem closes_closeAll (host : Host σ) (disks : List LoopDisk) (world : World σ) :
    ∃ calls closed outcome, ending (closeAll host disks) world = .ok (closed, outcome) ∧
      Closes host world disks calls (after (closeAll host disks) world) outcome := by
  -- the rest of the loop starts in what a closing left, and the record of it if it failed
  induction disks generalizing world with
  | nil => exact ⟨[], [], .ok (), rfl, .done⟩
  | cons disk rest ih =>
    have ends := LoopDisk.ending_close host disk world
    rcases result : disk.closing host world with ⟨closed, outcome⟩
    rw [result] at ends
    cases outcome with
    | ok done =>
      obtain ⟨calls, others, outcome, returns, later⟩ := ih (after (disk.close host) world)
      have left : after (closeAll host (disk :: rest)) world
          = after (closeAll host rest) (after (disk.close host) world) := by
        simp [closeAll, after_bind, ends]
      refine ⟨⟨world, disk⟩ :: calls, closed :: others, outcome, ?_, ?_⟩
      · simp [closeAll, ending_bind, ends, returns, Except.map]
      · exact left ▸ .released (by rw [result]) later
    | error fault =>
      cases teardown : fault.problem.isTeardown with
      | true =>
        obtain ⟨calls, others, outcome, returns, later⟩ := ih (Logger.fixture.noted .error
          (releaseNote closed fault) (after (disk.close host) world))
        obtain ⟨next, left⟩ := closeAll_of_teardown rest ends teardown
        refine ⟨⟨world, disk⟩ :: calls, closed :: others, outcome, ?_, ?_⟩
        · rw [next, returns]
          rfl
        · rw [left]
          refine .recorded (by rw [result]) teardown ?_
          rw [result]
          exact later
      | false =>
        have left : after (closeAll host (disk :: rest)) world = after (disk.close host) world := by
          simp [closeAll, after_bind, ends, teardown]
        refine ⟨[⟨world, disk⟩], closed :: rest, .error fault, ?_, ?_⟩
        · simp [closeAll, ending_bind, ends, teardown]
        · exact left ▸ .broken (by rw [result]) teardown

theorem errorsOf_close (disk : LoopDisk) (world : World σ) :
    (after (disk.close host) world).errorsOf "pytest" = world.errorsOf "pytest" :=
  (Spares.close (isForeign_isErrorOf (by decide)) disk).errorsOf world

theorem errorsOf_note (message : String) (world : World σ) :
    (Logger.fixture.noted .error message world).errorsOf "pytest"
      = world.errorsOf "pytest" ++ [message] := by
  have bound : Logger.fixture.bound = ("source", .text "pytest") ::
      [("tags", .ofTexts ["pytest"])] := rfl
  simp [Logger.errorsOf_noted bound]

theorem closes_teardown (host : Host σ) (disks : List LoopDisk) (world : World σ) :
    ∃ calls closed outcome, ending (teardown host disks) world = .ok (closed, outcome) ∧
      Closes host world disks.reverse calls (after (teardown host disks) world) outcome := by
  obtain ⟨calls, closed, outcome, returns, closes⟩ := closes_closeAll host disks.reverse world
  refine ⟨calls, closed.reverse, outcome, ?_, ?_⟩
  · simp [teardown, returns, Except.map]
  · have left : after (teardown host disks) world = after (closeAll host disks.reverse) world := by
      simp [teardown]
    exact left ▸ closes

namespace Closes

variable {world left : World σ} {disks : List LoopDisk} {calls : List (Call σ)}
  {outcome : Except Fault Unit}

/-- The devices that disks still have are released, in the order of the closings. -/
theorem commands (closes : Closes host world disks calls left outcome) :
    left.commands
      = world.commands ++ ((calls.map (·.disk)).filterMap (·.held?)).map Plan.release := by
  have first (disk : LoopDisk) (disks : List LoopDisk) :
      ((disk :: disks).filterMap (·.held?)).map Plan.release
        = disk.releases ++ (disks.filterMap (·.held?)).map Plan.release := by
    rw [LoopDisk.releases_eq]
    cases held : disk.held? <;> simp [held]
  induction closes with
  | done => exact (List.append_nil _).symm
  | released closes later ih =>
    rw [ih, LoopDisk.commands_after_close, List.map_cons, first, List.append_assoc]
  | recorded fails teardown later ih =>
    rw [ih, Logger.noted_commands, LoopDisk.commands_after_close, List.map_cons, first,
      List.append_assoc]
  | broken fails other =>
    rw [LoopDisk.commands_after_close, List.map_singleton, first]
    exact congrArg _ (List.append_nil _).symm

/-- A disk that cannot be released is recorded once, and nothing else is. -/
theorem errors (closes : Closes host world disks calls left outcome) :
    left.errorsOf "pytest" = world.errorsOf "pytest" ++ calls.flatMap (notes host) := by
  induction closes with
  | done => exact (List.append_nil _).symm
  | released closes later ih =>
    rw [ih, errorsOf_close, List.flatMap_cons]
    simp [notes, Call.result, closes]
  | recorded fails teardown later ih =>
    rw [ih, errorsOf_note, errorsOf_close, List.flatMap_cons]
    simp [notes, Call.result, fails, teardown]
  | broken fails other =>
    rw [errorsOf_close]
    simp [notes, Call.result, fails, other]

theorem disks_of_ok (closes : Closes host world disks calls left outcome)
    (returns : outcome = .ok ()) : calls.map (·.disk) = disks := by
  induction closes with
  | done => rfl
  | released closes later ih => rw [List.map_cons, ih returns]
  | recorded fails teardown later ih => rw [List.map_cons, ih returns]
  | broken fails other => cases returns

theorem last_of_error (closes : Closes host world disks calls left outcome) {fault : Fault}
    (breaks : outcome = .error fault) :
    ∃ front last, calls = front ++ [last] ∧ calls.map (·.disk) <+: disks ∧
      (last.result host).2 = .error fault ∧ fault.problem.isTeardown = false := by
  induction closes with
  | done => cases breaks
  | released closes later ih =>
    obtain ⟨front, last, rfl, before, ends, other⟩ := ih breaks
    exact ⟨_ :: front, last, rfl, List.cons_prefix_cons.2 ⟨rfl, before⟩, ends, other⟩
  | recorded fails teardown later ih =>
    obtain ⟨front, last, rfl, before, ends, other⟩ := ih breaks
    exact ⟨_ :: front, last, rfl, List.cons_prefix_cons.2 ⟨rfl, before⟩, ends, other⟩
  | broken fails other =>
    cases breaks
    exact ⟨[], _, rfl, ⟨_, rfl⟩, fails, other⟩

end Closes

end Fixture

namespace Factory

/-- What a test does with a factory of disks, which are numbered as the factory returned them. -/
inductive Step (σ : Type) where
  | call (specs : List PartitionSpec)
  | close (number : Nat)
  /-- Whatever else happens to the world. -/
  | meanwhile (change : World σ → World σ)

def step (host : Host σ) (directory : String) (state : State σ) : Step σ → State σ
  | .call specs =>
    let built := ending (Fixture.buildDisk host directory specs) state.world
    ⟨after (Fixture.buildDisk host directory specs) state.world,
      state.disks ++ built.toOption.toList⟩
  | .close number => Lifetime.step host state (.close number)
  | .meanwhile change => Lifetime.step host state (.meanwhile change)

def run (host : Host σ) (directory : String) (state : State σ) (test : List (Step σ)) : State σ :=
  test.foldl (step host directory) state

/-- The disk that a step gets from the factory, as it is then. -/
def returned? (host : Host σ) (directory : String) (state : State σ) : Step σ → Option LoopDisk
  | .call specs => (ending (Fixture.buildDisk host directory specs) state.world).toOption
  | .close _ | .meanwhile _ => none

/-- The disks that a test gets from the factory, as they are then. -/
def returned (host : Host σ) (directory : String) : State σ → List (Step σ) → List LoopDisk
  | _, [] => []
  | state, next :: rest =>
    (returned? host directory state next).toList
      ++ returned host directory (step host directory state next) rest

/-- Disks that are still as they were built, but for a device that a closing has released. -/
structure Ages (built disks : List LoopDisk) : Prop where
  length : disks.length = built.length
  entry : ∀ (number : Nat) (disk : LoopDisk), built[number]? = some disk →
    disks[number]? = some disk ∨ disks[number]? = some { disk with device := .null }

theorem Ages.mem {built disks : List LoopDisk} (ages : Ages built disks) {disk : LoopDisk}
    (member : disk ∈ disks) :
    ∃ fresh ∈ built, disk = fresh ∨ disk = { fresh with device := .null } := by
  obtain ⟨number, there⟩ := List.getElem?_of_mem member
  have inside : number < built.length := ages.length ▸ (List.getElem?_eq_some_iff.1 there).1
  have found : built[number]? = some built[number] := List.getElem?_eq_getElem inside
  have aged := ages.entry number _ found
  rw [there] at aged
  exact ⟨_, List.getElem_mem inside, aged.imp Option.some.inj Option.some.inj⟩

theorem ages_append {built disks : List LoopDisk} (ages : Ages built disks)
    (more : List LoopDisk) : Ages (built ++ more) (disks ++ more) := by
  refine ⟨by simp [ages.length], fun number disk there => ?_⟩
  by_cases inside : number < built.length
  · rw [List.getElem?_append_left inside] at there
    rw [List.getElem?_append_left (ages.length ▸ inside)]
    exact ages.entry number disk there
  · rw [List.getElem?_append_right (Nat.le_of_not_lt inside)] at there
    rw [List.getElem?_append_right (ages.length ▸ Nat.le_of_not_lt inside), ages.length]
    exact .inl there

theorem ages_close {built disks : List LoopDisk} (ages : Ages built disks) (world : World σ)
    (number : Nat) :
    Ages built (Lifetime.step host ⟨world, disks⟩ (.close number)).disks := by
  cases found : disks[number]? with
  | none => simpa only [Lifetime.step, found] using ages
  | some current =>
    simp only [Lifetime.step, found]
    refine ⟨by simp [ages.length], fun other disk there => ?_⟩
    by_cases same : number = other
    · subst other
      have inside : number < disks.length := (List.getElem?_eq_some_iff.1 found).1
      rw [List.getElem?_set_self inside]
      have aged := ages.entry number disk there
      rw [found] at aged
      rcases LoopDisk.closing_cases host current world with kept | freed
      · rw [kept]
        exact aged
      · rw [freed]
        rcases aged with aged | aged <;> rw [Option.some.inj aged] <;> exact .inr rfl
    · rw [List.getElem?_set_ne same]
      exact ages.entry other disk there

theorem ages_step {state : State σ} {built : List LoopDisk} (directory : String)
    (ages : Ages built state.disks) (next : Step σ) :
    Ages (built ++ (returned? host directory state next).toList)
      (step host directory state next).disks := by
  cases next with
  | call specs => exact ages_append ages _
  | close number =>
    rw [returned?, Option.toList_none, List.append_nil]
    exact ages_close ages state.world number
  | meanwhile change =>
    rw [returned?, Option.toList_none, List.append_nil]
    exact ages

theorem ages_run {state : State σ} {built : List LoopDisk} (directory : String)
    (ages : Ages built state.disks) (test : List (Step σ)) :
    Ages (built ++ returned host directory state test) (run host directory state test).disks := by
  induction test generalizing state built with
  | nil => rwa [returned, List.append_nil]
  | cons next rest ih =>
    rw [returned, ← List.append_assoc]
    exact ih (ages_step directory ages next)

/-- A factory returns disks with a device. -/
theorem exists_device_of_returned (host : Host σ) (directory : String) (state : State σ)
    (test : List (Step σ)) :
    ∀ disk ∈ returned host directory state test, ∃ device, disk.device = .text device := by
  induction test generalizing state with
  | nil => simp [returned]
  | cons next rest ih =>
    intro disk member
    rcases List.mem_append.1 member with first | later
    · cases next with
      | call specs =>
        cases built : ending (Fixture.buildDisk host directory specs) state.world with
        | error fault => simp [returned?, built, Except.toOption] at first
        | ok found =>
          obtain rfl : disk = found := by simpa [returned?, built, Except.toOption] using first
          obtain ⟨path, -, builds⟩ := ending_bind_eq_ok_iff.1 built
          exact ⟨_, (LoopDisk.eq_of_build builds).2⟩
      | close number => simp [returned?] at first
      | meanwhile change => simp [returned?] at first
    · exact ih _ disk later

/-- The teardown of a factory, after whatever test. The disks are those that the factory returned,
in their order. They are closed once each, the one returned last first, and of those that still have
a device, these are released; a disk that cannot be released is recorded once, and the closings go
on. Only a fault that is none of the teardown breaks off, and then its closing is the last; on a
faithful host this takes a name that is none, or a release whose output is no text. -/
theorem teardown_of_test (host : Host σ) (directory : String) (world : World σ)
    (test : List (Step σ)) :
    let built := returned host directory ⟨world, []⟩ test
    let state := run host directory ⟨world, []⟩ test
    let left := after (Fixture.teardown host state.disks) state.world
    Ages built state.disks ∧
    ∃ calls closed outcome,
      ending (Fixture.teardown host state.disks) state.world = .ok (closed, outcome) ∧
      Fixture.Closes host state.world state.disks.reverse calls left outcome ∧
      left.commands
        = state.world.commands
          ++ ((calls.map (·.disk)).filterMap (·.held?)).map Plan.release ∧
      left.errorsOf "pytest"
        = state.world.errorsOf "pytest" ++ calls.flatMap (Fixture.notes host) ∧
      (outcome = .ok () → calls.map (·.disk) = state.disks.reverse) ∧
      (∀ fault, outcome = .error fault → ∃ front last, calls = front ++ [last] ∧
        calls.map (·.disk) <+: state.disks.reverse ∧ (last.result host).2 = .error fault ∧
        fault.problem.isTeardown = false ∧
        (host.Faithful → ((∃ disk ∈ built, disk.isNameless = true) ∧ last.disk.isNameless = true) ∨
          ∃ wrong, fault = .ofMisuse (.undecodable wrong))) := by
  intro built state left
  have ages : Ages built state.disks := by
    have start : Ages [] (⟨world, []⟩ : State σ).disks := ⟨rfl, by simp⟩
    exact ages_run directory start test
  obtain ⟨calls, closed, outcome, returns, closes⟩ :=
    Fixture.closes_teardown host state.disks state.world
  refine ⟨ages, calls, closed, outcome, returns, closes, closes.commands, closes.errors,
    closes.disks_of_ok, fun fault broken => ?_⟩
  obtain ⟨front, last, split, before, fails, other⟩ := closes.last_of_error broken
  refine ⟨front, last, split, before, fails, other, fun faithful => ?_⟩
  -- the disk may have lost its device since it was built, but then the path is to blame
  have member : last.disk ∈ state.disks := by
    refine List.mem_reverse.1 (before.subset ?_)
    simp [split]
  obtain ⟨fresh, inside, aged⟩ := ages.mem member
  obtain ⟨device, named⟩ := exists_device_of_returned host directory _ test fresh inside
  have worded : last.disk.device = .null ∨ ∃ device, last.disk.device = .text device := by
    rcases aged with same | freed
    · exact .inr ⟨device, same ▸ named⟩
    · exact .inl (freed ▸ rfl)
  refine (LoopDisk.isNameless_of_closing faithful worded fails other).imp_left fun nameless => ?_
  exact ⟨⟨fresh, inside, LoopDisk.isNameless_of_aged nameless aged⟩, nameless⟩

/-- Two disks that cannot be released are recorded, beside a build that failed. -/
example :
    let state := run .stuck "tmp" ⟨.untouched, []⟩ [.call [], .call [.data], .call [], .close 1]
    let left := after (Fixture.teardown .stuck state.disks) state.world
    left.commands = state.world.commands
        ++ [["losetup", "-d", "/dev/loop0"], ["losetup", "-d", "/dev/loop0"]] ∧
      (left.errorsOf "pytest").length = 2 := by
  decide +kernel

/-- A release that prints what is no text keeps the disk that was built before from being closed. -/
theorem teardown_of_test_garbled :
    let host := Host.garbling ["losetup", "-d"]
    let state := run host "tmp" ⟨.untouched, []⟩ [.call [], .call []]
    let left := after (Fixture.teardown host state.disks) state.world
    host.Faithful ∧ state.disks.length = 2 ∧
      (match ending (Fixture.teardown host state.disks) state.world with
        | .ok (_, .error fault) => fault.kind
        | _ => "") = "UnicodeDecodeError" ∧
      left.commands = state.world.commands ++ [["losetup", "-d", "/dev/loop0"]] := by
  refine ⟨Host.faithful_garbling _, ?_⟩
  decide +kernel

end Factory

end DiskFixture
