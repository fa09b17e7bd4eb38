import DiskFixture.Fixture
import DiskFixture.Rehearsal.Body
import DiskFixture.Verify

/-!
Sessions: steps taken one after the other in one world. Disks are handles; a handle has a number,
and a name that may pass to another handle. A factory holds on to the handles that it made.
-/

namespace DiskFixture.Rehearsal

/-- What a factory makes, where, and with which handles. -/
inductive Factory where
  | disks (directory : Value) (handles : List Nat) (isOpen : Bool)
  | files (directory : Value)

/-- What can be done without touching the handles. -/
inductive Errand where
  | change (action : FileAction)
  | setRules (rules : List Rule)
  | setRefusals (refusals : List (Guarded × CallFault))
  | load
  | set (key : String) (value : Value)
  | get (key : String) (otherwise : Value)
  | getInteger (key : String) (otherwise : Value)
  | getSwitch (key : String) (otherwise : Value)
  | append (key : String) (item : Value)
  | dump
  | defaults
  | createFile (path : Value) (filesystem : String) (size : Value) (creator : Option Body)
      (wantsArchive : Bool)
  | archive (path : Value)
  | mount (source : Value) (body : Body)
  | run (words : List Value)
  | settle
  | resolve (device : Value)
  | format (target filesystem label : Value)
  | allocate (path : String) (size : Value)
  | digest (path : String) (length : Option Int)
  | compare (first second : String)

/-- A step of a session. Partitions come as they were given: checked, or refused. -/
inductive Step where
  | errand (errand : Errand)
  | createDisk (name : String) (path : Value) (specs : Except Misuse (List PartitionSpec))
  | newDisk (name : String) (path device : Value) (partitions : Except Misuse (List Partition))
  | close (name : String)
  | withDisk (name : String) (body : Body)
  | state (name : String)
  | openDisks (name : String) (directory : Value)
  | openFiles (name : String) (directory : Value)
  | factoryDisk (name disk : String) (specs : Except Misuse (List PartitionSpec))
  | factoryFile (name filesystem : String) (size : Value) (creator : Option Body)
      (wantsArchive : Bool)
  | closeFactory (name : String)

/-- The handles of a session, the names that they have, and its factories. -/
structure Table where
  handles : List LoopDisk
  names : List (String × Nat)
  factories : List (String × Factory)

namespace Table

def empty : Table := ⟨[], [], []⟩

/-- The number and the handle that a name stands for. -/
def find? (table : Table) (name : String) : Option (Nat × LoopDisk) :=
  (table.names.lookup name).bind fun number => (table.handles[number]?).map (number, ·)

def add (table : Table) (name : String) (disk : LoopDisk) : Table :=
  { table with
    handles := table.handles ++ [disk]
    names := (name, table.handles.length) :: table.names }

def update (table : Table) (number : Nat) (disk : LoopDisk) : Table :=
  { table with handles := table.handles.set number disk }

def setFactory (table : Table) (name : String) (factory : Factory) : Table :=
  { table with factories := (name, factory) :: table.factories }

end Table

/-- The path of the settings file of a session. -/
def settingsPath : String := "settings.json"

def partitionRow (partition : Partition) : Value :=
  .list [partition.spec.filesystem, partition.spec.label, .int partition.spec.size,
    partition.device, .text partition.identifier.text]

def diskState (disk : LoopDisk) : Value :=
  .object [("device", disk.device), ("repr", .text disk.written),
    ("partitions", .list (disk.partitions.map partitionRow))]

namespace Session

variable (host : Host Script)

def creatorOf (creator : Option Body) : Option (String → Action Script Unit) :=
  creator.map fun body point => body.act host (some point)

/-- The fault of a name that nothing has. -/
def nobody (name : String) : Fault := .ofProblem (.raised .key [.text name])

/-- Closes the disk with a name. The table has the disk as it is afterwards, whatever happened. -/
def closeNamed (table : Table) (name : String) : Action Script (Except Fault Unit × Table) := do
  match table.find? name with
  | none => return (.error (nobody name), table)
  | some (number, disk) =>
    let (closed, outcome) ← disk.close host
    return (outcome, table.update number closed)

/-- Closes the disks of a factory that is still open; it counts as closed whatever happened. -/
def closeFactory (table : Table) (name : String) :
    Action Script (Except Fault Unit × Table) := do
  match table.factories.lookup name with
  | some (.disks directory handles true) =>
    let (disks, outcome) ← Fixture.teardown host (handles.filterMap (table.handles[·]?))
    let closed := (handles.zip disks).foldl (fun table entry => table.update entry.1 entry.2) table
    return (outcome, closed.setFactory name (.disks directory handles false))
  | none => return (.error (nobody name), table)
  | _ => return (.ok (), table)

def run : Errand → Action Script Value
  | .change action => do Action.filing action.perform; return .null
  | .setRules rules => do
    modify fun world => { world with memory := { world.memory with rules } }
    return .null
  | .setRefusals refusals => do
    modify fun world => { world with memory := { world.memory with refusals } }
    return .null
  | .load => do Settings.load settingsPath; return .null
  | .set key value => do Settings.set key value; return .null
  | .get key otherwise => return Settings.lookup (← MonadState.get).settings key otherwise
  | .getInteger key otherwise => do
    Action.ofExcept (Settings.integer (← MonadState.get).settings key otherwise)
  | .getSwitch key otherwise =>
    return .bool (Settings.lookup (← MonadState.get).settings key otherwise).isTruthy
  | .append key item => do Settings.append key item; return .null
  | .dump => return .object (← MonadState.get).settings
  | .defaults => return .object Settings.defaults
  | .createFile path filesystem size creator wantsArchive =>
    return .text (← PartitionFile.request host path filesystem size (creatorOf host creator)
      wantsArchive)
  | .archive path => return .text (← PartitionFile.archive host path)
  | .mount source body =>
    return .text (← Mount.within host source fun point => do
      body.act host (some point)
      return point)
  | .run words => return .text (← Command.runValues host words)
  | .settle => do Command.settle host; return .null
  | .resolve (.text device) => return .text (← Identifier.resolve host device).text
  | .resolve device => return .text (← Command.runValues host [.text "blkid", device])
  | .format target filesystem label =>
    return .text (← Filesystem.make host target filesystem label)
  | .allocate path size => do
    checkSize size
    DiskFixture.allocate host path size
    return .null
  | .digest path length => return .text (← Verify.digest host path length)
  | .compare first second => do Verify.compare first second; return .null

/-- Takes a step. The table comes back also when the step ends in a fault. -/
def step (table : Table) : Step → Action Script (Except Fault Value × Table)
  | .createDisk name path specs => do
    let build : Action Script LoopDisk := do
      let specs ← Action.ofExcept specs
      LoopDisk.build host (← Action.ofExcept path.asPath) specs
    match ← Action.attempt build with
    | .ok disk => return (.ok (diskState disk), table.add name disk)
    | .error fault => return (.error fault, table)
  | .newDisk name path device partitions => do
    let made : Except Misuse LoopDisk := do
      let partitions ← partitions
      return ⟨← path.asPath, device, partitions⟩
    match made with
    | .ok disk => return (.ok (diskState disk), table.add name disk)
    | .error misuse => return (.error (.ofMisuse misuse), table)
  | .close name => do
    let (outcome, table) ← closeNamed host table name
    return (outcome.map fun _ => .null, table)
  | .withDisk name body => do
    if (table.find? name).isNone then return (.error (nobody name), table)
    let inside ← Action.attempt (body.act host none)
    let (outcome, table) ← closeNamed host table name
    match outcome with
    | .error fault => return (.error fault, table)
    | .ok _ => return (inside.map fun _ => .null, table)
  | .state name =>
    return (.ok (((table.find? name).map fun found => diskState found.2).getD .null), table)
  | .openDisks name directory =>
    return (.ok .null, table.setFactory name (.disks directory [] true))
  | .openFiles name directory => return (.ok .null, table.setFactory name (.files directory))
  | .factoryDisk name disk specs => do
    match table.factories.lookup name with
    | some (.disks directory handles isOpen) =>
      let build : Action Script LoopDisk := do
        let specs ← Action.ofExcept specs
        Fixture.buildDisk host (← Action.ofExcept directory.asPath) specs
      match ← Action.attempt build with
      | .ok built =>
        let factory := .disks directory (handles ++ [table.handles.length]) isOpen
        return (.ok (diskState built), (table.add disk built).setFactory name factory)
      | .error fault => return (.error fault, table)
    | none => return (.error (nobody name), table)
    | _ => return (.ok .null, table)
  | .factoryFile name filesystem size creator wantsArchive => do
    match table.factories.lookup name with
    | some (.files directory) =>
      let made ← Action.attempt do
        Fixture.createFile host (← Action.ofExcept directory.asPath) filesystem size
          (creatorOf host creator) wantsArchive
      return (made.map .text, table)
    | none => return (.error (nobody name), table)
    | _ => return (.ok .null, table)
  | .closeFactory name => do
    let (outcome, table) ← closeFactory host table name
    return (outcome.map fun _ => .null, table)
  | .errand errand => return (← Action.attempt (run host errand), table)

/-- What is shown of an entry: of a file, its size only. -/
inductive Listed where
  | directory
  | file (size : Nat)
  | link (target : String)
  deriving DecidableEq, Repr

def Listed.ofEntry : Entry → Listed
  | .directory => .directory
  | .file content => .file content.size
  | .link target => .link target

def listing (files : FileTree) : List (String × Listed) :=
  files.listing.map fun found => (found.1, .ofEntry found.2)

/-- What a step showed: its value or fault, the commands and records of the step, and the files
afterwards if they look different from the last ones shown. -/
structure Report where
  outcome : Except Fault Value
  commands : List (List String)
  records : List Record
  listing : Option (List (String × Listed))

/-- Takes the steps one after the other and reports on each; `shown` is the listing shown last. -/
def report (table : Table) (world : World Script) (shown : List (String × Listed)) :
    List Step → List Report
  | [] => []
  | first :: rest =>
    let fresh := { world with commands := [], records := [] }
    let (outcome, table, after) : Except Fault Value × Table × World Script :=
      match step host table first fresh with
      | .ok (outcome, table) after => (outcome, table, after)
      | .error fault after => (.error fault, table, after)
    let listing := listing after.files
    let changed := listing != shown
    ⟨outcome, after.commands, after.records, if changed then some listing else none⟩
      :: report table after (if changed then listing else shown) rest

end Session

end DiskFixture.Rehearsal
