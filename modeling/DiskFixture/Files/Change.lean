import DiskFixture.Files.Walk

/-!
Changes of a file tree. Each either does what it says or reports an error; removing a directory with
its content and making a directory with its parents may stop half-way and keep what they did so far.
-/

namespace DiskFixture

/-- A step that reads or changes a file tree and may fail. What was changed before a failure stays
changed. -/
abbrev Filing := EStateM CallFault FileTree

namespace Filing

/-- Replaces the tree by the outcome of a change, of which a refusal is the error `described`. -/
def replace (described : Refusal → SystemError) (step : FileTree → Except Refusal FileTree) :
    Filing Unit := fun tree =>
  match step tree with
  | .ok changed => .ok () changed
  | .error refusal => .error (.system (described refusal)) tree

/-- Replaces the tree by the outcome of a change that concerns `path`. -/
def change (path : String) (step : FileTree → Except Refusal FileTree) : Filing Unit := do
  unless FileTree.isNameable path do throw .nullInPath
  replace (.refused · path) step

/-- Whether a path leads to a directory. That a name in it is too long is an error here. -/
def hasDirectory (path : String) : Filing Bool := fun tree =>
  match tree.find .target path with
  | .ok (_, .directory) => .ok true tree
  | .error .nameTooLong => .error (.refused .nameTooLong path) tree
  | _ => .ok false tree

end Filing

namespace FileTree

/-- The place of a file to write; a link at the end of the path is followed. -/
def fileSpot (tree : FileTree) (path : String) : Except Refusal Location :=
  match tree.resolve .file path with
  | .error refusal => .error refusal
  | .ok place =>
    match tree.at? place with
    | some .directory => .error .directory
    | _ => .ok place

def written (tree : FileTree) (path : String) (content : ByteArray) : Except Refusal FileTree :=
  match tree.fileSpot path with
  | .error refusal => .error refusal
  | .ok place => .ok (tree.put place (.file content))

def withNew (tree : FileTree) (path : String) (entry : Entry) : Except Refusal FileTree :=
  match tree.spot path with
  | .error refusal => .error refusal
  | .ok spot =>
    if isDots spot.name then .error .present
    else
      match tree.lookUp spot with
      | .error refusal => .error refusal
      | .ok (some _) => .error .present
      | .ok none =>
        if spot.slashed && entry ≠ .directory then .error .missing
        else .ok (tree.put spot.place entry)

def withoutFile (tree : FileTree) (path : String) : Except Refusal FileTree :=
  match tree.spot path with
  | .error refusal => .error refusal
  | .ok spot =>
    if isDots spot.name then .error .directory
    else
      match tree.lookUp spot with
      | .error refusal => .error refusal
      | .ok none => .error .missing
      | .ok (some .directory) => .error .directory
      | .ok (some _) => if spot.slashed then .error .notDirectory else .ok (tree.erase spot.place)

def withoutDirectory (tree : FileTree) (path : String) : Except Refusal FileTree :=
  match tree.spot path with
  | .error refusal => .error refusal
  | .ok spot =>
    if spot.name = "." then .error .invalid
    else if spot.name = ".." then .error .notEmpty
    else
      match tree.lookUp spot with
      | .error refusal => .error refusal
      | .ok none => .error .missing
      | .ok (some .directory) =>
        if tree.isOccupied spot.place then .error .notEmpty else .ok (tree.erase spot.place)
      | .ok (some _) => .error .notDirectory

end FileTree

namespace Filing

def write (path : String) (content : ByteArray) : Filing Unit :=
  change path fun tree => tree.written path content

def makeDirectory (path : String) : Filing Unit :=
  change path fun tree => tree.withNew path .directory

/-- Makes a file without content, unless there is one, and returns its place. -/
def touch (path : String) : Filing Location := do
  let content := match (← get).read path with
    | .ok content => content
    | .error _ => ByteArray.empty
  write path content
  match (← get).resolve .file path with
  | .ok place => return place
  | .error refusal => throw (.refused refusal path)

/-- Makes a link. Its target must be a path, but need not lead anywhere. -/
def link (path target : String) : Filing Unit := do
  unless FileTree.isNameable target && FileTree.isNameable path do throw .nullInPath
  replace (.refusedBetween · target path) fun tree => do
    FileTree.checkPath target
    tree.withNew path (.link target)

def remove (path : String) : Filing Unit :=
  change path fun tree => tree.withoutFile path

def removeDirectory (path : String) : Filing Unit :=
  change path fun tree => tree.withoutDirectory path

def clear (path : String) : Filing Unit :=
  change path fun tree =>
    (tree.resolve .target path).map tree.eraseUnder

def removeTree (path : String) : Filing Unit := do
  clear path
  removeDirectory path

/-- Removes whatever a path names: a directory with everything under it, a file or a link. -/
def delete (path : String) : Filing Unit := do
  let tree ← get
  if tree.isDirectory path && !tree.isLink path then removeTree path else remove path

/-- Makes a directory. With `tolerant`, it may exist already. -/
def makeLast (tolerant : Bool) (path : String) : Filing Unit := do
  try makeDirectory path
  catch fault =>
    unless tolerant && !fault.isMisuse && (← get).isDirectory path do throw fault

/-- Makes a directory and those of its parents that are missing. A parent that turns out to exist
already is no error, and with `tolerant` the directory is not either; `depth` bounds the number of
parents. -/
def makeDirectories (tolerant : Bool) (depth : Nat) (path : String) : Filing Unit := do
  let (before, name) := Path.split path
  let (head, tail) := if name.isEmpty then Path.split before else (before, name)
  let tree ← get
  match depth with
  | 0 => makeLast tolerant path
  | depth + 1 =>
    if !head.isEmpty && !tail.isEmpty && !tree.hasPath head then
      try makeDirectories tolerant depth head
      catch fault => unless fault.isOf .present do throw fault
      if tail = "." then return
    makeLast tolerant path

/-- That a directory cannot be made is no error if it exists already. -/
def acceptDirectory (path : String) (fault : CallFault) : Filing Unit := do
  if fault.isMisuse then throw fault
  unless (← get).isDirectory path do throw fault

/-- Makes the directory of a path in normal form and those of its parents that are missing; `depth`
bounds their number. That the directory exists already is no error. -/
def ensureDirectory (depth : Nat) (path : String) : Filing Unit :=
  match depth with
  | 0 => do
    try makeDirectory path
    catch fault => acceptDirectory path fault
  | depth + 1 => do
    try makeDirectory path
    catch fault =>
      if fault.isOf .missing then
        if Path.parent path = path then throw fault
        ensureDirectory depth (Path.parent path)
        makeLast true path
      else acceptDirectory path fault

end Filing

end DiskFixture
