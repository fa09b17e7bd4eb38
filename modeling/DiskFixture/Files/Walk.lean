import DiskFixture.Files.Path
import DiskFixture.Files.Refusal
import DiskFixture.Files.Tree

/-!
Finding the place that a path names. A walk takes the parts of the path one by one, follows the
links that it meets and stops where a part cannot be taken. The last part may name nothing yet.
-/

namespace DiskFixture.FileTree

/-- The number of links that one walk follows at most. -/
def linkLimit : Nat := 40

/-- The number of bytes that a part of a path has at most. -/
def nameLimit : Nat := 255

/-- The number of bytes that a path has at most. -/
def pathLimit : Nat := 4095

/-- What the last part of a path is to name. -/
inductive Aim where
  /-- Whatever stands there, a link included. -/
  | entry
  /-- What a link there leads to. -/
  | target
  /-- The same, to be made as a file if nothing is there: no slash may follow the part. -/
  | file
  deriving DecidableEq, Repr

def origin (path : String) : Location :=
  if Path.isAbsolute path then [] else workingDirectory

def isSlashed (rest : List String) : Bool :=
  !rest.isEmpty && rest.all (·.isEmpty)

/-- Walks the parts of a path from the directory `here`. A link is handed to `jump` with the parts
still to go, unless it is the last part and meant itself. -/
def walkFrom (tree : FileTree) (aim : Aim)
    (jump : Location → List String → Except Refusal Location) (here : Location) :
    List String → Except Refusal Location
  | [] => .ok here
  | part :: rest =>
    if part = "" || part = "." then tree.walkFrom aim jump here rest
    else if part = ".." then tree.walkFrom aim jump here.dropLast rest
    else if aim = .file && isSlashed rest then .error .directory
    else if nameLimit < part.utf8ByteSize then .error .nameTooLong
    else
      let next := here ++ [part]
      match tree.at? next with
      | some .directory => tree.walkFrom aim jump next rest
      | some (.link target) =>
        if rest.isEmpty && aim = .entry then .ok next
        else jump (if Path.isAbsolute target then [] else here) (Path.parts target ++ rest)
      | some (.file _) => if rest.isEmpty then .ok next else .error .notDirectory
      | none => if rest.isEmpty then .ok next else .error .missing

/-- A walk that follows at most `links` links. -/
def walk (tree : FileTree) (aim : Aim) :
    (links : Nat) → Location → List String → Except Refusal Location
  | 0 => tree.walkFrom aim fun _ _ => .error .tooManyLinks
  | links + 1 => tree.walkFrom aim (tree.walk aim links)

def checkPath (path : String) : Except Refusal Unit :=
  if path.isEmpty then .error .missing
  else if pathLimit < path.utf8ByteSize then .error .nameTooLong
  else .ok ()

/-- The place that a path names, whether something stands there or not. -/
def resolve (tree : FileTree) (aim : Aim) (path : String) : Except Refusal Location :=
  match checkPath path with
  | .error refusal => .error refusal
  | .ok _ => tree.walk aim linkLimit (origin path) (Path.parts path)

def find (tree : FileTree) (aim : Aim) (path : String) : Except Refusal (Location × Entry) :=
  match tree.resolve aim path with
  | .error refusal => .error refusal
  | .ok place =>
    match tree.at? place with
    | none => .error .missing
    | some entry => .ok (place, entry)

def hasPath (tree : FileTree) (path : String) : Bool :=
  match tree.find .target path with
  | .ok _ => true
  | .error _ => false

def isDirectory (tree : FileTree) (path : String) : Bool :=
  match tree.find .target path with
  | .ok (_, .directory) => true
  | _ => false

def isLink (tree : FileTree) (path : String) : Bool :=
  match tree.find .entry path with
  | .ok (_, .link _) => true
  | _ => false

/-- Whether a path could name anything at all. -/
def isNameable (path : String) : Bool :=
  !path.toList.contains '\x00'

def read (tree : FileTree) (path : String) : Except CallFault ByteArray :=
  if isNameable path then
    match tree.find .target path with
    | .ok (_, .file content) => .ok content
    | .ok (_, _) => .error (.refused .directory path)
    | .error refusal => .error (.refused refusal path)
  else .error .nullInPath

/-- A path taken apart at its last part: the directory that holds it, the part, and whether slashes
follow it. -/
structure Spot where
  directory : Location
  name : String
  slashed : Bool

def Spot.place (spot : Spot) : Location := spot.directory ++ [spot.name]

/-- The spot of a path. The directory must exist; the part itself is not looked at. -/
def spot (tree : FileTree) (path : String) : Except Refusal Spot :=
  match checkPath path with
  | .error refusal => .error refusal
  | .ok _ =>
    let parts := Path.parts path
    let reversed := parts.reverse.dropWhile (·.isEmpty)
    let slashed := parts.getLast? == some ""
    match tree.walk .target linkLimit (origin path) (reversed.tail.reverse ++ [""]) with
    | .error refusal => .error refusal
    | .ok directory => .ok ⟨directory, reversed.headD ".", slashed⟩

def lookUp (tree : FileTree) (spot : Spot) : Except Refusal (Option Entry) :=
  if nameLimit < spot.name.utf8ByteSize then .error .nameTooLong else .ok (tree.at? spot.place)

/-- Whether a part names the directory itself or the one above it. -/
def isDots (name : String) : Bool := name == "." || name == ".."

end DiskFixture.FileTree
