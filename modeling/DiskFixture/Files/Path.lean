import DiskFixture.Text.Pieces

/-!
Path texts: joining a directory and a name, the normal form without empty and `.` parts, and the
parts of a path as the file system walks them. Main statements: joining never loses the directory
when the name is not absolute, and the parts of a path hold no slash.
-/

namespace DiskFixture.Path

def isSlash (c : Char) : Bool := c == '/'

def parts (path : String) : List String :=
  (Text.pieces isSlash path.toList).map String.ofList

def isAbsolute (path : String) : Bool :=
  path.toList.head? == some '/'

/-- `name` within `directory`. An absolute name stands for itself. -/
def join (directory name : String) : String :=
  if isAbsolute name then name
  else if directory.isEmpty || directory.toList.getLast? == some '/' then directory ++ name
  else directory ++ "/" ++ name

/-- What stands between a directory and a name in it. -/
def gap (directory : String) : String :=
  if directory.isEmpty || directory.toList.getLast? == some '/' then "" else "/"

/-- The slashes that a normal form starts with: two slashes stay two, more of them are one. -/
def root (path : String) : String :=
  match (path.toList.takeWhile isSlash).length with
  | 0 => ""
  | 2 => "//"
  | _ => "/"

/-- The path without superfluous slashes and `.` parts; an empty path is `.`. -/
def normalize (path : String) : String :=
  let kept := (parts path).filter fun part => !part.isEmpty && part != "."
  let text := root path ++ "/".intercalate kept
  if text.isEmpty then "." else text

def parent (path : String) : String :=
  let kept := (parts path).filter fun part => !part.isEmpty && part != "."
  let text := root path ++ "/".intercalate kept.dropLast
  if text.isEmpty then "." else text

/-- The parts of a path that starts in the directory with the parts `base`: `.` is left out, and
`..` takes the part in front of it away, whatever that names. -/
def collapse (base : List String) (path : String) : List String :=
  (parts path).foldl
    (fun kept part =>
      if part = "" || part = "." then kept
      else if part = ".." then kept.dropLast
      else kept ++ [part])
    (if isAbsolute path then [] else base)

/-- The text before the last part, without the slashes that end it unless there is nothing else,
and the last part. -/
def split (path : String) : String × String :=
  let reversed := path.toList.reverse
  let last := (reversed.takeWhile (!isSlash ·)).reverse
  let before := (reversed.dropWhile (!isSlash ·)).reverse
  let trimmed := (before.reverse.dropWhile isSlash).reverse
  (String.ofList (if trimmed.isEmpty then before else trimmed), String.ofList last)

/-- A name that is not absolute stands behind its whole directory. -/
theorem join_of_not_isAbsolute {name : String} (relative : isAbsolute name = false)
    (directory : String) : join directory name = directory ++ gap directory ++ name := by
  unfold join gap
  rw [if_neg (by simp [relative])]
  split <;> simp

theorem not_slash_of_mem_parts {path part : String} (member : part ∈ parts path) :
    '/' ∉ part.toList := by
  simp only [parts, List.mem_map] at member
  obtain ⟨chars, inside, rfl⟩ := member
  intro slash
  have := Text.not_cut_of_mem_pieces isSlash _ chars inside '/' (by simpa using slash)
  simp [isSlash] at this

example : normalize "a//b/./c/../d/" = "a/b/c/../d" := by decide +kernel
example : normalize "" = "." := by decide +kernel
example : collapse ["w"] "a/../../b//c" = ["b", "c"] := by decide +kernel
example : split "a/b//" = ("a/b", "") := by decide +kernel
example : join "x/" "y" = "x/y" := by decide +kernel

end DiskFixture.Path
