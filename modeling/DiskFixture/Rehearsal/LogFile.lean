import DiskFixture.Log.Sink

/-!
The log files of a rehearsal. They are never exchanged for others: whatever is handed in is put
behind what is there, as long as the file is there at all.
-/

namespace DiskFixture

namespace Rehearsal

/-- The path of a log file. It is a template in which the moment of the opening may stand, and `..`
takes the part in front of it away even if that is a link. -/
def logPath (moment : Template.Moment) (path : String) : Except Misuse String :=
  match Template.fillTime moment path with
  | .error fault => .error (.template fault)
  | .ok path => .ok ("/" ++ "/".intercalate (Path.collapse FileTree.workingDirectory path))

/-- Makes a log file and the directories above it, unless they exist, and returns its location. -/
def openLog (path : String) : Filing Location := do
  Filing.makeDirectories true path.length (Path.split path).1
  Filing.touch path

/-- The files with a text behind the content of one of them. -/
def append (place : Location) (text : String) (files : FileTree) : FileTree :=
  match files.at? place with
  | some (.file content) => files.put place (.file (content ++ text.toUTF8))
  | _ => files

def keeper (moment : Template.Moment) : Keeper where
  opens _ path :=
    match logPath moment path with
    | .error wrong => throw (.misuse wrong)
    | .ok path => openLog path
  takes _ := append

end Rehearsal

/-- The sinks without the files that are gone. What is put in their place later on is not theirs. -/
def Sinks.remaining (sinks : Sinks) (files : FileTree) : Sinks :=
  let isThere (place : Location) : Bool :=
    match files.at? place with
    | some (.file _) => true
    | _ => false
  { sinks with
    debugFile := sinks.debugFile.filter isThere
    structuredFile := sinks.structuredFile.filter isThere }

end DiskFixture
