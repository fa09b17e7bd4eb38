import DiskFixture.Template.Fill
import DiskFixture.World

/-!
Loggers. A logger adds its bound values to every record. What becomes of a message is up to the
logging library behind it, of which four things are assumed, as it documents them:

* the values of a record are the standing ones, overridden by those of the operation under way, by
  the bound ones and by the keywords, in this order (`extra`, `fill`);
* a message with keywords is a template and is filled in with them (`fill`);
* a message without keywords stands for itself (`log`);
* some sink takes records of every level, as the library does not even fill in what none takes.
-/

namespace DiskFixture

structure Logger where
  bound : Fields

namespace Logger

variable {σ : Type}

def bind (logger : Logger) (more : Fields) : Logger :=
  ⟨Fields.overlay logger.bound more⟩

def extra (logger : Logger) (world : World σ) : Fields :=
  Fields.overlay (Fields.overlay world.standing world.scope) logger.bound

def log (logger : Logger) (level : Level) (message : String) : Action σ Unit := fun world =>
  .ok () { world with records := world.records ++ [⟨level, message, logger.extra world⟩] }

/-- Logs a template filled in with keywords; without keywords, the template as it is. That some sink
takes the record is assumed; otherwise a template that cannot be filled in would go unnoticed. -/
def fill (logger : Logger) (level : Level) (template : String) (keywords : Fields) :
    Action σ Unit := fun world =>
  if keywords.isEmpty then logger.log level template world
  else
    match Template.fill template keywords with
    | .error fault => .error (.ofMisuse (.template fault)) world
    | .ok message =>
      let extra := Fields.overlay (logger.extra world) keywords
      .ok () { world with records := world.records ++ [⟨level, message, extra⟩] }

/-- The number of digits that name a job. -/
def jobDigits : Nat := 8

/-- The name of a job: a word and digits of its own. -/
def jobName (word digits : String) : String :=
  word ++ "-" ++ String.ofList (digits.toList.take jobDigits)

/-- The logger with those of a job, tags and a source that are given. -/
def ofContext (job : Option Value) (tags : Option (List Value)) (source : Option Value) :
    Logger :=
  let entry (name : String) (value : Option Value) : Fields :=
    value.toList.map fun value => (name, value)
  ⟨entry "job_id" job ++ entry "tags" (tags.map .list) ++ entry "source" source⟩

def ofTags (source : String) (tags : List String) : Logger :=
  ⟨[("source", .text source), ("tags", .ofTexts tags)]⟩

/-- The logger for disk images, within a job. -/
def disk (job : Value) : Logger :=
  (ofTags "disk" ["disk", "loop"]).bind [("job_id", job)]

/-- The logger for partition files, within a job. -/
def partition (job : Value) : Logger :=
  (ofTags "partition" ["partition", "mount"]).bind [("job_id", job)]

def verify : Logger := ofTags "verify" ["verify"]

def command : Logger := ofTags "command" ["command"]

def fixture : Logger := ofTags "pytest" ["pytest"]

/-- The digits of the jobs that the library's own loggers belong to. -/
def standingDigits : String := "00000000"

def ownDisk : Logger := disk (.text (jobName "disk" standingDigits))

def ownPartition : Logger := partition (.text (jobName "part" standingDigits))

end Logger

end DiskFixture
