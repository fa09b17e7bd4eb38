import DiskFixture.Template.FormatSpec
import DiskFixture.Text.Search

/-!
Moments and their texts. A moment is a date and a time of day at the zero meridian. A format names
its parts by runs of letters, such as `YYYY` for the year and `HH` for the hour; in brackets a run
of letters stands for itself, and so does everything that is no such run. Formats with a percent
sign name the parts by directives instead. Moments are the logging library's and stand only in the
paths of log files; how they are written is assumed. Main statement: characters that start no run
and no brackets stand for themselves.
-/

namespace DiskFixture.Template

structure Moment where
  year : Nat
  month : Nat
  day : Nat
  hour : Nat
  minute : Nat
  second : Nat
  microsecond : Nat
  deriving DecidableEq, Repr

namespace Moment

/-- The moment from which seconds are counted. -/
def epoch : Moment := ⟨1970, 1, 1, 0, 0, 0, 0⟩

/-- The days from the first of March of the year zero to a date. -/
def daysTo (year month day : Nat) : Nat :=
  let year := if month ≤ 2 then year - 1 else year
  365 * year + year / 4 - year / 100 + year / 400 + (153 * ((month + 9) % 12) + 2) / 5 + day - 1

def days (moment : Moment) : Nat :=
  daysTo moment.year moment.month moment.day - daysTo 1970 1 1

/-- The day of the week, Monday being zero. -/
def weekday (moment : Moment) : Nat := (moment.days + 3) % 7

/-- The day of the year, the first being one. -/
def yearDay (moment : Moment) : Nat :=
  daysTo moment.year moment.month moment.day - daysTo moment.year 1 1 + 1

def seconds (moment : Moment) : Nat :=
  ((moment.days * 24 + moment.hour) * 60 + moment.minute) * 60 + moment.second

/-- The hour on a dial. -/
def dialHour (moment : Moment) : Nat := (moment.hour + 11) % 12 + 1

def halfDay (moment : Moment) : String := if moment.hour < 12 then "AM" else "PM"

def monthNames : List String :=
  ["January", "February", "March", "April", "May", "June", "July", "August", "September",
    "October", "November", "December"]

def dayNames : List String :=
  ["Monday", "Tuesday", "Wednesday", "Thursday", "Friday", "Saturday", "Sunday"]

def monthName (moment : Moment) : String := monthNames.getD (moment.month - 1) ""

def dayName (moment : Moment) : String := dayNames.getD moment.weekday ""

def short (name : String) : String := String.ofList (name.toList.take 3)

def padded (width number : Nat) : String :=
  let digits := Nat.toDigits 10 number
  String.ofList (List.replicate (width - digits.length) '0' ++ digits)

/-- The runs of letters that name parts of a moment, each behind those that it starts. -/
def runs : List (String × (Moment → String)) := [
  ("HH", fun m => padded 2 m.hour), ("H", fun m => padded 1 m.hour),
  ("hh", fun m => padded 2 m.dialHour), ("h", fun m => padded 1 m.dialHour),
  ("mm", fun m => padded 2 m.minute), ("m", fun m => padded 1 m.minute),
  ("ss", fun m => padded 2 m.second), ("s", fun m => padded 1 m.second),
  ("SSSSSS", fun m => padded 6 m.microsecond), ("SSSSS", fun m => padded 5 (m.microsecond / 10)),
  ("SSSS", fun m => padded 4 (m.microsecond / 100)),
  ("SSS", fun m => padded 3 (m.microsecond / 1000)),
  ("SS", fun m => padded 2 (m.microsecond / 10000)),
  ("S", fun m => padded 1 (m.microsecond / 100000)),
  ("YYYY", fun m => padded 4 m.year), ("YY", fun m => padded 2 (m.year % 100)),
  ("MMMM", monthName), ("MMM", fun m => short m.monthName),
  ("MM", fun m => padded 2 m.month), ("M", fun m => padded 1 m.month),
  ("DDDD", fun m => padded 3 m.yearDay), ("DDD", fun m => padded 1 m.yearDay),
  ("DD", fun m => padded 2 m.day), ("D", fun m => padded 1 m.day),
  ("ZZ", fun _ => "+0000"), ("Z", fun _ => "+00:00"), ("zz", fun _ => "UTC"), ("A", halfDay),
  ("X", fun m => padded 1 m.seconds),
  ("x", fun m => padded 1 (m.seconds * 1000000 + m.microsecond)),
  ("E", fun m => padded 1 (m.weekday + 1)), ("Q", fun m => padded 1 ((m.month - 1) / 3 + 1)),
  ("dddd", dayName), ("ddd", fun m => short m.dayName), ("d", fun m => padded 1 m.weekday)]

/-- The run at the start of `cs`, if one is there. -/
def run? (cs : List Char) : Option (String × (Moment → String)) :=
  runs.find? fun run => run.1.toList.isPrefixOf cs

/-- The text in the brackets at the start of `cs`, if it is a run, nothing or the mark for the zero
meridian. -/
def bracketed? : List Char → Option (List Char)
  | '[' :: rest =>
    let inside := rest.takeWhile (· != ']')
    let isMeant := inside.isEmpty || inside == "!UTC".toList
      || runs.any fun run => run.1.toList == inside
    if isMeant && inside.length < rest.length then some inside else none
  | _ => none

/-- A format filled in with the parts that runs of letters name. Of `cs`, as many characters are
left out at first as belong to a run or brackets in front of it. -/
def fillRuns (moment : Moment) : (covered : Nat) → List Char → List Char
  | _, [] => []
  | covered + 1, _ :: rest => fillRuns moment covered rest
  | 0, c :: rest =>
    match bracketed? (c :: rest) with
    | some inside => inside ++ fillRuns moment (inside.length + 1) rest
    | none =>
      match run? (c :: rest) with
      | some (run, part) => (part moment).toList ++ fillRuns moment (run.length - 1) rest
      | none => c :: fillRuns moment 0 rest

/-- The part of a moment that a directive names. -/
def directive? (moment : Moment) : Char → Option String
  | 'Y' => some (padded 1 moment.year)
  | 'y' => some (padded 2 (moment.year % 100))
  | 'm' => some (padded 2 moment.month)
  | 'd' => some (padded 2 moment.day)
  | 'j' => some (padded 3 moment.yearDay)
  | 'H' => some (padded 2 moment.hour)
  | 'I' => some (padded 2 moment.dialHour)
  | 'M' => some (padded 2 moment.minute)
  | 'S' => some (padded 2 moment.second)
  | 'f' => some (padded 6 moment.microsecond)
  | 's' => some (padded 1 moment.seconds)
  | 'p' => some moment.halfDay
  | 'A' => some moment.dayName
  | 'a' => some (short moment.dayName)
  | 'B' => some moment.monthName
  | 'b' | 'h' => some (short moment.monthName)
  | 'u' => some (padded 1 (moment.weekday + 1))
  | 'w' => some (padded 1 ((moment.weekday + 1) % 7))
  | 'z' => some "+0000"
  | 'Z' => some "UTC"
  | 'n' => some "\n"
  | 't' => some "\t"
  | '%' => some "%"
  | _ => none

/-- A format filled in with the parts that directives name. Unknown directives stand for
themselves. -/
def fillDirectives (moment : Moment) : List Char → List Char
  | '%' :: c :: rest =>
    match moment.directive? c with
    | some part => part.toList ++ fillDirectives moment rest
    | none => '%' :: c :: fillDirectives moment rest
  | c :: rest => c :: fillDirectives moment rest
  | [] => []

def fileFormat : List Char := "%Y-%m-%d_%H-%M-%S_%f".toList

/-- The format of a moment that is asked for at the zero meridian and not otherwise. -/
def meridianFormat : List Char := "%Y-%m-%dT%H:%M:%S.%f%z".toList

/-- A format without the mark for the zero meridian at its end. -/
def withoutMark (spec : List Char) : List Char :=
  if "!UTC".toList.isSuffixOf spec then
    match spec.take (spec.length - 4) with
    | [] => meridianFormat
    | kept => kept
  else spec

def format (moment : Moment) (spec : List Char) : Except FormatFault (List Char) :=
  let spec := withoutMark (if spec.isEmpty then fileFormat else spec)
  if spec.contains '%' then .ok (moment.fillDirectives spec)
  else if Text.occursIn (List.replicate 7 'S') spec then .error .tooFine
  else .ok (moment.fillRuns 0 spec)

theorem run?_eq_none {c : Char} (rest : List Char)
    (free : ∀ run ∈ runs, run.1.toList.head? ≠ some c) : run? (c :: rest) = none := by
  refine List.find?_eq_none.2 fun run member starts => ?_
  have letters : run.1.toList ≠ [] := by
    have all : ∀ run ∈ runs, run.1.toList ≠ [] := by simp [runs]
    exact all run member
  match run.1.toList, letters, free run member, starts with
  | first :: _, _, free, starts => simp_all

/-- A format that starts no run and no brackets stands for itself. -/
theorem fillRuns_of_free (moment : Moment) (cs : List Char)
    (free : ∀ c ∈ cs, c ≠ '[' ∧ ∀ run ∈ runs, run.1.toList.head? ≠ some c) :
    moment.fillRuns 0 cs = cs := by
  induction cs with
  | nil => rfl
  | cons c rest ih =>
    obtain ⟨opens, starts⟩ := free c (by simp)
    have closed : bracketed? (c :: rest) = none := by
      unfold bracketed?
      split
      · simp_all
      · rfl
    rw [fillRuns, closed, run?_eq_none rest starts, ih fun d inside => free d (by simp [inside])]

end Moment

end DiskFixture.Template
