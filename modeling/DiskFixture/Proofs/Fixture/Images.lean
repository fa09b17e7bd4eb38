import DiskFixture.Fixture
import DiskFixture.Proofs.Disk.Trace
import DiskFixture.Proofs.Files.Joining
import DiskFixture.Proofs.Files.Writing
import DiskFixture.Proofs.PartitionFile.Trace
import DiskFixture.Proofs.Scene
import DiskFixture.Proofs.Text.Hexadecimal
import DiskFixture.Rehearsal.Script

/-!
The images of a test. The factories of a directory name an image by the first digits of an
identifier, in front of a suffix that may be anything without a slash. Main statement: where those
digits differ, all images of a test stand in the directory, each at a place of its own, and neither
an image nor a compressed copy of one is written over another image.
-/

namespace DiskFixture

variable {σ : Type}

namespace Fixture

/-- The first twelve digits of an identifier, which name an image. -/
def key (digits : String) : List Char := digits.toList.take 12

/-- Identifiers are written in thirty-two hexadecimal digits. -/
structure IsIdentifier (digits : String) : Prop where
  length : digits.toList.length = 32
  letters : ∀ c ∈ digits.toList, c ∈ Text.hexLetters

def imageName (digits suffix : String) : String := String.ofList (key digits) ++ suffix

/-- Neither the image at a path nor a compressed copy of it gets in the way of the image at another
path. -/
def KeepsOff (path other : String) : Prop :=
  ∀ output ∈ [path, path ++ ".gz"], FileTree.Apart output other

section Names

variable {directory digits others suffix rest : String}

theorem length_key (identifier : IsIdentifier digits) : (key digits).length = 12 := by
  rw [key, List.length_take, identifier.length]
  rfl

theorem isName_imageName (identifier : IsIdentifier digits) (plain : '/' ∉ suffix.toList) :
    Path.IsName (imageName digits suffix) := by
  have letters : (imageName digits suffix).toList = key digits ++ suffix.toList := by
    simp [imageName]
  apply Path.isName_of_length
  · rw [letters, List.mem_append, not_or]
    refine ⟨fun inside => ?_, plain⟩
    have digit := identifier.letters _ (List.mem_of_mem_take inside)
    revert digit
    decide
  · rw [letters, List.length_append, length_key identifier]
    omega

/-- Keys are of one length, so a name tells where its key ends, whatever the suffix is. -/
theorem key_of_imageName (first : IsIdentifier digits) (second : IsIdentifier others)
    (same : imageName digits suffix = imageName others rest) : key digits = key others := by
  have letters := congrArg String.toList same
  simp only [imageName, String.toList_append, String.toList_ofList] at letters
  have lengths : (key digits).length = (key others).length := by
    rw [length_key first, length_key second]
  exact (List.append_inj letters lengths).1

theorem imagePath_eq (identifier : IsIdentifier digits) (plain : '/' ∉ suffix.toList)
    (directory : String) : imagePath directory digits suffix
      = directory ++ Path.gap directory ++ imageName digits suffix :=
  (isName_imageName identifier plain).join_eq directory

/-- A compressed copy has the path of an image with a longer suffix. -/
theorem imagePath_append (identifier : IsIdentifier digits) (plain : '/' ∉ suffix.toList)
    (directory : String) {ending : String} (slashless : '/' ∉ ending.toList) :
    imagePath directory digits suffix ++ ending = imagePath directory digits (suffix ++ ending) := by
  have longer : '/' ∉ (suffix ++ ending).toList := by
    simp [plain, slashless]
  rw [imagePath_eq identifier plain, imagePath_eq identifier longer]
  simp [imageName, String.append_assoc]

theorem apart_imagePath (first : IsIdentifier digits) (second : IsIdentifier others)
    (different : key digits ≠ key others) (plain : '/' ∉ suffix.toList) (free : '/' ∉ rest.toList)
    (directory : String) :
    FileTree.Apart (imagePath directory digits suffix) (imagePath directory others rest) := by
  apply FileTree.apart_join (isName_imageName first plain) (isName_imageName second free)
  intro same
  exact different (key_of_imageName first second same)

theorem keepsOff_imagePath (first : IsIdentifier digits) (second : IsIdentifier others)
    (different : key digits ≠ key others) (plain : '/' ∉ suffix.toList) (free : '/' ∉ rest.toList)
    (directory : String) :
    KeepsOff (imagePath directory digits suffix) (imagePath directory others rest) := by
  intro output inside
  rcases List.mem_cons.1 inside with rfl | inside
  · exact apart_imagePath first second different plain free directory
  · obtain rfl := List.mem_singleton.1 inside
    have slashless : '/' ∉ ".gz".toList := by decide
    rw [imagePath_append first plain directory slashless]
    apply apart_imagePath first second different _ free directory
    simp [plain]

end Names

end Fixture

namespace Images

/-- What a test asks of the factories of a directory. -/
inductive Order (σ : Type) where
  /-- A path only. -/
  | path (suffix : String)
  | disk (specs : List PartitionSpec)
  | file (filesystem : String) (size : Value) (creator : Option (String → Action σ Unit))
      (wantsArchive : Bool)

namespace Order

def suffix : Order σ → String
  | .path suffix => suffix
  | .disk _ => ".img"
  | .file filesystem _ _ _ => "." ++ filesystem

def Result : Order σ → Type
  | .path _ | .file _ _ _ _ => String
  | .disk _ => LoopDisk

def serve (host : Host σ) (directory : String) : (order : Order σ) → Action σ order.Result
  | .path suffix => Fixture.uniquePath host directory suffix
  | .disk specs => Fixture.buildDisk host directory specs
  | .file filesystem size creator wantsArchive =>
    Fixture.createFile host directory filesystem size creator wantsArchive

/-- What is asked for, at a path that is given. -/
def serveAt (host : Host σ) (path : String) : (order : Order σ) → Action σ order.Result
  | .path _ => (pure path : Action σ String)
  | .disk specs => LoopDisk.build host path specs
  | .file filesystem size creator wantsArchive =>
    PartitionFile.request host (.text path) filesystem size creator wantsArchive

/-- What is got tells where it is: of a compressed copy, where the copy is. -/
def IsAt (path : String) : (order : Order σ) → order.Result → Prop
  | .path _, text => text = path
  | .disk _, built => LoopDisk.path built = path
  | .file _ _ _ wantsArchive, text =>
    text = Path.normalize (if wantsArchive then path ++ ".gz" else path)

theorem isAt_of_serveAt {host : Host σ} {path : String} {order : Order σ} {world : World σ}
    {result : order.Result} (ends : ending (order.serveAt host path) world = .ok result) :
    order.IsAt path result := by
  cases order with
  | path suffix =>
    cases ends
    rfl
  | disk specs => exact (LoopDisk.eq_of_build ends).1
  | file filesystem size creator wantsArchive =>
    exact PartitionFile.eq_of_request host path filesystem size creator wantsArchive world ends

theorem serve_eq (host : Host σ) (directory : String) (order : Order σ) :
    order.serve host directory
      = Fixture.uniquePath host directory order.suffix >>= fun path => order.serveAt host path := by
  cases order <;> rfl

end Order

/-- What a test does. The test goes on when a call fails. -/
inductive Step (σ : Type) where
  | ask (order : Order σ)
  /-- Whatever else happens to the world. -/
  | meanwhile (change : World σ → World σ)

def Step.order? : Step σ → Option (Order σ)
  | .ask order => some order
  | .meanwhile _ => none

def step (host : Host σ) (directory : String) (world : World σ) : Step σ → World σ
  | .ask order => after (order.serve host directory) world
  | .meanwhile change => change world

/-- A call of a factory, told by the world before it. -/
structure Call (σ : Type) where
  world : World σ
  order : Order σ

def call? (world : World σ) (next : Step σ) : Option (Call σ) :=
  next.order?.map fun order => ⟨world, order⟩

def calls (host : Host σ) (directory : String) : World σ → List (Step σ) → List (Call σ)
  | _, [] => []
  | world, next :: rest =>
    (call? world next).toList ++ calls host directory (step host directory world next) rest

namespace Call

def digits (host : Host σ) (call : Call σ) : String := host.identifier (call.world.images + 1)

def path (host : Host σ) (directory : String) (call : Call σ) : String :=
  Fixture.imagePath directory (call.digits host) call.order.suffix

/-- The world in which a call has taken its identifier. -/
def drawn (call : Call σ) : World σ := { call.world with images := call.world.images + 1 }

/-- A call draws one path, that of a name behind the whole directory, and is the same call as one at
this path, whatever comes of it; what it returns is there. -/
structure Serves (host : Host σ) (directory : String) (call : Call σ) : Prop where
  draws : ending (Fixture.uniquePath host directory call.order.suffix) call.world
    = .ok (call.path host directory)
  within : call.path host directory = directory ++ Path.gap directory
    ++ Fixture.imageName (call.digits host) call.order.suffix
  ends : ending (call.order.serve host directory) call.world
    = ending (call.order.serveAt host (call.path host directory)) call.drawn
  leaves : after (call.order.serve host directory) call.world
    = after (call.order.serveAt host (call.path host directory)) call.drawn
  returns : ∀ result, ending (call.order.serve host directory) call.world = .ok result →
    call.order.IsAt (call.path host directory) result

theorem serves (host : Host σ) (directory : String) (call : Call σ)
    (identifier : Fixture.IsIdentifier (call.digits host))
    (plain : '/' ∉ call.order.suffix.toList) : call.Serves host directory := by
  have ends : ending (call.order.serve host directory) call.world
      = ending (call.order.serveAt host (call.path host directory)) call.drawn := by
    rw [Order.serve_eq, ending_bind]
    rfl
  constructor
  · rfl
  · exact Fixture.imagePath_eq identifier plain directory
  · exact ends
  · rw [Order.serve_eq, after_bind]
    rfl
  · intro result returned
    rw [ends] at returned
    exact Order.isAt_of_serveAt returned

end Call

theorem orders_calls (host : Host σ) (directory : String) (test : List (Step σ))
    (world : World σ) :
    (calls host directory world test).map (·.order) = test.filterMap Step.order? := by
  induction test generalizing world with
  | nil => rfl
  | cons next rest ih =>
    cases next with
    | ask order =>
      rw [calls, List.map_append, ih]
      rfl
    | meanwhile change =>
      rw [calls, List.map_append, ih]
      rfl

/-- The images of a test, whatever the test does and whatever comes of its calls. Every call draws a
path within the directory and works at this path. If the identifiers differ in the digits that name
images, the paths differ, and neither an image nor a compressed copy of it is where the image of
another call is. -/
theorem paths_of_test (host : Host σ) (directory : String) (world : World σ)
    (test : List (Step σ))
    (identifiers : ∀ call ∈ calls host directory world test,
      Fixture.IsIdentifier (call.digits host))
    (distinct : ((calls host directory world test).map
      fun call => Fixture.key (call.digits host)).Nodup)
    (plain : ∀ order ∈ test.filterMap Step.order?, '/' ∉ order.suffix.toList) :
    let calls := calls host directory world test
    let paths := calls.map (Call.path host directory)
    calls.map (·.order) = test.filterMap Step.order? ∧
      (∀ call ∈ calls, call.Serves host directory) ∧
      paths.Nodup ∧
      paths.Pairwise fun path other =>
        Fixture.KeepsOff path other ∧ Fixture.KeepsOff other path := by
  intro calls paths
  have orders := orders_calls host directory test world
  have free : ∀ call ∈ calls, '/' ∉ call.order.suffix.toList := by
    intro call inside
    apply plain
    rw [← orders]
    exact List.mem_map_of_mem inside
  have apart : paths.Pairwise fun path other =>
      Fixture.KeepsOff path other ∧ Fixture.KeepsOff other path := by
    rw [List.pairwise_map]
    apply List.Pairwise.imp_of_mem _ (List.pairwise_map.1 distinct)
    intro call later here there different
    have first := identifiers call here
    have second := identifiers later there
    constructor
    · exact Fixture.keepsOff_imagePath first second different (free call here) (free later there)
        directory
    · exact Fixture.keepsOff_imagePath second first different.symm (free later there)
        (free call here) directory
  refine ⟨orders, ?_, ?_, apart⟩
  · intro call inside
    exact call.serves host directory (identifiers call inside) (free call inside)
  · apply apart.imp
    intro path other both
    exact (both.1 path List.mem_cons_self).ne

theorem isIdentifier_identifier (number : Nat) :
    Fixture.IsIdentifier (Rehearsal.Script.identifier number) := by
  constructor
  · simp [Rehearsal.Script.identifier]
  · intro c inside
    rw [Rehearsal.Script.identifier, String.toList_append, String.toList_ofList] at inside
    rcases List.mem_append.1 inside with front | rest
    · exact Text.mem_hexLetters_of_cased (.refl _) c front
    · have fixed : "abcdef0123456789abcdef01".toList.all Text.hexLetters.contains = true := by
        decide
      exact List.contains_iff_mem.1 (List.all_eq_true.1 fixed c rest)

/-- A host that writes images and numbers its identifiers. -/
def numbering : Host Unit := { Host.writing with identifier := Rehearsal.Script.identifier }

/-- Suffixes that are empty, digits or the ending of a compressed copy, among images that are made,
one of them by a creator that takes an identifier as well. -/
def mixed : List (Step Unit) :=
  [.ask (.path ""), .ask (.disk [.data]),
    .ask (.file "gz" (.int 8)
      (some fun _ => do let _ ← Fixture.uniquePath numbering "tmp" ".img") true),
    .meanwhile fun world => { world with files := .empty },
    .ask (.path "0f"), .ask (.path ".gz")]

theorem paths_of_test_mixed :
    let paths := (calls numbering "tmp" .untouched mixed).map (Call.path numbering "tmp")
    paths = ["tmp/00000001abcd", "tmp/00000002abcd.img", "tmp/00000003abcd.gz",
      "tmp/00000005abcd0f", "tmp/00000006abcd.gz"] ∧
      paths.Nodup ∧ Fixture.KeepsOff "tmp/00000001abcd" "tmp/00000006abcd.gz" := by
  -- the creator takes the fourth identifier
  have taken : (calls numbering "tmp" .untouched mixed).map
      (fun call => (call.world.images + 1, call.order.suffix))
      = [(1, ""), (2, ".img"), (3, ".gz"), (5, "0f"), (6, ".gz")] := by
    decide +kernel
  have of_taken {α : Type} (f : Nat → String → α) :
      (calls numbering "tmp" .untouched mixed).map
        (fun call => f (call.world.images + 1) call.order.suffix)
      = [(1, ""), (2, ".img"), (3, ".gz"), (5, "0f"), (6, ".gz")].map fun one => f one.1 one.2 := by
    rw [← taken, List.map_map]
    rfl
  have listed : (calls numbering "tmp" .untouched mixed).map (Call.path numbering "tmp")
      = ["tmp/00000001abcd", "tmp/00000002abcd.img", "tmp/00000003abcd.gz",
        "tmp/00000005abcd0f", "tmp/00000006abcd.gz"] := by
    have paths := of_taken fun number suffix =>
      Fixture.imagePath "tmp" (numbering.identifier number) suffix
    exact paths.trans (by decide +kernel)
  have distinct : ((calls numbering "tmp" .untouched mixed).map
      fun call => Fixture.key (call.digits numbering)).Nodup := by
    have keys := of_taken fun number _ => Fixture.key (numbering.identifier number)
    unfold Call.digits
    rw [keys]
    decide +kernel
  obtain ⟨-, -, different, apart⟩ := paths_of_test numbering "tmp" .untouched mixed
    (fun call _ => isIdentifier_identifier _) distinct (by decide)
  rw [listed] at apart
  obtain ⟨first, -⟩ := List.pairwise_cons.1 apart
  refine ⟨listed, different, ?_⟩
  exact (first "tmp/00000006abcd.gz" (by simp)).1

end Images

end DiskFixture
