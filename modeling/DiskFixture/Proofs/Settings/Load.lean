import DiskFixture.Proofs.Scene
import DiskFixture.Proofs.Text.Utf8
import DiskFixture.Proofs.Value.Json
import DiskFixture.Settings

/-!
Loading the settings. Main statement: whatever was set before, a load leaves the defaults in force
unless the file holds the UTF-8 text of an object, which is then laid over them; and it ends in a
fault only where the name of the file is too long, the bytes are no UTF-8, or reading the text meets
an integer that is too long or a list or object that is too deep.
-/

namespace DiskFixture.Settings

section Content

variable {content : ByteArray} {text : String}

theorem ofContent_eq (encodes : text.toUTF8 = content) : ofContent content =
    match Json.read text with
    | .error (.tooLong digits) => .error (.tooManyDigits digits)
    | .error (.tooDeep inList) => .error (.tooDeep inList)
    | .error .malformed => .ok defaults
    | .ok (.object entries) => .ok (Fields.overlay defaults entries)
    | .ok _ => .ok defaults := by
  have decodes := Text.Utf8.decode_eq_ok_iff.2 encodes
  unfold ofContent
  split
  · next undecodable =>
    rw [decodes] at undecodable
    cases undecodable
  · next decoded =>
    rw [decodes] at decoded
    cases decoded
    rfl

theorem ofContent_of_object {entries : Fields} (encodes : text.toUTF8 = content)
    (object : Json.read text = .ok (.object entries)) :
    ofContent content = .ok (Fields.overlay defaults entries) := by
  rw [ofContent_eq encodes, object]

theorem ofContent_undecodable (undecodable : ∀ text : String, text.toUTF8 ≠ content) :
    ∃ fault, ofContent content = .error (.undecodable fault) := by
  obtain ⟨fault, decodes⟩ := Text.Utf8.exists_decode_eq_error_iff.2 undecodable
  exact ⟨fault, by rw [ofContent, decodes]⟩

/-- What is no object changes nothing, whether it can be read or not. -/
theorem eq_defaults_of_ofContent
    (none : ∀ (text : String) (entries : Fields), text.toUTF8 = content →
      Json.read text ≠ .ok (.object entries)) {settings : Fields}
    (reads : ofContent content = .ok settings) : settings = defaults := by
  unfold ofContent at reads
  split at reads
  · cases reads
  next text decodes =>
  have encodes := Text.Utf8.decode_eq_ok_iff.1 decodes
  split at reads
  · cases reads
  · cases reads
  · exact (Except.ok.inj reads).symm
  · next entries object => exact absurd object (none text entries encodes)
  · exact (Except.ok.inj reads).symm

theorem isOk_ofContent_iff : (ofContent content).isOk = true ↔
    ∃ text : String, text.toUTF8 = content ∧
      ∀ fault, Json.read text = .error fault → fault = .malformed := by
  constructor
  · intro good
    unfold ofContent at good
    split at good
    · cases good
    next text decodes =>
    refine ⟨text, Text.Utf8.decode_eq_ok_iff.1 decodes, ?_⟩
    intro fault fails
    rw [fails] at good
    cases fault with
    | malformed => rfl
    | tooLong digits => cases good
    | tooDeep inList => cases good
  · rintro ⟨text, encodes, malformed⟩
    rw [ofContent_eq encodes]
    cases read : Json.read text with
    | error fault =>
      rw [malformed fault read]
      rfl
    | ok value => cases value <;> rfl

end Content

section Load

variable {σ : Type} (path : String) (world : World σ)

theorem ending_load : ending (load path) world =
    match world.files.read path with
    | .error fault => if fault.isOf .nameTooLong then .error (.ofCall fault) else .ok ()
    | .ok content => ((ofContent content).mapError .ofMisuse).map fun _ => () := by
  rw [load, ending_bind, ending_modify, ending_bind, ending_get]
  simp only [after_modify, after_get]
  cases world.files.read path with
  | error fault => cases slow : fault.isOf .nameTooLong <;> simp [slow]
  | ok content => cases fields : ofContent content <;> simp [ending_bind, fields, Except.map]

theorem after_load : after (load path) world =
    match world.files.read path with
    | .error _ => { world with settings := defaults }
    | .ok content =>
      { world with settings := match ofContent content with
          | .ok settings => settings
          | .error _ => defaults } := by
  rw [load, after_bind, ending_modify, after_bind, ending_get]
  simp only [after_modify, after_get]
  cases world.files.read path with
  | error fault => cases slow : fault.isOf .nameTooLong <;> simp [slow]
  | ok content => cases fields : ofContent content <;> simp [after_bind, fields]

/-- What a load leaves in force, and when it ends in a fault. -/
theorem load_outcome :
    after (load path) world = { world with settings := (after (load path) world).settings } ∧
    (∀ fault, world.files.read path = .error fault →
      (after (load path) world).settings = defaults ∧
      ending (load path) world =
        if fault.isOf .nameTooLong then .error (.ofCall fault) else .ok ()) ∧
    ∀ content, world.files.read path = .ok content →
      ((∀ (text : String) (entries : Fields), text.toUTF8 = content →
          Json.read text ≠ .ok (.object entries)) →
        (after (load path) world).settings = defaults) ∧
      (∀ (text : String) (entries : Fields), text.toUTF8 = content →
        Json.read text = .ok (.object entries) →
        ending (load path) world = .ok () ∧
          (after (load path) world).settings = Fields.overlay defaults entries) ∧
      (ending (load path) world = .ok () ↔ ∃ text : String, text.toUTF8 = content ∧
        ∀ fault, Json.read text = .error fault → fault = .malformed) ∧
      (∀ text : String, text.toUTF8 = content → Json.IsModest text →
        ending (load path) world = .ok ()) ∧
      ((∀ text : String, text.toUTF8 ≠ content) → ∃ fault,
        ending (load path) world = .error (.ofMisuse (.undecodable fault))) := by
  have left := after_load path world
  have ends := ending_load path world
  refine ⟨?_, ?_, ?_⟩
  · rw [left]
    cases world.files.read path <;> rfl
  · intro fault reads
    rw [reads] at left ends
    exact ⟨congrArg World.settings left, ends⟩
  intro content reads
  rw [reads] at left ends
  dsimp only at left ends
  have returns : ending (load path) world = .ok () ↔ (ofContent content).isOk = true := by
    rw [ends]
    cases ofContent content <;> simp [Except.map, Except.isOk, Except.toBool]
  refine ⟨?_, ?_, ?_, ?_, ?_⟩
  · intro none
    rw [left]
    cases found : ofContent content with
    | error misuse => rfl
    | ok settings => exact eq_defaults_of_ofContent none found
  · intro text entries encodes object
    have found := ofContent_of_object encodes object
    rw [left, returns, found]
    exact ⟨rfl, rfl⟩
  · rw [returns, isOk_ofContent_iff]
  · intro text encodes modest
    exact returns.2 (isOk_ofContent_iff.2
      ⟨text, encodes, fun _ => Json.eq_malformed_of_isModest modest⟩)
  · intro undecodable
    obtain ⟨fault, found⟩ := ofContent_undecodable undecodable
    exact ⟨fault, by rw [ends, found]; rfl⟩

end Load

theorem read_holding_settings (content : ByteArray) :
    (World.holding [("settings.json", content)]).files.read "settings.json" = .ok content := rfl

/-- Whether a text was read as an object with a single integer. -/
def holdsOnly (key : String) (number : Int) : Except Json.Fault Value → Bool
  | .ok (.object [(name, .int held)]) => name == key && held == number
  | _ => false

theorem eq_of_holdsOnly {key : String} {number : Int} {reading : Except Json.Fault Value}
    (holds : holdsOnly key number reading = true) :
    reading = .ok (.object [(key, .int number)]) := by
  unfold holdsOnly at holds
  split at holds
  · simpa using holds
  · cases holds

theorem load_outcome_object :
    let world : World Unit :=
      .holding [("settings.json", "\x7b\"io_buffer_size\": 4096\x7d".toUTF8)]
    ending (load "settings.json") world = .ok () ∧
      (after (load "settings.json") world).settings
        = Fields.overlay defaults [("io_buffer_size", .int 4096)] := by
  intro world
  have object : Json.read "\x7b\"io_buffer_size\": 4096\x7d"
      = .ok (.object [("io_buffer_size", .int 4096)]) := eq_of_holdsOnly (by decide +kernel)
  obtain ⟨-, -, reads⟩ := load_outcome "settings.json" world
  obtain ⟨-, reads, -⟩ := reads _ (read_holding_settings _)
  exact reads _ _ rfl object

/-- A byte that starts no character stops the load. -/
theorem load_undecodable : (match ending (load "settings.json")
      (.holding [("settings.json", ⟨#[0xFF]⟩)]) with
    | .ok _ => ""
    | .error fault => fault.kind) = "UnicodeDecodeError" := by
  decide +kernel

end DiskFixture.Settings
