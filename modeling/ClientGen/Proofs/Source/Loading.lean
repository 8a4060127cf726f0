import ClientGen.Proofs.Disk.AtomicWrite
import ClientGen.Proofs.Json.Numerals
import ClientGen.Proofs.Text.Utf8
import ClientGen.Source

/-!
How loading can end. A source that can be read yields a mapping or a report on the document, or else a failure of
another kind gets out (`load_disciplined_iff`): the bytes of a file encode no text, JSON has a whole number that is too
long to convert, or YAML has a value that cannot be built.
-/

namespace ClientGen

/-- How loading should end: with a mapping, or with a report on why there is none. -/
inductive Document.Disciplined : Except Fault Document → Prop
  | mapping {d : Document} (isMap : (d.store.shape d.root).isMap = true) : Disciplined (.ok d)
  | reported (cause : LoadFault) : Disciplined (.error (.load cause))

/-- A text of a format makes reading fail with another kind of failure than a report on the document. -/
inductive Document.Breaks (text : String) : Format → FaultKind → Prop
  | numeral {format : Format} {count : Nat} (tried : format ≠ .yaml)
    (long : Json.parse text = .error (.tooManyDigits count)) : Breaks text format .badValue
  | yaml {fault : ValueFault} (unusable : Yaml.load text = .error (.unusable fault)) :
    Breaks text .yaml fault.toFault.kind
  | fallback {problem : JsonFault} {fault : ValueFault} (noJson : Json.parse text = .error (.malformed problem))
    (unusable : Yaml.load text = .error (.unusable fault)) : Breaks text .unknown fault.toFault.kind

namespace Source

/-- A source that can be read: the input, an address that answers with success, or the path of a file. -/
inductive Readable (around : Surroundings) (source : String) : Prop
  | input (isInput : source = "-")
  | address {status : Int} {contentType : Option String} {text : String} (isAddress : isAddress source = true)
    (answers : around.fetch source = .response status contentType text) (success : isSuccess status = true)
  | file {bytes : List UInt8} (noInput : source ≠ "-") (noAddress : isAddress source = false)
    (isFile : around.disk.find? (around.disk.parsePath source) = some (.file bytes))

/-- A source makes loading fail with another kind of failure than a report on the document. -/
inductive Escape (around : Surroundings) (source : String) : FaultKind → Prop
  | encoding {bytes : List UInt8} (noInput : source ≠ "-") (noAddress : isAddress source = false)
    (isFile : around.disk.find? (around.disk.parsePath source) = some (.file bytes))
    (stray : ∀ text, bytes ≠ Text.encode text) : Escape around source .badEncoding
  | content {text : String} {format : Format} {kind : FaultKind} (found : read around source = .ok (text, format))
    (breaks : Document.Breaks text format kind) : Escape around source kind

end Source

/-- The failures of building a value are none of the program's own. -/
theorem ValueFault.isOwn_toFault (fault : ValueFault) : fault.toFault.kind.isOwn = false := by
  cases fault <;> rfl

namespace Document

/-! ### Texts -/

theorem Disciplined.isOwn {fault : Fault} (disciplined : Disciplined (.error fault)) : fault.kind.isOwn = true := by
  cases disciplined
  rfl

theorem requireMapping_disciplined (d : Document) : Disciplined d.requireMapping := by
  unfold requireMapping
  dsimp only
  split
  · rename_i isMap
    exact .mapping isMap
  · exact .reported _

variable {text : String} {format : Format} {kind : FaultKind}

theorem ofYaml_disciplined (json : Option JsonFault)
    (usable : ∀ fault, Yaml.load text ≠ .error (.unusable fault)) : Disciplined (ofYaml json text) := by
  unfold ofYaml
  split
  · exact requireMapping_disciplined _
  · exact .reported _
  · rename_i fault refused
    exact absurd refused (usable fault)

theorem ofText_disciplined (unbroken : ∀ kind, ¬ Breaks text format kind) : Disciplined (ofText text format) := by
  unfold ofText
  split
  · rename_i isYaml
    subst isYaml
    exact ofYaml_disciplined none fun fault unusable => unbroken _ (.yaml unusable)
  · rename_i tried
    split
    · exact requireMapping_disciplined _
    · rename_i problem noJson
      split
      · exact .reported _
      · rename_i notJson
        have isUnknown : format = .unknown := by cases format <;> simp_all
        subst isUnknown
        exact ofYaml_disciplined _ fun fault unusable => unbroken _ (.fallback noJson unusable)
    · rename_i count long
      exact absurd (.numeral tried long) (unbroken .badValue)

/-- What breaks reading is how reading ends, and the failure is none of the program's own. -/
theorem Breaks.outcome (breaks : Breaks text format kind) :
    kind.isOwn = false ∧ ∃ fault, ofText text format = .error fault ∧ fault.kind = kind := by
  cases breaks with
  | @numeral _ count tried long =>
    refine ⟨rfl, .raised .badValue (Json.digitLimitText count), ?_, rfl⟩
    rw [ofText, if_neg tried, long]
  | @yaml fault unusable =>
    refine ⟨fault.isOwn_toFault, fault.toFault, ?_, rfl⟩
    rw [ofText, if_pos rfl, ofYaml, unusable]
  | @fallback problem fault noJson unusable =>
    refine ⟨fault.isOwn_toFault, fault.toFault, ?_, rfl⟩
    rw [ofText, if_neg (by decide), noJson]
    dsimp only
    rw [if_neg (by decide), ofYaml, unusable]

end Document

namespace Source

variable {around : Surroundings} {source : String} {kind : FaultKind}

/-! ### Sources -/

theorem decodeFile_of_stray {bytes : List UInt8} (stray : ∀ text, bytes ≠ Text.encode text) :
    ∃ message, decodeFile bytes = .error (.raised .badEncoding message) := by
  obtain ⟨fault, refused⟩ := Text.decode_refuses_iff.mpr stray
  exact ⟨fault.message, by rw [decodeFile, refused]⟩

theorem decodeFile_encode (text : String) :
    decodeFile (Text.encode text) = .ok (String.ofList (Text.unifyLineBreaks text.toList)) := by
  have encoded : Text.decode (Text.encode text) = .ok text.toList :=
    Text.decode_eq_ok_iff.mpr (by rw [String.ofList_toList])
  rw [decodeFile, encoded]

/-- A file is read by decoding its bytes, and must not be blank. -/
theorem readFile_of_isFile {disk : Disk} {name : String} {bytes : List UInt8}
    (isFile : disk.find? (disk.parsePath name) = some (.file bytes)) :
    readFile disk name = (decodeFile bytes >>= fun text =>
      if isBlankText text then .error (.load (.empty name))
      else .ok (text, formatOfSuffix (disk.parsePath name).suffix)) := by
  obtain ⟨place, found, there⟩ := Disk.find?_eq_some.mp isFile
  rw [readFile, found]
  simp only [there, pure_bind]
  cases decodeFile bytes with
  | error fault => rfl
  | ok text =>
    dsimp only [Bind.bind, Except.bind]
    split
    · rfl
    · rfl

theorem read_of_readable (readable : Readable around source) :
    (∃ text format, read around source = .ok (text, format)) ∨ (∃ cause, read around source = .error (.load cause)) ∨
      Escape around source .badEncoding := by
  cases readable with
  | input isInput =>
    rw [read, if_pos isInput, readInput]
    split
    · exact .inr (.inl ⟨_, rfl⟩)
    · exact .inl ⟨_, _, rfl⟩
  | @address status contentType text isAddress answers success =>
    have noInput : source ≠ "-" := by
      rintro rfl
      exact absurd isAddress (by decide)
    rw [read, if_neg noInput, if_pos isAddress, answers, readReply, if_pos success]
    exact .inl ⟨_, _, rfl⟩
  | @file bytes noInput noAddress isFile =>
    by_cases stray : ∀ text, bytes ≠ Text.encode text
    · exact .inr (.inr (.encoding noInput noAddress isFile stray))
    · simp only [ne_eq, not_forall, not_not] at stray
      obtain ⟨text, rfl⟩ := stray
      rw [read, if_neg noInput, noAddress, if_neg Bool.false_ne_true, readFile_of_isFile isFile, decodeFile_encode]
      dsimp only [Bind.bind, Except.bind]
      split
      · exact .inr (.inl ⟨_, rfl⟩)
      · exact .inl ⟨_, _, rfl⟩

/-- Loading is reading a source and then its text. -/
theorem load_outcome (around : Surroundings) (source : String) (log : List LogRecord) :
    ((load around source).run.run log).1 =
      (read around source >>= fun found => Document.ofText found.1 found.2) := by
  unfold load
  cases read around source with
  | error fault => rfl
  | ok found =>
    obtain ⟨text, format⟩ := found
    show (StateT.run (ExceptT.run (lift (Document.ofText text format) : Logged Document)) _).1 =
      Document.ofText text format
    cases Document.ofText text format <;> rfl

theorem Escape.outcome (escape : Escape around source kind) (log : List LogRecord) :
    kind.isOwn = false ∧ ∃ fault, ((load around source).run.run log).1 = .error fault ∧ fault.kind = kind := by
  rw [load_outcome]
  cases escape with
  | @encoding bytes noInput noAddress isFile stray =>
    obtain ⟨message, refused⟩ := decodeFile_of_stray stray
    refine ⟨rfl, .raised .badEncoding message, ?_, rfl⟩
    rw [read, if_neg noInput, noAddress, if_neg Bool.false_ne_true, readFile_of_isFile isFile, refused]
    rfl
  | content found breaks =>
    rw [found]
    exact breaks.outcome

/-- Loading a source that can be read ends with a mapping or with a report on the document, unless something of the
source makes it fail otherwise; then this failure gets out, and it is none of the program's own. -/
theorem load_disciplined_iff (readable : Readable around source) (log : List LogRecord) :
    (Document.Disciplined ((load around source).run.run log).1 ↔ ∀ kind, ¬ Escape around source kind) ∧
      ∀ kind, Escape around source kind →
        kind.isOwn = false ∧ ∃ fault, ((load around source).run.run log).1 = .error fault ∧ fault.kind = kind := by
  refine ⟨⟨fun disciplined kind escape => ?_, fun contained => ?_⟩, fun kind escape => escape.outcome log⟩
  · obtain ⟨foreign, fault, fails, rfl⟩ := escape.outcome log
    rw [fails] at disciplined
    exact absurd disciplined.isOwn (by rw [foreign]; exact Bool.false_ne_true)
  · rw [load_outcome]
    obtain ⟨text, format, found⟩ | ⟨cause, refused⟩ | stray := read_of_readable readable
    · rw [found]
      exact Document.ofText_disciplined fun kind breaks => contained kind (.content found breaks)
    · rw [refused]
      exact .reported cause
    · exact absurd stray (contained .badEncoding)

/-- A file of one byte that begins no character. -/
def strayFile : Surroundings := { disk := { entries := [(["s.json"], .file [0xff])] } }

private theorem strayFile_isFile : strayFile.disk.find? (strayFile.disk.parsePath "s.json") = some (.file [0xff]) := by
  decide

theorem load_disciplined_stray_file :
    Readable strayFile "s.json" ∧
      (Document.Disciplined ((load strayFile "s.json").run.run []).1 ↔ ∀ kind, ¬ Escape strayFile "s.json" kind) ∧
      ∀ kind, Escape strayFile "s.json" kind →
        kind.isOwn = false ∧ ∃ fault, ((load strayFile "s.json").run.run []).1 = .error fault ∧ fault.kind = kind :=
  have readable : Readable strayFile "s.json" := .file (by decide) (by decide) strayFile_isFile
  ⟨readable, load_disciplined_iff readable []⟩

/-- Not every source that can be read is loaded or reported. -/
theorem stray_byte_escapes :
    ¬ ∀ (around : Surroundings) (source : String) (log : List LogRecord), Readable around source →
      Document.Disciplined ((load around source).run.run log).1 := by
  intro always
  have stray : ∀ text, ([0xff] : List UInt8) ≠ Text.encode text := Text.decode_refuses_iff.mp ⟨_, rfl⟩
  have escape : Escape strayFile "s.json" .badEncoding := .encoding (by decide) (by decide) strayFile_isFile stray
  obtain ⟨-, fault, fails, kind⟩ := escape.outcome []
  have disciplined := always strayFile "s.json" [] (.file (by decide) (by decide) strayFile_isFile)
  rw [fails] at disciplined
  exact absurd disciplined.isOwn (by rw [kind]; decide)

/-- A text that is said to be JSON is loaded or reported if it has no run of digits that is too long to convert. -/
theorem load_json_disciplined {text : String} (found : read around source = .ok (text, .json))
    (short : ∀ count, ¬ Json.HasLongRun text.toList count) (log : List LogRecord) :
    Document.Disciplined ((load around source).run.run log).1 := by
  rw [load_outcome, found]
  show Document.Disciplined (Document.ofText text .json)
  refine Document.ofText_disciplined fun kind breaks => ?_
  cases breaks with
  | numeral tried long => exact short _ (Json.parse_tooManyDigits long)

end Source

end ClientGen
