import HeaderBindings.Proofs.Document.RoundTrip
import HeaderBindings.Proofs.Json.Slot
import HeaderBindings.Proofs.Platform
import HeaderBindings.Proofs.Text.Trim

/-!
# Platforms named in documents

A document names two platforms, and either name may be missing. The reader of a document trims a
name and looks for the word of an unknown platform before it parses the name, which is then trimmed
and lowered once more. The two ways agree: what a text of a document is read as is what the same
text is parsed as, and only texts that cannot be parsed are read as no platform
(`platform_names_are_normalized`).
-/

namespace HeaderBindings

open HeaderBindings.Json HeaderBindings.Text

namespace Platform

/-- Whether two names differ in the blanks around them and in case at most, or are triples with the
same components, in whatever order and number. -/
def Alike (s t : String) : Prop :=
  asciiLower (trim s) = asciiLower (trim t) ∨
    ('-' ∈ (asciiLower (trim s)).toList ∧ '-' ∈ (asciiLower (trim t)).toList ∧
      ∀ c, c ∈ components (asciiLower (trim s)) ↔ c ∈ components (asciiLower (trim t)))

/-- Whether a text of a document says that a platform is not known. -/
def Unnamed (s : String) : Prop :=
  trim s = "" ∨ asciiLower (trim s) = "unknown"

instance (s : String) : Decidable (Unnamed s) :=
  inferInstanceAs (Decidable (trim s = "" ∨ asciiLower (trim s) = "unknown"))

theorem Alike.ofNormalized?_eq {s t : String} (alike : Alike s t) :
    ofNormalized? (asciiLower (trim s)) = ofNormalized? (asciiLower (trim t)) := by
  rcases alike with same | ⟨dash, otherDash, same⟩
  · rw [same]
  · exact ofNormalized?_congr dash otherDash same

theorem Unnamed.parse_eq {s : String} (unnamed : Unnamed s) :
    parse s = .error (.unknownPlatform s) := by
  rw [parse_eq_error_iff]
  refine ⟨?_, rfl⟩
  rcases unnamed with empty | unknown
  · rw [empty]
    decide
  · rw [unknown]
    decide

/-- The reader's own test for the word of an unknown platform. -/
theorem unnamed_iff (s : String) :
    (trim s == "" || equalIgnoringCase (trim s) "unknown") = true ↔ Unnamed s := by
  have word : asciiLower "unknown" = "unknown" := by decide
  rw [Bool.or_eq_true, beq_iff_eq, equalIgnoringCase, beq_iff_eq, word, Unnamed]

theorem ofDocumentText_of_unnamed {s : String} (unnamed : Unnamed s) :
    ofDocumentText s = .ok none :=
  if_pos ((unnamed_iff s).2 unnamed)

/-- A name in a document is parsed without the blanks around it, which parsing takes away anyway. -/
theorem ofDocumentText_of_named {s : String} (named : ¬ Unnamed s) :
    ofDocumentText s = match ofNormalized? (asciiLower (trim s)) with
      | some p => .ok (some p)
      | none => .error (.unknownPlatform (trim s)) := by
  rw [ofDocumentText, if_neg fun said => named ((unnamed_iff s).1 said), parse, trim_trim]
  cases ofNormalized? (asciiLower (trim s)) with
  | none => rfl
  | some p => rfl

theorem decodeOptional_literal {l : Literal} {s : String} (spelt : literalText l = .ok s) :
    decodeOptional (.literal l) =
      (ofDocumentText s).mapError fun e => .refused e.report := by
  simp only [decodeOptional, Json.optional, Json.string, spelt, Except.map, Bind.bind, Except.bind]
  cases ofDocumentText s with
  | error e => rfl
  | ok p => rfl

end Platform

/-- Where a document names a platform. -/
inductive PlatformPlace where
  | requested
  | actual

namespace PlatformPlace

/-- The key of the place in an object. -/
def key : PlatformPlace → String
  | requested => "platformRequested"
  | actual => "platformActual"

/-- The position of the place in an array. -/
def position : PlatformPlace → Nat
  | requested => 1
  | actual => 2

/-- A document with another platform at the place. -/
def put : PlatformPlace → Document → Option Platform → Document
  | requested, d, p => { d with platformRequested := p }
  | actual, d, p => { d with platformActual := p }

/-- The field of the place. -/
def field (place : PlatformPlace) : Json.Field Document :=
  .defaulted place.key Platform.decodeOptional place.put

/-- Whether two texts are the same document but for one place, where the first has null and the
second has a string. Layout, escapes and the order of the members are free. -/
def NamedIn (place : PlatformPlace) (s blank named : String) : Prop :=
  ∃ slot l, Slot place.key place.position slot ∧ literalText l = .ok s ∧
    Reading.ofText blank = ⟨slot .null, .complete⟩ ∧
    Reading.ofText named = ⟨slot (.literal l), .complete⟩

variable (place : PlatformPlace)

theorem fields_position : Document.shape.fields[place.position]? = some place.field := by
  cases place <;> rfl

/-- A field that is put into a record by another function than the place commutes with it. -/
theorem read_put {α : Type} {decode : Decoder α} {set : Document → α → Document}
    (apart : ∀ d p a, set (place.put d p) a = place.put (set d a) p) (name : String) (v : Json.Value)
    (d : Document) (p : Option Platform) :
    (Json.Field.defaulted name decode set).read v (place.put d p) =
      ((Json.Field.defaulted name decode set).read v d).map fun next => place.put next p := by
  simp only [Json.Field.defaulted, Json.Field.of]
  cases decode v with
  | error e => rfl
  | ok a => exact congrArg Except.ok (apart d p a)

/-- No other field of a document touches the place. -/
theorem sets_field : Document.shape.Sets place.field Platform.decodeOptional place.put where
  distinct := by decide
  listed := List.mem_of_getElem? place.fields_position
  reads _ _ := rfl
  overwrites _ _ _ := by cases place <;> rfl
  apart := by
    unfold Document.shape
    simp only [List.forall_mem_cons]
    cases place with
    | requested =>
      refine ⟨?_, fun other => absurd rfl other, ?_, ?_, ?_, ?_, ?_, nofun⟩
      all_goals exact fun _ => read_put _ (fun _ _ _ => rfl) _
    | actual =>
      refine ⟨?_, ?_, fun other => absurd rfl other, ?_, ?_, ?_, ?_, nofun⟩
      all_goals exact fun _ => read_put _ (fun _ _ _ => rfl) _

theorem validate_put (d : Document) (p : Option Platform) :
    (place.put d p).validate = d.validate := by
  cases place <;> rfl

theorem put_inj {d : Document} {p q : Option Platform} : place.put d p = place.put d q ↔ p = q := by
  cases place <;> simp [put]

section Named

variable {place : PlatformPlace} {s blank named : String} (same : place.NamedIn s blank named)
  {d : Document}
include same

/-- Decoding the document with a string at the place: the rest is that of the document with null. -/
theorem decode_named (read : Document.decode blank = .ok d) : Document.decode named =
    ((Platform.ofDocumentText s).mapError fun e => .refused e.report).map (place.put d) := by
  obtain ⟨slot, l, gap, spelt, blankReading, namedReading⟩ := same
  rw [Document.decode, decodeText_of_reading _ blankReading] at read
  rw [Document.decode, decodeText_of_reading _ namedReading,
    ← Platform.decodeOptional_literal spelt]
  exact place.sets_field.decode_slot place.fields_position gap read (.literal l)

/-- Validation does not look at the place. -/
theorem parse_named (read : Document.parse blank = .ok d) :
    Document.parse named = match Platform.ofDocumentText s with
      | .ok p => .ok (place.put d p)
      | .error e => .error (Document.undecodable (.refused e.report)) := by
  obtain ⟨decoded, valid⟩ := (Document.parse_eq_ok_iff blank d).1 read
  unfold Document.parse
  rw [decode_named same decoded]
  cases Platform.ofDocumentText s with
  | error e => rfl
  | ok p =>
    change (place.put d p).validate.map (fun _ => place.put d p) = _
    rw [place.validate_put, valid]
    rfl

end Named

end PlatformPlace

/-- Two names that are alike are parsed as the same platform or both refused, and a name that is
refused is reported as it was given. A text at the place of a platform in a document is read as no
platform exactly if it is blank or the word for an unknown platform, neither of which can be parsed;
every other text is read as the platform that it is parsed as, and refused exactly if it cannot be
parsed. -/
theorem platform_names_are_normalized :
    (∀ s t, Platform.Alike s t →
      (∃ p, Platform.parse s = .ok p ∧ Platform.parse t = .ok p) ∨
      (∃ e f, Platform.parse s = .error e ∧ Platform.parse t = .error f)) ∧
    (∀ s e, Platform.parse s = .error e → e = .unknownPlatform s) ∧
    (∀ s, Platform.Unnamed s → ∃ e, Platform.parse s = .error e) ∧
    ∀ (place : PlatformPlace) (s blank named : String) (d : Document),
      place.NamedIn s blank named → Document.parse blank = .ok d →
        (Document.parse named = .ok (place.put d none) ↔ Platform.Unnamed s) ∧
        (¬ Platform.Unnamed s →
          (∀ p, Document.parse named = .ok (place.put d (some p)) ↔ Platform.parse s = .ok p) ∧
          ((∃ e, Document.parse named = .error e) ↔ ∃ e, Platform.parse s = .error e)) := by
  refine ⟨fun s t alike => ?_, fun s e refused => ((Platform.parse_eq_error_iff s e).1 refused).2,
    fun s unnamed => ⟨_, unnamed.parse_eq⟩, fun place s blank named d same read => ?_⟩
  · have agreed := alike.ofNormalized?_eq
    cases found : Platform.ofNormalized? (asciiLower (trim s)) with
    | none =>
      rw [found] at agreed
      exact .inr ⟨_, _, (Platform.parse_eq_error_iff s _).2 ⟨found, rfl⟩,
        (Platform.parse_eq_error_iff t _).2 ⟨agreed.symm, rfl⟩⟩
    | some p =>
      rw [found] at agreed
      exact .inl ⟨p, (Platform.parse_eq_ok_iff s p).2 found,
        (Platform.parse_eq_ok_iff t p).2 agreed.symm⟩
  · have reading := PlatformPlace.parse_named same read
    by_cases unnamed : Platform.Unnamed s
    · rw [Platform.ofDocumentText_of_unnamed unnamed] at reading
      exact ⟨iff_of_true reading unnamed, fun named => absurd unnamed named⟩
    · rw [Platform.ofDocumentText_of_named unnamed] at reading
      simp only [Platform.parse_eq_ok_iff, Platform.parse_eq_error_iff]
      cases found : Platform.ofNormalized? (asciiLower (trim s)) with
      | none =>
        rw [found] at reading
        simp [reading, unnamed]
      | some p =>
        rw [found] at reading
        simp [reading, unnamed, place.put_inj]

/-- A document without declarations, with a value at the place of the requested platform. -/
def Document.requesting (v : Json.Value) : Json.Value :=
  .object [member "platformActual" .null, member "platformRequested" v]

theorem Document.plain_requesting {v : Json.Value} (plain : v.Plain) :
    (Document.requesting v).Plain := by
  refine .ofMembers ?_
  simp only [List.forall_mem_cons]
  exact ⟨plain_member .null, plain_member plain, nofun⟩

theorem PlatformPlace.namedIn_requesting (s : String) : PlatformPlace.requested.NamedIn s
    (Document.requesting .null).pretty (Document.requesting (.ofString s)).pretty := by
  refine ⟨Document.requesting, .encode s, ?_, literalText_encode s,
    ofText_pretty (Document.plain_requesting .null),
    ofText_pretty (Document.plain_requesting (.ofString s))⟩
  exact .member [member "platformActual" .null] [] (.encode "platformRequested")
    (literalText_encode _)

theorem Document.parse_requesting_null :
    Document.parse (Document.requesting .null).pretty = .ok Document.empty := by
  rw [Document.parse, Document.decode, decodeText_pretty _ (Document.plain_requesting .null)]
  rfl

/-- A triple with blanks around it, with its components in another order and one of them twice, is
the same name and read as the same platform; the word for an unknown platform is read as none, and
any other word is refused. -/
theorem platform_names_are_normalized_samples :
    Platform.Alike "\u00a0GNU-Linux-x86_64-linux " "x86_64-linux-gnu" ∧
    (∃ p, Platform.parse "\u00a0GNU-Linux-x86_64-linux " = .ok p ∧
      Platform.parse "x86_64-linux-gnu" = .ok p) ∧
    Document.parse (Document.requesting (.ofString "\u00a0GNU-Linux-x86_64-linux ")).pretty =
      .ok { Document.empty with platformRequested := some .linux } ∧
    Document.parse (Document.requesting (.ofString " UnKnown\t")).pretty = .ok Document.empty ∧
    ∃ e, Document.parse (Document.requesting (.ofString "beos")).pretty = .error e := by
  obtain ⟨parsing, -, -, reading⟩ := platform_names_are_normalized
  have same : Platform.Alike "\u00a0GNU-Linux-x86_64-linux " "x86_64-linux-gnu" := by
    have first : Platform.components (asciiLower (trim "\u00a0GNU-Linux-x86_64-linux ")) =
        ["gnu", "linux", "x86_64", "linux"] := by decide
    have second : Platform.components (asciiLower (trim "x86_64-linux-gnu")) =
        ["x86_64", "linux", "gnu"] := by decide
    refine .inr ⟨by decide, by decide, fun c => ?_⟩
    calc
      c ∈ Platform.components (asciiLower (trim "\u00a0GNU-Linux-x86_64-linux "))
          ↔ c ∈ ["gnu", "linux", "x86_64", "linux"] := by rw [first]
      _ ↔ c ∈ ["x86_64", "linux", "gnu"] := by
        simp only [List.mem_cons, List.not_mem_nil]
        tauto
      _ ↔ c ∈ Platform.components (asciiLower (trim "x86_64-linux-gnu")) := by rw [second]
  have document := fun s =>
    reading .requested s _ _ _ (PlatformPlace.namedIn_requesting s) Document.parse_requesting_null
  have linux : Platform.parse "\u00a0GNU-Linux-x86_64-linux " = .ok .linux := by decide
  refine ⟨same, ?_, ?_, ?_, ?_⟩
  · refine (parsing _ _ same).resolve_right ?_
    intro ⟨e, _, refused, _⟩
    rw [linux] at refused
    cases refused
  · exact (((document _).2 (by decide)).1 .linux).2 linux
  · exact (document _).1.2 (.inr (by decide))
  · exact ((document _).2 (by decide)).2.2 ⟨.unknownPlatform "beos", by decide⟩

end HeaderBindings
