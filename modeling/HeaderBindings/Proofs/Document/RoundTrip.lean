import HeaderBindings.Document.Codec
import HeaderBindings.Proofs.Json.Decoding
import HeaderBindings.Proofs.Json.Reading

/-!
# Documents read back from their text

The text of a document is decoded to the very document, whatever names, texts, sizes and
values it holds; reading it fails only if the document itself is not valid, and then with
the error of its validation (`Document.parse_render`).

For every part of a document there are two facts: its JSON is plain, so the text of the
whole reads back as that JSON, and its decoder inverts its JSON. The text of a shared
document is read back for the same reasons (`SharedDocument.parse_render_self`), and nothing
is validated then.
-/

namespace HeaderBindings

open HeaderBindings.Json

section Parts

variable {α : Type}

/-- Decoding a text that is JSON to its end is decoding that JSON. -/
theorem decodeText_of_reading (decode : Decoder α) {text : String} {v : Json.Value}
    (whole : Reading.ofText text = ⟨v, .complete⟩) : decodeText decode text = decode v := by
  rw [decodeText, whole]
  cases decode v <;> rfl

/-- Decoding a well formed text is decoding its value. -/
theorem decodeText_of_parse? (decode : Decoder α) {text : String} {v : Json.Value}
    (parsed : Value.parse? text = some v) : decodeText decode text = decode v := by
  unfold Value.parse? at parsed
  split at parsed
  · rename_i value reading
    cases Option.some.inj parsed
    exact decodeText_of_reading decode reading
  · cases parsed

theorem decodeText_pretty (decode : Decoder α) {v : Json.Value} (plain : v.Plain) :
    decodeText decode v.pretty = decode v :=
  decodeText_of_reading decode (ofText_pretty plain)

theorem plain_of_optionalMember {key : String} {json : α → Json.Value}
    (plain : ∀ a, (json a).Plain) (value : Option α) :
    ∀ m ∈ optionalMember key json value, m.Plain := by
  cases value with
  | none => exact fun m none => absurd none List.not_mem_nil
  | some a => exact fun m single => List.mem_singleton.1 single ▸ plain_member (plain a)

theorem NameMap.plain_json {json : α → Json.Value} (plain : ∀ a, (json a).Plain) (m : NameMap α) :
    (m.json json).Plain := by
  refine .ofMembers fun member listed => ?_
  obtain ⟨e, -, rfl⟩ := List.mem_map.1 listed
  exact plain_member (plain e.2)

theorem plain_array {json : α → Json.Value} (plain : ∀ a, (json a).Plain) (items : List α) :
    (Json.Value.array (items.map json)).Plain := by
  refine .array _ fun v listed => ?_
  obtain ⟨a, -, rfl⟩ := List.mem_map.1 listed
  exact plain a

end Parts

section Plain

theorem Location.plain_json (l : Location) : l.json.Plain := by
  refine .ofMembers ?_
  simp only [List.forall_mem_cons]
  exact ⟨plain_member (.ofString _), plain_member (.ofInt _), plain_member (.ofInt _), by simp⟩

theorem TypeInfo.plain_json (t : TypeInfo) : t.json.Plain := by
  refine .ofMembers ?_
  simp only [List.forall_mem_append, List.forall_mem_cons]
  exact ⟨⟨plain_member (.ofString _), plain_member (.ofInt _), by simp⟩,
    plain_of_optionalMember .bool t.signed⟩

theorem Enumerator.plain_json (e : Enumerator) : e.json.Plain := by
  refine .ofMembers ?_
  simp only [List.forall_mem_cons]
  exact ⟨plain_member (.ofString _), plain_member (.ofInt _), by simp⟩

theorem EnumDecl.plain_json (d : EnumDecl) : d.json.Plain := by
  refine .ofMembers ?_
  simp only [List.forall_mem_append, List.forall_mem_cons]
  exact ⟨plain_of_optionalMember Location.plain_json d.location,
    plain_member d.integerType.plain_json, plain_member (plain_array Enumerator.plain_json d.values),
    by simp⟩

theorem Parameter.plain_json (p : Parameter) : p.json.Plain := by
  refine .ofMembers ?_
  simp only [List.forall_mem_cons]
  exact ⟨plain_member (.ofString _), plain_member (.ofString _), by simp⟩

theorem FunctionDecl.plain_json (d : FunctionDecl) : d.json.Plain := by
  refine .ofMembers ?_
  simp only [List.forall_mem_append, List.forall_mem_cons]
  exact ⟨plain_of_optionalMember Location.plain_json d.location, plain_member (.ofString _),
    plain_member (.ofString _), plain_member (plain_array Parameter.plain_json d.parameters),
    by simp⟩

theorem OpaqueDecl.plain_json (d : OpaqueDecl) : d.json.Plain := by
  refine .ofMembers ?_
  simp only [List.forall_mem_append, List.forall_mem_cons]
  exact ⟨plain_of_optionalMember Location.plain_json d.location, plain_member (.ofInt _), by simp⟩

theorem Document.plain_json (d : Document) : d.json.Plain := by
  refine .ofMembers ?_
  simp only [List.forall_mem_cons]
  exact ⟨plain_member (.ofString _), plain_member (.ofString _), plain_member (.ofString _),
    plain_member (d.functions.plain_json FunctionDecl.plain_json),
    plain_member (d.enums.plain_json EnumDecl.plain_json),
    plain_member (d.opaqueTypes.plain_json OpaqueDecl.plain_json),
    plain_member (plain_array .ofString d.excluded), by simp⟩

theorem SharedDocument.plain_json (d : SharedDocument) : d.json.Plain := by
  have named : ∀ p : Platform, (Value.ofString p.name).Plain := fun p => .ofString p.name
  refine .ofMembers ?_
  simp only [List.forall_mem_cons]
  exact ⟨plain_member (plain_array named d.platforms),
    plain_member (d.functions.plain_json FunctionDecl.plain_json),
    plain_member (d.enums.plain_json EnumDecl.plain_json),
    plain_member (d.opaqueTypes.plain_json OpaqueDecl.plain_json), by simp⟩

end Plain

section Inverts

theorem Location.shape_inverts : Location.shape.decode.Inverts Location.json := by
  intro l
  refine (Location.shape.decode_zipWith [_, _, _] (.refl _) (by decide) (by decide) rfl).trans ?_
  simp only [Location.shape, Field.required, Field.defaulted, Field.of, List.zip_cons_cons,
    List.foldlM_cons, string_inverts l.fileName, uint32_inverts l.line, uint32_inverts l.column]
  rfl

/-- A location that may be missing is read back where it is present. -/
theorem Location.optional_inverts (l : Location) :
    optional Location.shape.decode l.json = .ok (some l) := by
  have present : l.json ≠ .null := nofun
  rw [optional_of_ne_null present, Location.shape_inverts l]
  rfl

theorem TypeInfo.shape_inverts : TypeInfo.shape.decode.Inverts TypeInfo.json := by
  rintro ⟨name, size, signed⟩
  cases signed with
  | none =>
    refine (TypeInfo.shape.decode_zipWith [_, _] (List.take_sublist 2 _) (by decide) (by decide)
      rfl).trans ?_
    simp only [TypeInfo.shape, Field.required, Field.of, List.take_succ_cons, List.zip_cons_cons,
      List.foldlM_cons, string_inverts name, size_inverts size]
    rfl
  | some signed =>
    refine (TypeInfo.shape.decode_zipWith [_, _, _] (.refl _) (by decide) (by decide) rfl).trans ?_
    simp only [TypeInfo.shape, Field.required, Field.defaulted, Field.of, List.zip_cons_cons,
      List.foldlM_cons, string_inverts name, size_inverts size]
    rfl

theorem Enumerator.shape_inverts : Enumerator.shape.decode.Inverts Enumerator.json := by
  intro e
  refine (Enumerator.shape.decode_zipWith [_, _] (.refl _) (by decide) (by decide) rfl).trans ?_
  simp only [Enumerator.shape, Field.required, Field.of, List.zip_cons_cons, List.foldlM_cons,
    string_inverts e.name, int64_inverts e.value]
  rfl

theorem EnumDecl.shape_inverts : EnumDecl.shape.decode.Inverts EnumDecl.json := by
  rintro ⟨location, integerType, values⟩
  have listed := list_inverts Enumerator.shape_inverts values
  cases location with
  | none =>
    refine (EnumDecl.shape.decode_zipWith [_, _] (List.sublist_cons_self _ _) (by decide)
      (by decide) rfl).trans ?_
    simp only [EnumDecl.shape, Field.required, Field.of, List.zip_cons_cons, List.foldlM_cons,
      TypeInfo.shape_inverts integerType, listed]
    rfl
  | some location =>
    refine (EnumDecl.shape.decode_zipWith [_, _, _] (.refl _) (by decide) (by decide) rfl).trans ?_
    simp only [EnumDecl.shape, Field.required, Field.defaulted, Field.of, List.zip_cons_cons,
      List.foldlM_cons, Location.optional_inverts location, TypeInfo.shape_inverts integerType,
      listed]
    rfl

theorem CallingConvention.decode_inverts :
    CallingConvention.decode.Inverts fun c => .ofString c.name := by
  intro c
  simp only [CallingConvention.decode, Value.ofString, variant, variantName, literalText_encode]
  cases c <;> rfl

theorem Parameter.shape_inverts : Parameter.shape.decode.Inverts Parameter.json := by
  intro p
  refine (Parameter.shape.decode_zipWith [_, _] (.refl _) (by decide) (by decide) rfl).trans ?_
  simp only [Parameter.shape, Field.required, Field.of, List.zip_cons_cons, List.foldlM_cons,
    string_inverts p.name, string_inverts p.type]
  rfl

theorem FunctionDecl.shape_inverts : FunctionDecl.shape.decode.Inverts FunctionDecl.json := by
  rintro ⟨location, convention, returnType, parameters⟩
  have called := CallingConvention.decode_inverts convention
  have listed := list_inverts Parameter.shape_inverts parameters
  cases location with
  | none =>
    refine (FunctionDecl.shape.decode_zipWith [_, _, _] (List.sublist_cons_self _ _) (by decide)
      (by decide) rfl).trans ?_
    simp only [FunctionDecl.shape, Field.required, Field.defaulted, Field.of, List.zip_cons_cons,
      List.foldlM_cons, called, string_inverts returnType, listed]
    rfl
  | some location =>
    refine (FunctionDecl.shape.decode_zipWith [_, _, _, _] (.refl _) (by decide) (by decide)
      rfl).trans ?_
    simp only [FunctionDecl.shape, Field.required, Field.defaulted, Field.of, List.zip_cons_cons,
      List.foldlM_cons, Location.optional_inverts location, called, string_inverts returnType,
      listed]
    rfl

theorem OpaqueDecl.shape_inverts : OpaqueDecl.shape.decode.Inverts OpaqueDecl.json := by
  rintro ⟨location, size⟩
  cases location with
  | none =>
    refine (OpaqueDecl.shape.decode_zipWith [_] (List.sublist_cons_self _ _) (by decide)
      (by decide) rfl).trans ?_
    simp only [OpaqueDecl.shape, Field.required, Field.of, List.zip_cons_cons, List.foldlM_cons,
      size_inverts size]
    rfl
  | some location =>
    refine (OpaqueDecl.shape.decode_zipWith [_, _] (.refl _) (by decide) (by decide) rfl).trans ?_
    simp only [OpaqueDecl.shape, Field.required, Field.defaulted, Field.of, List.zip_cons_cons,
      List.foldlM_cons, Location.optional_inverts location, size_inverts size]
    rfl

/-- The word for an unknown platform is read as such, and every name as its platform. -/
theorem Platform.decodeOptional_inverts :
    Platform.decodeOptional.Inverts Platform.optionalJson := by
  have named : ∀ p : Option Platform,
      Platform.ofDocumentText ((p.map Platform.name).getD "unknown") = .ok p := by
    intro p
    cases p with
    | none => rfl
    | some p => cases p <;> rfl
  intro p
  simp only [Platform.decodeOptional, Platform.optionalJson, Value.ofString, Json.optional,
    Json.string, literalText_encode, Except.map, Bind.bind, Except.bind, named p]

theorem Platform.decode_inverts : Platform.decode.Inverts fun p => .ofString p.name := by
  intro p
  simp only [Platform.decode, Value.ofString, variant, variantName, literalText_encode]
  cases p <;> rfl

theorem Document.shape_inverts : Document.shape.decode.Inverts Document.json := by
  intro d
  have functions := nameMap_inverts FunctionDecl.shape_inverts d.functions
  have enums := nameMap_inverts EnumDecl.shape_inverts d.enums
  have opaqueTypes := nameMap_inverts OpaqueDecl.shape_inverts d.opaqueTypes
  have excluded := list_inverts string_inverts d.excluded
  refine (Document.shape.decode_zipWith [_, _, _, _, _, _, _] (.refl _) (by decide) (by decide)
    rfl).trans ?_
  simp only [Document.shape, Field.defaulted, Field.of, List.zip_cons_cons, List.foldlM_cons,
    NameMap.json, string_inverts d.fileName, Platform.decodeOptional_inverts d.platformRequested,
    Platform.decodeOptional_inverts d.platformActual, functions, enums, opaqueTypes, excluded]
  rfl

theorem SharedDocument.shape_inverts :
    SharedDocument.shape.decode.Inverts SharedDocument.json := by
  intro d
  have platforms := list_inverts Platform.decode_inverts d.platforms
  have functions := nameMap_inverts FunctionDecl.shape_inverts d.functions
  have enums := nameMap_inverts EnumDecl.shape_inverts d.enums
  have opaqueTypes := nameMap_inverts OpaqueDecl.shape_inverts d.opaqueTypes
  refine (SharedDocument.shape.decode_zipWith [_, _, _, _] (.refl _) (by decide) (by decide)
    rfl).trans ?_
  simp only [SharedDocument.shape, Field.required, Field.defaulted, Field.of, List.zip_cons_cons,
    List.foldlM_cons, NameMap.json, platforms, functions, enums, opaqueTypes]
  rfl

end Inverts

namespace Document

/-- A text is read as the document that it is decoded to, if that is valid. -/
theorem parse_eq_ok_iff (text : String) (d : Document) :
    Document.parse text = .ok d ↔ Document.decode text = .ok d ∧ d.validate = .ok () := by
  unfold Document.parse
  cases Document.decode text with
  | error e => simp
  | ok decoded =>
    change decoded.validate.map (fun _ => decoded) = .ok d ↔ _
    constructor
    · intro parsed
      cases validated : decoded.validate with
      | error e =>
        rw [validated] at parsed
        cases parsed
      | ok valid =>
        rw [validated] at parsed
        cases Except.ok.inj parsed
        exact ⟨rfl, validated⟩
    · intro ⟨same, valid⟩
      cases Except.ok.inj same
      rw [valid]
      rfl

/-- The text of a document is decoded to that document. -/
theorem decode_render (d : Document) : Document.decode d.render = .ok d := by
  rw [decode, render, decodeText_pretty _ d.plain_json, shape_inverts d]

/-- Reading the text of a document gives the document if it is valid and the error of its validation
otherwise. Decoding never fails. -/
theorem parse_render (d : Document) :
    Document.decode d.render = .ok d ∧
      Document.parse d.render =
        match d.validate with
        | .ok _ => .ok d
        | .error fault => .error fault := by
  refine ⟨decode_render d, ?_⟩
  simp only [parse, decode_render]
  cases d.validate <;> rfl

end Document

/-- A shared document is read back from its text. -/
theorem SharedDocument.parse_render_self (d : SharedDocument) :
    SharedDocument.parse d.render = .ok d := by
  rw [parse, render, decodeText_pretty _ d.plain_json, shape_inverts d]
  rfl

end HeaderBindings
