import HeaderBindings.Proofs.Verification

/-!
# The symbols of an excluded enum

The names of an enum's functions start with the enum and two underscores, and the names of
its constants with the enum in constant case; only then does the exclusion of the enum cover
them. One exported symbol is spelled differently: the enum `Enum_Force_SInt8` exports
`Enum_ForceSInt8__return_Enum_Force_SInt8`. So a verification that covers derived symbols
finds every symbol of an excluded enum in every artifact, except for this one
(`findsExcluded_symbol_iff`).
-/

namespace HeaderBindings

open HeaderBindings.Artifact HeaderBindings.Text HeaderBindings.Verification

/-- The symbols of an entry: its name, its exported functions and its constants. -/
def CatalogEntry.symbols (e : CatalogEntry) : List String :=
  e.name :: e.exported.printSymbol :: e.exported.returnSymbol :: e.constants.map (·.name)

/-- The exported symbol that lacks an underscore of its enum. -/
def shortReturnSymbol : String :=
  "Enum_ForceSInt8__return_Enum_Force_SInt8"

namespace Family

theorem constantCase_name (f : Family) : constantCase f.name = f.constantStem := by
  have table : ∀ f ∈ Family.all, constantCase f.name = f.constantStem := by decide +kernel
  exact table f f.mem_all

theorem printSymbol_eq (f : Family) :
    f.printSymbol = (Exclusion.mk f.name).functionStem ++ ("print_" ++ f.name) := by
  simp [← String.toList_inj, printSymbol, Exclusion.functionStem]

theorem returnSymbol_eq (f : Family) : f.returnSymbol = shortReturnSymbol ∨
    f.returnSymbol = (Exclusion.mk f.name).functionStem ++ ("return_" ++ f.name) := by
  unfold returnSymbol
  split
  · exact .inl rfl
  · exact .inr (by simp [← String.toList_inj, Exclusion.functionStem])

theorem day_eq (f : Family) :
    ∀ c ∈ f.days, ∃ rest, c.name = (Exclusion.mk f.name).constantStem ++ rest := by
  have underscore : ∀ rest : String, f.constantStem ++ ("_" ++ rest) =
      (Exclusion.mk f.name).constantStem ++ rest := by
    intro rest
    rw [Exclusion.constantStem, constantCase_name, String.append_assoc]
  simp only [days, List.forall_mem_cons]
  exact ⟨⟨_, underscore "DAY_UNKNOWN"⟩, ⟨_, underscore "DAY_MONDAY"⟩, ⟨_, underscore "DAY_TUESDAY"⟩,
    ⟨_, underscore "DAY_WEDNESDAY"⟩, ⟨_, underscore "DAY_THURSDAY"⟩, ⟨_, underscore "DAY_FRIDAY"⟩,
    List.forall_mem_nil _⟩

theorem sentinel_eq (f : Family) : f.sentinel.name = "_" ++ constantCase f.name ∨
    ∃ rest, f.sentinel.name = "_" ++ ((Exclusion.mk f.name).constantStem ++ rest) := by
  rw [Exclusion.constantStem, constantCase_name]
  cases f with
  | ignored => exact .inr ⟨"SINT8", rfl⟩
  | _ => exact .inl (by decide)

theorem constantCase_name_start (f : Family) :
    ∃ c ∈ (constantCase f.name).toList.head?, c ≠ '_' := by
  have table : ∀ f ∈ Family.all, f.constantStem.toList.head? = some 'E' := by decide
  rw [constantCase_name, table f f.mem_all]
  exact ⟨'E', rfl, by decide⟩

theorem mem_symbols_iff (f : Family) (symbol : String) :
    symbol ∈ (Catalog.entryOf f).symbols ↔ symbol = f.name ∨ symbol = f.printSymbol ∨
      symbol = f.returnSymbol ∨ (∃ c ∈ f.days, symbol = c.name) ∨ symbol = f.sentinel.name := by
  simp only [CatalogEntry.symbols, Catalog.entryOf, exported, constants, List.mem_cons,
    List.map_append, List.mem_append, List.mem_map, List.map_singleton, List.not_mem_nil, or_false,
    eq_comm (a := symbol)]

/-- The exclusion of an enum covers all its symbols but the one that lacks an underscore. -/
theorem covers_symbol (f : Family) {symbol : String} (listed : symbol ∈ (Catalog.entryOf f).symbols)
    (regular : symbol ≠ shortReturnSymbol) : Exclusion.covers ⟨f.name⟩ symbol = true := by
  rcases (f.mem_symbols_iff symbol).1 listed with rfl | rfl | rfl | ⟨c, day, rfl⟩ | rfl
  · exact Exclusion.covers_declaration ⟨f.name⟩
  · rw [printSymbol_eq]
    exact Exclusion.covers_function ⟨f.name⟩ _
  · rcases f.returnSymbol_eq with short | stem
    · exact absurd short regular
    · rw [stem]
      exact Exclusion.covers_function ⟨f.name⟩ _
  · obtain ⟨rest, spelled⟩ := f.day_eq c day
    have unmarked : c.name = "" ++ ((Exclusion.mk f.name).constantStem ++ rest) := by
      rw [spelled, String.empty_append]
    exact Exclusion.covers_constant (by decide : "".toList.all (· == '_') = true)
      f.constantCase_name_start (.inr ⟨rest, unmarked⟩)
  · exact Exclusion.covers_constant (by decide : "_".toList.all (· == '_') = true)
      f.constantCase_name_start f.sentinel_eq

end Family

/-- Only two exclusions cover the symbol that lacks an underscore. -/
theorem covers_shortReturnSymbol_iff (e : Exclusion) :
    e.covers shortReturnSymbol = true ↔
      e.declaration = shortReturnSymbol ∨ e.declaration = "Enum_ForceSInt8" := by
  rw [Exclusion.covers_iff_of_hasSmallStart (by decide), eq_comm]
  refine or_congr_right ⟨?_, ?_⟩
  · rintro ⟨rest, split⟩
    -- The symbol has two underscores at one place only.
    have place : ∀ n < shortReturnSymbol.toList.length,
        Exclusion.startsWith (shortReturnSymbol.toList.drop n) "__" = true → n = 15 := by decide
    rw [Exclusion.functionStem, String.toList_append, List.append_assoc] at split
    have length : e.declaration.toList.length < shortReturnSymbol.toList.length := by
      rw [← split]
      simp
    have fifteen : e.declaration.toList.length = 15 := by
      refine place _ length ?_
      rw [← split, List.drop_left, Exclusion.startsWith, List.isPrefixOf_iff_prefix]
      exact List.prefix_append _ _
    have front := congrArg (List.take 15) split
    rw [← fifteen, List.take_left, fifteen] at front
    exact String.toList_inj.1 front
  · intro named
    rw [Exclusion.functionStem, named]
    decide

/-- Where derived symbols are covered, every symbol of an excluded enum is found in every artifact
that mentions it; the symbol that lacks an underscore is found only if it or its own front part is
excluded. -/
theorem findsExcluded_symbol_iff (o : VerifyOptions) (derived : o.coverDerived = true)
    {e : CatalogEntry} (entry : e ∈ Catalog.entries) (excluded : o.exclusions.excludes e.name = true)
    {symbol : String} (listed : symbol ∈ e.symbols) (artifact text : String) (d : Document)
    (mentioned : Mentions text symbol) :
    (verify artifact text d o).FindsExcluded symbol ↔ symbol ≠ shortReturnSymbol ∨
      o.exclusions.excludes shortReturnSymbol = true ∨
      o.exclusions.excludes "Enum_ForceSInt8" = true := by
  obtain ⟨f, rfl⟩ := (Catalog.mem_entries_iff e).1 entry
  obtain ⟨rule, member, named⟩ := (ExclusionList.excludes_iff _ _).1 excluded
  rw [findsExcluded_iff, excludedBy?_isSome_iff o derived, and_iff_right mentioned]
  by_cases short : symbol = shortReturnSymbol
  · subst short
    simp only [covers_shortReturnSymbol_iff, ExclusionList.excludes_iff, ne_eq, not_true_eq_false,
      false_or, and_or_left, exists_or]
  · have covered : rule.covers symbol = true := by
      rw [← f.covers_symbol listed short]
      exact congrArg (·.covers symbol) (congrArg Exclusion.mk named)
    exact ⟨fun _ => .inl short, fun _ => ⟨rule, member, covered⟩⟩

theorem findsExcluded_sentinel :
    (verify "bindings.rs" "const _ENUM_FORCE_SINT8: i8 = 127;" Document.empty
      ⟨.withExtra ["Enum_Force_SInt8"], true, false⟩).FindsExcluded "_ENUM_FORCE_SINT8" := by
  have entry : Catalog.entryOf .sint8 ∈ Catalog.entries := Catalog.entryOf_mem _
  have mentioned : Mentions "const _ENUM_FORCE_SINT8: i8 = 127;" "_ENUM_FORCE_SINT8" :=
    (contains_firstLines_iff _ _).1 (by decide)
  exact (findsExcluded_symbol_iff ⟨.withExtra ["Enum_Force_SInt8"], true, false⟩ rfl entry
    (by decide) (by decide) "bindings.rs" _ Document.empty mentioned).2 (.inl (by decide))

/-- An artifact may name the function of an excluded enum that lacks an underscore. -/
theorem not_findsExcluded_shortReturnSymbol :
    let o : VerifyOptions := ⟨.withExtra ["Enum_Force_SInt8"], true, false⟩
    let e := Catalog.entryOf .sint8
    let d := Catalog.document .linux o.exclusions
    e ∈ Catalog.entries ∧ o.exclusions.excludes e.name = true ∧ shortReturnSymbol ∈ e.symbols ∧
      Mentions shortReturnSymbol shortReturnSymbol ∧
      ¬ (verify "bindings.rs" shortReturnSymbol d o).FindsExcluded shortReturnSymbol := by
  intro o e d
  have identifier : IsIdentifier shortReturnSymbol := by decide
  refine ⟨Catalog.entryOf_mem _, by decide, by decide, identifier.mentions_self, ?_⟩
  rw [findsExcluded_iff]
  rintro ⟨-, found⟩
  exact absurd found (by decide)

end HeaderBindings
