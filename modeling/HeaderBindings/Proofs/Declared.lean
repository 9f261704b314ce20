import HeaderBindings.Document.Basic
import HeaderBindings.Proofs.NameMap

/-!
# What a document declares under a name

A document keeps its declarations in three maps, one for each kind, so a name may
stand for up to three declarations. `declarationsOf` lists them with their kinds and
locations. It determines the three maps (`ext_declarationsOf`), and statements about
documents are made through it alone.
-/

namespace HeaderBindings

namespace Decl

@[simp] theorem kind_definition (d : Decl) : d.definition.kind = d.kind := by
  cases d <;> rfl

theorem sameDefinition_iff (a b : Decl) : a.sameDefinition b = true ↔ a.definition = b.definition :=
  beq_iff_eq

theorem kind_eq_of_definition_eq {a b : Decl} (same : a.definition = b.definition) :
    a.kind = b.kind := by
  rw [← kind_definition a, same, kind_definition]

end Decl

/-- The declarations that three maps give a name: one for each map that has the name as a key,
enums before functions and functions before opaque types. -/
def declarationsIn (enums : NameMap EnumDecl) (functions : NameMap FunctionDecl)
    (opaqueTypes : NameMap OpaqueDecl) (name : String) : List Decl :=
  (enums.find? name).toList.map .enum ++ (functions.find? name).toList.map .function ++
    (opaqueTypes.find? name).toList.map .opaqueType

section Maps

variable (enums : NameMap EnumDecl) (functions : NameMap FunctionDecl)
  (opaqueTypes : NameMap OpaqueDecl) (name : String)

@[simp] theorem enum_mem_declarationsIn (decl : EnumDecl) :
    .enum decl ∈ declarationsIn enums functions opaqueTypes name ↔
      enums.find? name = some decl := by
  simp [declarationsIn]

@[simp] theorem function_mem_declarationsIn (decl : FunctionDecl) :
    .function decl ∈ declarationsIn enums functions opaqueTypes name ↔
      functions.find? name = some decl := by
  simp [declarationsIn]

@[simp] theorem opaqueType_mem_declarationsIn (decl : OpaqueDecl) :
    .opaqueType decl ∈ declarationsIn enums functions opaqueTypes name ↔
      opaqueTypes.find? name = some decl := by
  simp [declarationsIn]

/-- A name stands for at most one declaration of each kind. -/
theorem eq_of_kind_eq_of_mem {a b : Decl}
    (left : a ∈ declarationsIn enums functions opaqueTypes name)
    (right : b ∈ declarationsIn enums functions opaqueTypes name) (kinds : a.kind = b.kind) :
    a = b := by
  cases a <;> cases b <;> simp only [Decl.kind, reduceCtorEq] at kinds <;>
    simp_all only [enum_mem_declarationsIn, function_mem_declarationsIn,
      opaqueType_mem_declarationsIn, Option.some.injEq]

theorem declarationsIn_nodup : (declarationsIn enums functions opaqueTypes name).Nodup := by
  unfold declarationsIn
  cases enums.find? name <;> cases functions.find? name <;> cases opaqueTypes.find? name <;> simp

/-- If the declarations of a name are of one kind, there is at most one of them. -/
theorem declarationsIn_length_le_one
    (oneKind : ∀ a ∈ declarationsIn enums functions opaqueTypes name,
      ∀ b ∈ declarationsIn enums functions opaqueTypes name, a.kind = b.kind) :
    (declarationsIn enums functions opaqueTypes name).length ≤ 1 := by
  have distinct := declarationsIn_nodup enums functions opaqueTypes name
  have equal : ∀ a ∈ declarationsIn enums functions opaqueTypes name,
      ∀ b ∈ declarationsIn enums functions opaqueTypes name, a = b := fun a left b right =>
    eq_of_kind_eq_of_mem enums functions opaqueTypes name left right (oneKind a left b right)
  generalize declarationsIn enums functions opaqueTypes name = decls at distinct equal
  match decls with
  | [] => exact Nat.zero_le 1
  | [_] => exact Nat.le_refl 1
  | a :: b :: _ =>
    have same : a = b := equal a (by simp) b (by simp)
    simp [same] at distinct

end Maps

/-- Three maps are determined by the declarations that they give the names. -/
theorem ext_declarationsIn {enums enums' : NameMap EnumDecl}
    {functions functions' : NameMap FunctionDecl} {opaqueTypes opaqueTypes' : NameMap OpaqueDecl}
    (same : ∀ name, declarationsIn enums functions opaqueTypes name =
      declarationsIn enums' functions' opaqueTypes' name) :
    enums = enums' ∧ functions = functions' ∧ opaqueTypes = opaqueTypes' := by
  refine ⟨NameMap.ext_find? fun name => ?_, NameMap.ext_find? fun name => ?_,
    NameMap.ext_find? fun name => ?_⟩ <;> apply Option.ext <;> intro decl
  · rw [← enum_mem_declarationsIn enums functions opaqueTypes, same, enum_mem_declarationsIn]
  · rw [← function_mem_declarationsIn enums functions opaqueTypes, same,
      function_mem_declarationsIn]
  · rw [← opaqueType_mem_declarationsIn enums functions opaqueTypes, same,
      opaqueType_mem_declarationsIn]

namespace Document

/-- The declarations of a name, at most one of each kind. -/
def declarationsOf (d : Document) (name : String) : List Decl :=
  declarationsIn d.enums d.functions d.opaqueTypes name

/-- The declarations of a name without the places where they stand. -/
def definitionsOf (d : Document) (name : String) : List Decl :=
  (d.declarationsOf name).map Decl.definition

/-- The names that a document declares. A name that is declared as several kinds appears once for
each. -/
def declaredNames (d : Document) : List String :=
  d.enums.names ++ d.functions.names ++ d.opaqueTypes.names

theorem mem_declaredNames_iff (d : Document) (name : String) :
    name ∈ d.declaredNames ↔ (∃ decl, d.enums.find? name = some decl) ∨
      (∃ decl, d.functions.find? name = some decl) ∨
      ∃ decl, d.opaqueTypes.find? name = some decl := by
  rw [declaredNames, List.mem_append, List.mem_append, NameMap.mem_names_iff,
    NameMap.mem_names_iff, NameMap.mem_names_iff, or_assoc]

theorem definitionsOf_of_singleton {d : Document} {name : String} {decl : Decl}
    (single : d.declarationsOf name = [decl]) : d.definitionsOf name = [decl.definition] := by
  rw [definitionsOf, single, List.map_singleton]

/-- Selecting a name from the list of all declarations gives the declarations of the name. -/
theorem declarations_filter_eq (d : Document) (name : String) :
    d.declarations.filter (·.1 == name) = (d.declarationsOf name).map (name, ·) := by
  have selected : ∀ {α : Type} (m : NameMap α) (wrap : α → Decl),
      (m.entries.map fun e => (e.1, wrap e.2)).filter (·.1 == name) =
        ((m.find? name).toList.map wrap).map (name, ·) := by
    intro α m wrap
    have split : (fun e : String × Decl => e.1 == name) ∘ (fun e : String × α => (e.1, wrap e.2)) =
        fun e => e.1 == name := rfl
    rw [List.filter_map, split, NameMap.filter_entries_eq m.sorted, NameMap.find?]
    simp only [List.map_map, Function.comp_def]
  simp only [declarations, declarationsOf, declarationsIn, List.filter_append, List.map_append,
    selected]

theorem mem_declarations_iff (d : Document) (name : String) (decl : Decl) :
    (name, decl) ∈ d.declarations ↔ decl ∈ d.declarationsOf name := by
  have filtered : (name, decl) ∈ d.declarations.filter (·.1 == name) ↔
      (name, decl) ∈ d.declarations := by
    simp
  rw [← filtered, declarations_filter_eq]
  simp

theorem mem_names_declarations_iff (d : Document) (name : String) :
    name ∈ d.declarations.map (·.1) ↔ d.declarationsOf name ≠ [] := by
  have filtered : name ∈ d.declarations.map (·.1) ↔ d.declarations.filter (·.1 == name) ≠ [] := by
    rw [ne_eq, List.filter_eq_nil_iff]
    simp
  rw [filtered, declarations_filter_eq]
  simp

end Document

namespace SharedDocument

/-- The declarations of a name, at most one of each kind. -/
def declarationsOf (d : SharedDocument) (name : String) : List Decl :=
  declarationsIn d.enums d.functions d.opaqueTypes name

@[simp] theorem platforms_insert (d : SharedDocument) (name : String) (decl : Decl) :
    (d.insert name decl).platforms = d.platforms := by
  cases decl <;> rfl

/-- Adding a declaration under a new name. -/
theorem declarationsOf_insert (d : SharedDocument) (name query : String) (decl : Decl)
    (fresh : d.declarationsOf name = []) :
    (d.insert name decl).declarationsOf query =
      if query = name then [decl] else d.declarationsOf query := by
  by_cases same : query = name
  · subst same
    simp only [declarationsOf, declarationsIn, List.append_eq_nil_iff, List.map_eq_nil_iff] at fresh
    obtain ⟨⟨noEnum, noFunction⟩, noOpaqueType⟩ := fresh
    cases decl <;>
      simp [insert, declarationsOf, declarationsIn, NameMap.find?_insert, noEnum, noFunction,
        noOpaqueType]
  · cases decl <;> simp [insert, declarationsOf, declarationsIn, NameMap.find?_insert, same]

/-- Adding declarations one after another, each under a name of its own. -/
theorem declarationsOf_foldl_insert (entries : List (String × Decl)) (d : SharedDocument)
    (distinct : (entries.map (·.1)).Nodup)
    (fresh : ∀ name ∈ entries.map (·.1), d.declarationsOf name = []) (query : String) :
    (entries.foldl (fun d e => d.insert e.1 e.2) d).declarationsOf query =
      d.declarationsOf query ++ (entries.lookup query).toList := by
  induction entries generalizing d with
  | nil => simp
  | cons head rest ih =>
    rcases head with ⟨name, decl⟩
    obtain ⟨absent, restDistinct⟩ := List.nodup_cons.1 distinct
    have nameFresh : d.declarationsOf name = [] := fresh name (by simp)
    have restFresh : ∀ other ∈ rest.map (·.1), (d.insert name decl).declarationsOf other = [] := by
      intro other member
      have different : other ≠ name := fun same => absent (same ▸ member)
      rw [declarationsOf_insert d name other decl nameFresh, if_neg different]
      exact fresh other (List.mem_cons_of_mem _ member)
    rw [List.foldl_cons, ih _ restDistinct restFresh,
      declarationsOf_insert d name query decl nameFresh, NameMap.lookup_cons_eq]
    by_cases same : query = name
    · subst same
      have notLater : rest.lookup query = none := by
        rw [List.lookup_eq_none_iff]
        intro e member
        have different : query ≠ e.1 := fun same => absent (List.mem_map.2 ⟨e, member, same.symm⟩)
        simpa using different
      simp [nameFresh, notLater]
    · simp [same]

theorem platforms_foldl_insert (entries : List (String × Decl)) (d : SharedDocument) :
    (entries.foldl (fun d e => d.insert e.1 e.2) d).platforms = d.platforms := by
  induction entries generalizing d with
  | nil => rfl
  | cons head rest ih => rw [List.foldl_cons, ih, platforms_insert]

/-- The document with the place of every declaration cleared. -/
def withoutLocations (d : SharedDocument) : SharedDocument where
  platforms := d.platforms
  functions := d.functions.mapValues fun decl => { decl with location := none }
  enums := d.enums.mapValues fun decl => { decl with location := none }
  opaqueTypes := d.opaqueTypes.mapValues fun decl => { decl with location := none }

theorem declarationsOf_withoutLocations (d : SharedDocument) (name : String) :
    d.withoutLocations.declarationsOf name = (d.declarationsOf name).map Decl.definition := by
  simp only [declarationsOf, withoutLocations, declarationsIn, NameMap.find?_mapValues]
  cases d.enums.find? name <;> cases d.functions.find? name <;>
    cases d.opaqueTypes.find? name <;> rfl

theorem ext_declarationsOf {d e : SharedDocument} (platforms : d.platforms = e.platforms)
    (same : ∀ name, d.declarationsOf name = e.declarationsOf name) : d = e := by
  obtain ⟨enums, functions, opaqueTypes⟩ := ext_declarationsIn same
  cases d
  cases e
  simp_all only

end SharedDocument

end HeaderBindings
