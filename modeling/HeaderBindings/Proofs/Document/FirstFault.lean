import HeaderBindings.Proofs.Document.Validity
import HeaderBindings.Proofs.Text.ByteOrder
import HeaderBindings.Proofs.Text.Trim

/-!
# The first fault of a document

Which documents are valid is said here without any order (`Document.WellFormed`), and so is which
conditions a document violates (`Document.Violates`). The order of the checks is a relation between
the places where conditions are checked (`Checkpoint.Before`). Validation accepts exactly the well
formed documents and otherwise reports the violation that comes before all others
(`validate_reports_first_fault`).

The search is followed from the inside out: the values of an enum, where the names seen so far are
those of the values before (`exists_of_valuesFault?`), then the conditions of one declaration
(`exists_firstFault_of_declFault?`), then the declarations in their order.
-/

namespace HeaderBindings

open HeaderBindings.Text

/-- A condition on a declaration. The values of an enum are counted from zero. -/
inductive Condition where
  /-- The name is not blank. -/
  | named
  /-- An enum has values. -/
  | valued
  /-- The integer type of an enum, or an opaque type, has a size. -/
  | sized
  /-- The return type of a function is not blank. -/
  | returning
  /-- The name of a value is not blank. -/
  | valueNamed (index : Nat)
  /-- No value before has the name of a value. -/
  | valueNew (index : Nat)
deriving DecidableEq, Repr

/-- When a condition is checked among those of one declaration. The two conditions on a value are
checked before those on the next value. -/
def Condition.rank : Condition → Nat
  | named => 0
  | valued => 1
  | sized => 2
  | returning => 2
  | valueNamed index => 3 + 2 * index
  | valueNew index => 4 + 2 * index

/-- Whether a declaration of a name violates a condition, and which fault it then has. -/
inductive Decl.Violates (name : String) : Decl → Condition → Fault → Prop
  | named (decl : Decl) (blank : trim name = "") : Violates name decl .named (.blankName decl.kind)
  | valued {decl : EnumDecl} (empty : decl.values = []) :
      Violates name (.enum decl) .valued (.noValues name)
  | enumSized {decl : EnumDecl} (zero : decl.integerType.size = 0) :
      Violates name (.enum decl) .sized (.noSize name)
  | valueNamed {decl : EnumDecl} {index : Nat} {v : Enumerator}
      (placed : decl.values[index]? = some v) (blank : trim v.name = "") :
      Violates name (.enum decl) (.valueNamed index) (.blankValue name)
  | valueNew {decl : EnumDecl} {earlier index : Nat} {v w : Enumerator}
      (placed : decl.values[index]? = some v) (before : earlier < index)
      (other : decl.values[earlier]? = some w) (same : w.name = v.name) :
      Violates name (.enum decl) (.valueNew index) (.duplicateValue v.name name)
  | returning {decl : FunctionDecl} (blank : trim decl.returnType = "") :
      Violates name (.function decl) .returning (.noReturnType name)
  | opaqueSized {decl : OpaqueDecl} (zero : decl.size = 0) :
      Violates name (.opaqueType decl) .sized (.zeroSize name)

/-- When the declarations of a kind are checked. -/
def Kind.rank : Kind → Nat
  | enum => 0
  | function => 1
  | opaqueType => 2

/-- A place where a document is checked: one condition on one declaration. -/
structure Checkpoint where
  kind : Kind
  name : String
  condition : Condition
deriving DecidableEq, Repr

/-- The order of the checks: enums before functions before opaque types, each kind in the byte order
of the names, and the conditions on one declaration by their ranks. -/
def Checkpoint.Before (p q : Checkpoint) : Prop :=
  p.kind.rank < q.kind.rank ∨
    p.kind = q.kind ∧ (BytesBefore p.name q.name ∨
      p.name = q.name ∧ p.condition.rank < q.condition.rank)

namespace Document

/-- An enum with a name, values, a size and different value names that are not blank. -/
structure WellFormedEnum (name : String) (decl : EnumDecl) : Prop where
  named : trim name ≠ ""
  valued : decl.values ≠ []
  sized : decl.integerType.size ≠ 0
  valuesNamed : ∀ v ∈ decl.values, trim v.name ≠ ""
  distinct : decl.values.Pairwise fun v w => v.name ≠ w.name

/-- A document in which nothing is wrong. -/
structure WellFormed (d : Document) : Prop where
  enums : ∀ name decl, d.enums.find? name = some decl → WellFormedEnum name decl
  functions : ∀ name decl, d.functions.find? name = some decl →
    trim name ≠ "" ∧ trim decl.returnType ≠ ""
  opaqueTypes : ∀ name decl, d.opaqueTypes.find? name = some decl →
    trim name ≠ "" ∧ decl.size ≠ 0

/-- Whether a document violates the condition of a checkpoint, and which fault it then has. -/
def Violates (d : Document) (p : Checkpoint) (fault : Fault) : Prop :=
  ∃ decl ∈ d.declarationsOf p.name, decl.kind = p.kind ∧ decl.Violates p.name p.condition fault

/-- A violation that comes before all others. -/
structure FirstFault (d : Document) (p : Checkpoint) (fault : Fault) : Prop where
  violated : d.Violates p fault
  first : ∀ q other, d.Violates q other → q = p ∨ p.Before q

end Document

namespace Document

theorem enumFault?_eq_none_iff_wellFormed (name : String) (decl : EnumDecl) :
    enumFault? name decl = none ↔ WellFormedEnum name decl := by
  rw [enumFault?_eq_none_iff]
  simp only [isBlankText_eq_false_iff]
  constructor
  · intro ⟨named, valued, sized, valuesNamed, distinct⟩
    exact ⟨named, valued, sized, valuesNamed, List.pairwise_map.1 distinct⟩
  · intro ⟨named, valued, sized, valuesNamed, distinct⟩
    exact ⟨named, valued, sized, valuesNamed, List.pairwise_map.2 distinct⟩

theorem functionFault?_eq_none_iff (name : String) (decl : FunctionDecl) :
    functionFault? name decl = none ↔ trim name ≠ "" ∧ trim decl.returnType ≠ "" := by
  unfold functionFault?
  simp only [isBlankText_iff]
  by_cases unnamed : trim name = ""
  · simp [unnamed]
  · simp [unnamed]

theorem opaqueFault?_eq_none_iff (name : String) (decl : OpaqueDecl) :
    opaqueFault? name decl = none ↔ trim name ≠ "" ∧ decl.size ≠ 0 := by
  unfold opaqueFault?
  simp only [isBlankText_iff]
  by_cases unnamed : trim name = ""
  · simp [unnamed]
  · simp [unnamed]

end Document

section Values

variable {enum : String} {seen : List String} {values : List Enumerator} {fault : Fault}

/-- The values before the one with the fault have none. The names seen when it is checked are those
seen at the start and those of the values before. -/
theorem Document.exists_of_valuesFault? (found : valuesFault? enum seen values = some fault) :
    ∃ before v after, values = before ++ v :: after ∧ valuesFault? enum seen before = none ∧
      (fault = .blankValue enum ∧ trim v.name = "" ∨
        fault = .duplicateValue v.name enum ∧ trim v.name ≠ "" ∧
          (v.name ∈ seen ∨ v.name ∈ before.map (·.name))) := by
  induction values generalizing seen with
  | nil => simp [valuesFault?] at found
  | cons v rest ih =>
    unfold valuesFault? at found
    cases blank : isBlankText v.name with
    | true =>
      simp only [blank, if_true, Option.some.injEq] at found
      exact ⟨[], v, rest, rfl, rfl, .inl ⟨found.symm, (isBlankText_iff _).1 blank⟩⟩
    | false =>
      have visible := (isBlankText_eq_false_iff _).1 blank
      by_cases known : v.name ∈ seen
      · simp only [blank, List.contains_iff_mem.2 known, if_true, Bool.false_eq_true, if_false,
          Option.some.injEq] at found
        exact ⟨[], v, rest, rfl, rfl, .inr ⟨found.symm, visible, .inl known⟩⟩
      · have step : ∀ tail, valuesFault? enum seen (v :: tail) =
            valuesFault? enum (v.name :: seen) tail := by
          intro tail
          rw [valuesFault?]
          simp [blank, known]
        have later : valuesFault? enum (v.name :: seen) rest = some fault := by
          simpa [blank, known] using found
        obtain ⟨before, w, after, split, faultless, kind⟩ := ih later
        refine ⟨v :: before, w, after, by simp [split], (step before).trans faultless, ?_⟩
        rcases kind with blankValue | ⟨duplicate, named, repeated⟩
        · exact .inl blankValue
        · refine .inr ⟨duplicate, named, ?_⟩
          simp only [List.mem_cons, List.map_cons] at repeated ⊢
          rcases repeated with (same | earlier) | between
          · exact .inr (.inl same)
          · exact .inl earlier
          · exact .inr (.inr between)

end Values

namespace Decl

variable {name : String} {decl : Decl}

/-- A violation of a declaration that is checked before all its others. -/
structure FirstFault (name : String) (decl : Decl) (condition : Condition) (fault : Fault) :
    Prop where
  violated : decl.Violates name condition fault
  first : ∀ other fault, decl.Violates name other fault →
    other = condition ∨ condition.rank < other.rank

/-- The fault of a condition that is violated is determined. -/
theorem Violates.unique {condition : Condition} {fault other : Fault}
    (left : decl.Violates name condition fault) (right : decl.Violates name condition other) :
    fault = other := by
  cases left with
  | valueNew placed _ _ _ =>
    cases right with
    | valueNew again _ _ _ =>
      rw [placed] at again
      cases again
      rfl
  | _ => cases right; rfl

section Enum

variable {decl : EnumDecl} {before rest : List Enumerator}

theorem name_ne_of_pairwise {values : List Enumerator} {i j : Nat} {v w : Enumerator}
    (distinct : values.Pairwise fun v w => v.name ≠ w.name) (order : i < j)
    (first : values[i]? = some v) (second : values[j]? = some w) : v.name ≠ w.name := by
  obtain ⟨front, rfl⟩ := List.getElem?_eq_some_iff.1 first
  obtain ⟨inside, rfl⟩ := List.getElem?_eq_some_iff.1 second
  exact List.pairwise_iff_getElem.1 distinct i j front inside order

/-- If nothing is wrong with an enum up to some of its values, then a condition that it violates is
one on a later value. -/
theorem Violates.concerns_later (split : decl.values = before ++ rest) (named : trim name ≠ "")
    (valued : decl.values ≠ []) (sized : decl.integerType.size ≠ 0)
    (faultless : Document.valuesFault? name [] before = none) {condition : Condition} {fault : Fault}
    (violated : (Decl.enum decl).Violates name condition fault) :
    ∃ index, before.length ≤ index ∧
      ((condition = .valueNamed index ∧ ∃ v, decl.values[index]? = some v ∧ trim v.name = "") ∨
        condition = .valueNew index) := by
  obtain ⟨visible, distinct, -⟩ := (Document.valuesFault?_eq_none_iff _ _ _).1 faultless
  have front : ∀ i, i < before.length → decl.values[i]? = before[i]? := by
    intro i inside
    rw [split, List.getElem?_append_left inside]
  cases violated with
  | named _ blank => exact absurd blank named
  | valued empty => exact absurd empty valued
  | enumSized zero => exact absurd zero sized
  | @valueNamed _ index v placed blank =>
    refine ⟨index, ?_, .inl ⟨rfl, v, placed, blank⟩⟩
    by_contra inside
    rw [front index (by omega)] at placed
    have shown := visible v (List.mem_of_getElem? placed)
    exact (isBlankText_eq_false_iff _).1 shown blank
  | @valueNew _ earlier index v w placed order other same =>
    refine ⟨index, ?_, .inr rfl⟩
    by_contra inside
    rw [front index (by omega)] at placed
    rw [front earlier (by omega)] at other
    exact name_ne_of_pairwise (List.pairwise_map.1 distinct) order other placed same

/-- The values of an enum are checked last, one after another. -/
theorem exists_firstFault_of_valuesFault? {fault : Fault} (named : trim name ≠ "")
    (valued : decl.values ≠ []) (sized : decl.integerType.size ≠ 0)
    (found : Document.valuesFault? name [] decl.values = some fault) :
    ∃ condition, (Decl.enum decl).FirstFault name condition fault := by
  obtain ⟨before, v, after, split, faultless, kind⟩ := Document.exists_of_valuesFault? found
  have placed : decl.values[before.length]? = some v := by simp [split]
  rcases kind with ⟨rfl, blank⟩ | ⟨rfl, visible, repeated⟩
  · refine ⟨.valueNamed before.length, .valueNamed placed blank, fun other fault violated => ?_⟩
    obtain ⟨index, late, ⟨rfl, -⟩ | rfl⟩ :=
      violated.concerns_later split named valued sized faultless
    · simp only [Condition.valueNamed.injEq, Condition.rank]
      omega
    · simp only [reduceCtorEq, Condition.rank]
      omega
  · have member : v.name ∈ before.map (·.name) := by simpa using repeated
    obtain ⟨w, earlier, same⟩ := List.mem_map.1 member
    obtain ⟨i, inside, other⟩ := List.getElem_of_mem earlier
    have placedBefore : decl.values[i]? = some w := by
      rw [split, List.getElem?_append_left inside, List.getElem?_eq_getElem inside, other]
    refine ⟨.valueNew before.length, .valueNew placed inside placedBefore same,
      fun other fault violated => ?_⟩
    obtain ⟨index, late, ⟨rfl, u, again, blank⟩ | rfl⟩ :=
      violated.concerns_later split named valued sized faultless
    · have different : index ≠ before.length := by
        rintro rfl
        rw [placed] at again
        cases again
        exact visible blank
      simp only [reduceCtorEq, Condition.rank]
      omega
    · simp only [Condition.valueNew.injEq, Condition.rank]
      omega

theorem exists_firstFault_of_enumFault? {fault : Fault} (named : trim name ≠ "")
    (found : Document.enumFault? name decl = some fault) :
    ∃ condition, (Decl.enum decl).FirstFault name condition fault := by
  simp only [Document.enumFault?, (isBlankText_eq_false_iff name).2 named, Bool.false_eq_true,
    if_false, List.isEmpty_iff] at found
  split at found
  next empty =>
    cases Option.some.inj found
    refine ⟨.valued, .valued empty, fun other fault violated => ?_⟩
    cases violated with
    | named _ unnamed => exact absurd unnamed named
    | _ => simp only [Condition.rank, reduceCtorEq, true_or, false_or] <;> omega
  next valued =>
    split at found
    next zero =>
      cases Option.some.inj found
      refine ⟨.sized, .enumSized zero, fun other fault violated => ?_⟩
      cases violated with
      | named _ unnamed => exact absurd unnamed named
      | valued empty => exact absurd empty valued
      | _ => simp only [Condition.rank, reduceCtorEq, true_or, false_or] <;> omega
    next sized => exact exists_firstFault_of_valuesFault? named valued sized found

end Enum

/-- A blank name is found before anything else. -/
theorem firstFault_of_blank (decl : Decl) (unnamed : trim name = "") :
    decl.FirstFault name .named (.blankName decl.kind) := by
  refine ⟨.named decl unnamed, fun other fault violated => ?_⟩
  cases violated <;> simp only [Condition.rank, reduceCtorEq, true_or, false_or] <;> omega

/-- What is reported about a declaration is the violation that is checked first. -/
theorem exists_firstFault_of_declFault? {fault : Fault}
    (found : Document.declFault? name decl = some fault) :
    ∃ condition, decl.FirstFault name condition fault := by
  by_cases unnamed : trim name = ""
  · have reported : Document.declFault? name decl = some (.blankName decl.kind) := by
      cases decl <;>
        simp [Document.declFault?, Document.enumFault?, Document.functionFault?,
          Document.opaqueFault?, (isBlankText_iff name).2 unnamed, Decl.kind]
    rw [reported] at found
    cases Option.some.inj found
    exact ⟨.named, firstFault_of_blank decl unnamed⟩
  · cases decl with
    | enum decl => exact exists_firstFault_of_enumFault? unnamed found
    | function decl =>
      simp only [Document.declFault?, Document.functionFault?, isBlankText_iff, if_neg unnamed,
        Option.ite_none_right_eq_some, Option.some.injEq] at found
      obtain ⟨blank, rfl⟩ := found
      refine ⟨.returning, .returning blank, fun other fault violated => ?_⟩
      cases violated with
      | named _ blankName => exact absurd blankName unnamed
      | returning _ => exact .inl rfl
    | opaqueType decl =>
      simp only [Document.declFault?, Document.opaqueFault?, isBlankText_iff, if_neg unnamed,
        Option.ite_none_right_eq_some, Option.some.injEq] at found
      obtain ⟨zero, rfl⟩ := found
      refine ⟨.sized, .opaqueSized zero, fun other fault violated => ?_⟩
      cases violated with
      | named _ blankName => exact absurd blankName unnamed
      | opaqueSized _ => exact .inl rfl

/-- A declaration that violates a condition has a fault. -/
theorem Violates.declFault?_ne_none {condition : Condition} {fault : Fault}
    (violated : decl.Violates name condition fault) : Document.declFault? name decl ≠ none := by
  intro faultless
  cases decl with
  | enum decl =>
    have wellFormed := (Document.enumFault?_eq_none_iff_wellFormed name decl).1 faultless
    cases violated with
    | named _ blank => exact wellFormed.named blank
    | valued empty => exact wellFormed.valued empty
    | enumSized zero => exact wellFormed.sized zero
    | valueNamed placed blank => exact wellFormed.valuesNamed _ (List.mem_of_getElem? placed) blank
    | valueNew placed order other same =>
      exact name_ne_of_pairwise wellFormed.distinct order other placed same
  | function decl =>
    obtain ⟨named, returning⟩ := (Document.functionFault?_eq_none_iff name decl).1 faultless
    cases violated with
    | named _ blank => exact named blank
    | returning blank => exact returning blank
  | opaqueType decl =>
    obtain ⟨named, sized⟩ := (Document.opaqueFault?_eq_none_iff name decl).1 faultless
    cases violated with
    | named _ blank => exact named blank
    | opaqueSized zero => exact sized zero

end Decl

/-- Whether a declaration is checked before another one. -/
def CheckedBefore (a b : String × Decl) : Prop :=
  a.2.kind.rank < b.2.kind.rank ∨ a.2.kind = b.2.kind ∧ BytesBefore a.1 b.1

/-- The declarations of a document are visited in the order of the checks. -/
theorem Document.declarations_checkedBefore (d : Document) :
    d.declarations.Pairwise CheckedBefore := by
  have sorted : ∀ {α : Type} (m : NameMap α) (wrap : α → Decl),
      (∀ a b, (wrap a).kind = (wrap b).kind) →
      (m.entries.map fun e => (e.1, wrap e.2)).Pairwise CheckedBefore := by
    intro α m wrap kinds
    rw [List.pairwise_map]
    exact m.sorted.imp fun below => .inr ⟨kinds _ _, (bytesBefore_iff _ _).2 below⟩
  unfold declarations
  rw [List.pairwise_append, List.pairwise_append]
  refine ⟨⟨sorted d.enums .enum fun _ _ => rfl, sorted d.functions .function fun _ _ => rfl, ?_⟩,
    sorted d.opaqueTypes .opaqueType fun _ _ => rfl, ?_⟩
  · intro a left b right
    obtain ⟨e, -, rfl⟩ := List.mem_map.1 left
    obtain ⟨f, -, rfl⟩ := List.mem_map.1 right
    simp [CheckedBefore, Decl.kind, Kind.rank]
  · intro a left b right
    obtain ⟨f, -, rfl⟩ := List.mem_map.1 right
    rcases List.mem_append.1 left with enum | function
    · obtain ⟨e, -, rfl⟩ := List.mem_map.1 enum
      simp [CheckedBefore, Decl.kind, Kind.rank]
    · obtain ⟨e, -, rfl⟩ := List.mem_map.1 function
      simp [CheckedBefore, Decl.kind, Kind.rank]

namespace Checkpoint

variable {p q : Checkpoint}

theorem Before.asymm (before : p.Before q) : ¬ q.Before p := by
  unfold Before at before ⊢
  simp only [bytesBefore_iff] at before ⊢
  rintro (lower | ⟨kinds, below | ⟨names, earlier⟩⟩)
  · rcases before with rank | ⟨same, -⟩
    · omega
    · rw [same] at lower
      omega
  · rcases before with rank | ⟨-, above | ⟨same, -⟩⟩
    · rw [kinds] at rank
      omega
    · exact String.lt_asymm below above
    · rw [same] at below
      exact String.lt_irrefl _ below
  · rcases before with rank | ⟨-, above | ⟨-, later⟩⟩
    · rw [kinds] at rank
      omega
    · rw [names] at above
      exact String.lt_irrefl _ above
    · omega

end Checkpoint

namespace Document

variable {d : Document}

/-- The three loops of validation are one loop over all declarations. -/
theorem fault?_eq (d : Document) :
    d.fault? = d.declarations.findSome? fun e => declFault? e.1 e.2 := by
  unfold fault? declarations
  simp only [List.findSome?_append, List.findSome?_map, Option.orElse_eq_orElse,
    Option.orElse_eq_or, Option.or_assoc]
  rfl

/-- What is reported about a document is the violation that is checked first. -/
theorem exists_firstFault_of_fault? {fault : Fault} (found : d.fault? = some fault) :
    ∃ p, d.FirstFault p fault := by
  rw [fault?_eq, List.findSome?_eq_some_iff] at found
  obtain ⟨front, ⟨name, decl⟩, behind, split, reported, faultless⟩ := found
  obtain ⟨condition, violated, first⟩ := Decl.exists_firstFault_of_declFault? reported
  have listed : (name, decl) ∈ d.declarations := by simp [split]
  have visited := d.declarations_checkedBefore
  rw [split, List.pairwise_append, List.pairwise_cons] at visited
  refine ⟨⟨decl.kind, name, condition⟩,
    ⟨decl, (mem_declarations_iff d name decl).1 listed, rfl, violated⟩, ?_⟩
  rintro ⟨kind, other, otherCondition⟩ otherFault ⟨otherDecl, declared, rfl, otherViolated⟩
  have member := (mem_declarations_iff d other otherDecl).2 declared
  rw [split, List.mem_append, List.mem_cons] at member
  rcases member with earlier | same | later
  · exact absurd (faultless _ earlier) otherViolated.declFault?_ne_none
  · cases same
    rcases first otherCondition otherFault otherViolated with rfl | below
    · exact .inl rfl
    · exact .inr (.inr ⟨rfl, .inr ⟨rfl, below⟩⟩)
  · rcases visited.2.1.1 _ later with rank | ⟨kinds, below⟩
    · exact .inr (.inl rank)
    · exact .inr (.inr ⟨kinds, .inl below⟩)

/-- There is at most one first fault. -/
theorem FirstFault.unique {p q : Checkpoint} {fault other : Fault} (left : d.FirstFault p fault)
    (right : d.FirstFault q other) : fault = other := by
  have same : q = p := by
    rcases left.first q other right.violated with same | before
    · exact same
    · rcases right.first p fault left.violated with same | after
      · exact same.symm
      · exact absurd after before.asymm
  subst same
  obtain ⟨decl, declared, kind, violated⟩ := left.violated
  obtain ⟨otherDecl, otherDeclared, otherKind, otherViolated⟩ := right.violated
  have equal : otherDecl = decl :=
    eq_of_kind_eq_of_mem _ _ _ _ otherDeclared declared (otherKind.trans kind.symm)
  subst equal
  exact violated.unique otherViolated

theorem fault?_eq_none_iff_wellFormed (d : Document) : d.fault? = none ↔ d.WellFormed := by
  unfold fault?
  simp only [Option.orElse_eq_orElse, Option.orElse_eq_or, Option.or_eq_none_iff,
    findSome?_entries_eq_none_iff, enumFault?_eq_none_iff_wellFormed, functionFault?_eq_none_iff,
    opaqueFault?_eq_none_iff]
  constructor
  · intro ⟨enums, functions, opaqueTypes⟩
    exact ⟨enums, functions, opaqueTypes⟩
  · intro wellFormed
    exact ⟨wellFormed.enums, wellFormed.functions, wellFormed.opaqueTypes⟩

/-- A document that violates a condition has a fault. -/
theorem Violates.fault?_ne_none {p : Checkpoint} {fault : Fault} (violated : d.Violates p fault) :
    d.fault? ≠ none := by
  obtain ⟨decl, declared, -, broken⟩ := violated
  rw [fault?_eq]
  intro faultless
  have clean := List.findSome?_eq_none_iff.1 faultless _ ((mem_declarations_iff d _ _).2 declared)
  exact broken.declFault?_ne_none clean

/-- Validation accepts exactly the well formed documents. About any other document it reports the
violation that comes first in the order of the checks. -/
theorem validate_reports_first_fault (d : Document) :
    (d.validate = .ok () ↔ d.WellFormed) ∧
      ∀ e, d.validate = .error e ↔
        ∃ p fault, d.FirstFault p fault ∧ e = .invalidDocument fault.message := by
  refine ⟨d.validate_eq_ok_iff_fault?.trans d.fault?_eq_none_iff_wellFormed, fun e => ?_⟩
  have reported : d.validate = .error e ↔
      ∃ fault, d.fault? = some fault ∧ e = .invalidDocument fault.message := by
    unfold validate
    cases d.fault? with
    | none => simp
    | some fault => simp [eq_comm]
  rw [reported]
  constructor
  · intro ⟨fault, found, message⟩
    obtain ⟨p, first⟩ := exists_firstFault_of_fault? found
    exact ⟨p, fault, first, message⟩
  · intro ⟨p, fault, first, message⟩
    obtain ⟨other, found⟩ := Option.ne_none_iff_exists'.1 first.violated.fault?_ne_none
    obtain ⟨q, otherFirst⟩ := exists_firstFault_of_fault? found
    exact ⟨fault, by rw [found, first.unique otherFirst], message⟩

end Document

end HeaderBindings
