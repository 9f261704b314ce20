import HeaderBindings.Merge
import HeaderBindings.Proofs.Declared
import Mathlib.Data.List.Induction

/-!
# Why a name is kept or dropped

The merge judges a name by its candidates alone: it counts their kinds, compares their
number with the number of documents and compares each with the first. `Judged` says
the same about the documents, without candidates and without counting, and
`verdict_judged` ties the two. Counting is sound because a document that declares a
name as one kind only has one candidate for it, so once the kinds agree a missing
candidate is a missing document.
-/

namespace HeaderBindings

namespace Merge

/-- The documents that take part in a merge, in order: those with a known platform. -/
def merged (documents : List Document) : List Document :=
  documents.filter fun d => !d.isUnknownPlatform

/-- No two declarations of a name are of different kinds, be they of one document or of two. -/
def OneKind (documents : List Document) (name : String) : Prop :=
  ∀ d ∈ documents, ∀ e ∈ documents,
    ∀ a ∈ d.declarationsOf name, ∀ b ∈ e.declarationsOf name, a.kind = b.kind

/-- Every document declares a name. -/
def Everywhere (documents : List Document) (name : String) : Prop :=
  ∀ d ∈ documents, d.declarationsOf name ≠ []

/-- All declarations of a name are equal but for the places where they stand. -/
def OneDefinition (documents : List Document) (name : String) : Prop :=
  ∀ d ∈ documents, ∀ e ∈ documents,
    ∀ a ∈ d.declarationsOf name, ∀ b ∈ e.declarationsOf name, a.definition = b.definition

/-- The documents share a name. -/
structure Agreed (documents : List Document) (name : String) : Prop where
  everywhere : Everywhere documents name
  oneKind : OneKind documents name
  oneDefinition : OneDefinition documents name

/-- Some document declares a name. -/
def Declared (documents : List Document) (name : String) : Prop :=
  ∃ d ∈ documents, d.declarationsOf name ≠ []

instance (documents : List Document) (name : String) : Decidable (Declared documents name) :=
  inferInstanceAs (Decidable (∃ d ∈ documents, d.declarationsOf name ≠ []))

/-- The kinds as which documents declare a name, documents in order and within a document enum
before function before opaque type. A kind is listed as often as it is declared. -/
def appearances (documents : List Document) (name : String) : List Kind :=
  documents.flatMap fun d => (d.declarationsOf name).map Decl.kind

/-- A list of distinct kinds in the order in which they appear first in another list. -/
structure FirstAppearances (all kinds : List Kind) : Prop where
  members : ∀ k, k ∈ kinds ↔ k ∈ all
  ordered : kinds.Pairwise fun k l => all.idxOf k < all.idxOf l

/-- What may be said of a name, with the facts that lead to it. -/
inductive Judged (sources : List Source) (name : String) : Option DropReason → Prop where
  | severalKinds (several : ¬ OneKind (sources.map (·.document)) name) :
    Judged sources name (some (.kindMismatch
      (appearances (sources.map (·.document)) name).eraseDups))
  | missing (oneKind : OneKind (sources.map (·.document)) name)
      (lacking : ¬ Everywhere (sources.map (·.document)) name) :
    Judged sources name (some (.missingOnPlatforms ((platforms sources).filter fun p =>
      !sources.any fun s => s.platform == p && !(s.document.declarationsOf name).isEmpty)))
  | differing (oneKind : OneKind (sources.map (·.document)) name)
      (everywhere : Everywhere (sources.map (·.document)) name)
      (first : Source) (rest : List Source) (split : sources = first :: rest)
      (differs : ∃ s ∈ sources, s.document.definitionsOf name ≠ first.document.definitionsOf name) :
    Judged sources name (some (.definitionMismatch ((sources.filter fun s =>
      s.document.definitionsOf name ≠ first.document.definitionsOf name).map (·.platform))))
  | shared (agreed : Agreed (sources.map (·.document)) name) : Judged sources name none

section Agreement

variable {documents : List Document} {name : String}

/-- A document that declares a name as one kind has one declaration of it. -/
theorem OneKind.declarationsOf_eq (oneKind : OneKind documents name) {d : Document}
    (member : d ∈ documents) (declared : d.declarationsOf name ≠ []) :
    ∃ decl, d.declarationsOf name = [decl] := by
  have atMostOne : (d.declarationsOf name).length ≤ 1 :=
    declarationsIn_length_le_one _ _ _ _ (oneKind d member d member)
  match decls : d.declarationsOf name, declared with
  | [decl], _ => exact ⟨decl, rfl⟩
  | _ :: _ :: _, _ => simp [decls] at atMostOne

theorem Agreed.declarationsOf_eq (agreed : Agreed documents name) {d : Document}
    (member : d ∈ documents) : ∃ decl, d.declarationsOf name = [decl] :=
  agreed.oneKind.declarationsOf_eq member (agreed.everywhere d member)

/-- Sharing a name means to have one definition of it in common. This form does not single out
a first document, so it does not depend on the order or the grouping of the documents. -/
theorem agreed_iff_definition (nonempty : documents ≠ []) :
    Agreed documents name ↔
      ∃ definition, ∀ d ∈ documents, d.definitionsOf name = [definition] := by
  constructor
  · intro agreed
    obtain ⟨first, firstMember⟩ := List.exists_mem_of_ne_nil documents nonempty
    obtain ⟨base, baseEq⟩ := agreed.declarationsOf_eq firstMember
    refine ⟨base.definition, fun d member => ?_⟩
    obtain ⟨decl, declEq⟩ := agreed.declarationsOf_eq member
    have same : decl.definition = base.definition :=
      agreed.oneDefinition d member first firstMember
        decl (by simp [declEq]) base (by simp [baseEq])
    rw [Document.definitionsOf_of_singleton declEq, same]
  · rintro ⟨definition, common⟩
    have defined : ∀ d ∈ documents, ∀ a ∈ d.declarationsOf name, a.definition = definition := by
      intro d member a declared
      have listed : a.definition ∈ d.definitionsOf name := List.mem_map_of_mem declared
      rw [common d member] at listed
      exact List.mem_singleton.1 listed
    have oneDefinition : OneDefinition documents name := fun d dMember e eMember a left b right =>
      (defined d dMember a left).trans (defined e eMember b right).symm
    refine ⟨fun d member absent => ?_, fun d dMember e eMember a left b right => ?_, oneDefinition⟩
    · have none := common d member
      rw [Document.definitionsOf, absent] at none
      cases none
    · exact Decl.kind_eq_of_definition_eq (oneDefinition d dMember e eMember a left b right)

/-- Where each document has one declaration, it is enough to compare with the first document. -/
theorem differs_iff_not_agreed {first : Document} {rest : List Document}
    (oneKind : OneKind (first :: rest) name) (everywhere : Everywhere (first :: rest) name) :
    (∃ d ∈ first :: rest, d.definitionsOf name ≠ first.definitionsOf name) ↔
      ¬ Agreed (first :: rest) name := by
  obtain ⟨base, baseEq⟩ := oneKind.declarationsOf_eq List.mem_cons_self
    (everywhere first List.mem_cons_self)
  have baseDefinition := Document.definitionsOf_of_singleton baseEq
  rw [agreed_iff_definition (List.cons_ne_nil first rest)]
  constructor
  · rintro ⟨d, member, different⟩ ⟨definition, common⟩
    exact different ((common d member).trans (common first List.mem_cons_self).symm)
  · intro disagreed
    apply Decidable.byContradiction
    intro none
    refine disagreed ⟨base.definition, fun d member => ?_⟩
    rw [← baseDefinition]
    exact Decidable.not_not.1 fun different => none ⟨d, member, different⟩

end Agreement

section Kinds

/-- Removing repetitions keeps each kind at its first appearance. The induction is on the end of
the list, where a kind is either known already or stands behind all others. -/
theorem firstAppearances_eraseDups (all : List Kind) : FirstAppearances all all.eraseDups := by
  refine ⟨fun k => List.mem_eraseDups, ?_⟩
  induction all using List.reverseRecOn with
  | nil => exact .nil
  | append_singleton before k ih =>
    have kept : before.eraseDups.Pairwise fun a b =>
        (before ++ [k]).idxOf a < (before ++ [k]).idxOf b := by
      refine ih.imp_of_mem fun {a b} left right below => ?_
      rw [List.mem_eraseDups] at left right
      rw [List.idxOf_append, List.idxOf_append, if_pos left, if_pos right]
      exact below
    rw [List.eraseDups_append]
    by_cases known : k ∈ before
    · simpa [List.removeAll, known] using kept
    · have appended : ([k].removeAll before).eraseDups = [k] := by
        simp [List.removeAll, known, List.eraseDups_cons]
      rw [appended, List.pairwise_append]
      refine ⟨kept, List.pairwise_singleton _ _, fun a left b right => ?_⟩
      rw [List.mem_eraseDups] at left
      rw [List.mem_singleton.1 right, List.idxOf_append, List.idxOf_append, if_pos left,
        if_neg known]
      have bound := List.idxOf_lt_length_of_mem left
      omega

theorem FirstAppearances.nodup {all kinds : List Kind} (firsts : FirstAppearances all kinds) :
    kinds.Nodup := by
  refine firsts.ordered.imp ?_
  rintro k l below rfl
  exact Nat.lt_irrefl _ below

theorem FirstAppearances.eq {all kinds others : List Kind} (left : FirstAppearances all kinds)
    (right : FirstAppearances all others) : kinds = others :=
  eq_of_increasing (fun _ _ below above => Nat.lt_asymm below above) left.ordered right.ordered
    fun k => (left.members k).trans (right.members k).symm

/-- One kind remains once the repetitions are removed if and only if all kinds are equal. -/
theorem eraseDups_length_le_one_iff (kinds : List Kind) :
    kinds.eraseDups.length ≤ 1 ↔ ∀ k ∈ kinds, ∀ l ∈ kinds, k = l := by
  constructor
  · intro short k left l right
    rw [← List.mem_eraseDups] at left right
    match list : kinds.eraseDups, short with
    | [], _ => simp [list] at left
    | [only], _ =>
      rw [list, List.mem_singleton] at left right
      rw [left, right]
  · intro equal
    cases kinds with
    | nil => exact Nat.zero_le 1
    | cons head rest =>
      have noOther : rest.filter (fun k => !k == head) = [] := by
        rw [List.filter_eq_nil_iff]
        intro k member
        simp [equal k (List.mem_cons_of_mem _ member) head List.mem_cons_self]
      rw [List.eraseDups_cons, noOther]
      exact Nat.le_refl 1

/-- The documents declare a name as at most one kind if and only if one kind appears at most. -/
theorem kinds_length_le_one_iff (documents : List Document) (name : String) :
    (appearances documents name).eraseDups.length ≤ 1 ↔ OneKind documents name := by
  rw [eraseDups_length_le_one_iff]
  simp only [appearances, List.mem_flatMap, List.mem_map]
  constructor
  · intro equal d dMember e eMember a left b right
    exact equal _ ⟨d, dMember, a, left, rfl⟩ _ ⟨e, eMember, b, right, rfl⟩
  · rintro oneKind _ ⟨d, dMember, a, left, rfl⟩ _ ⟨e, eMember, b, right, rfl⟩
    exact oneKind d dMember e eMember a left b right

end Kinds

section Candidates

variable (sources : List Source) (name : String)

theorem candidates_eq : candidates sources name =
    sources.flatMap fun s => (s.document.declarationsOf name).map (Candidate.mk s.platform) := by
  simp only [candidates, Document.declarations_filter_eq, List.map_map, Function.comp_def]

theorem kinds_candidates : (candidates sources name).map (·.decl.kind) =
    appearances (sources.map (·.document)) name := by
  simp only [candidates_eq, appearances, List.map_flatMap, List.flatMap_map, List.map_map,
    Function.comp_def]

/-- Parts of at most one element each are fewer than the places they come from exactly if one of
them is empty. -/
theorem length_flatMap_of_short {α β : Type} (part : α → List β) (places : List α)
    (short : ∀ x ∈ places, (part x).length ≤ 1) :
    (places.flatMap part).length ≤ places.length ∧
      ((places.flatMap part).length < places.length ↔ ∃ x ∈ places, part x = []) := by
  induction places with
  | nil => simp
  | cons head rest ih =>
    obtain ⟨headShort, restShort⟩ := List.forall_mem_cons.1 short
    obtain ⟨bound, fewer⟩ := ih restShort
    have split : (∃ x ∈ head :: rest, part x = []) ↔ part head = [] ∨ ∃ x ∈ rest, part x = [] := by
      simp
    rw [split, ← fewer, ← List.length_eq_zero_iff, List.flatMap_cons, List.length_append,
      List.length_cons]
    omega

/-- While the kinds agree there are fewer candidates than documents exactly if some document does
not declare the name. -/
theorem candidates_length_lt_iff (oneKind : OneKind (sources.map (·.document)) name) :
    (candidates sources name).length < sources.length ↔
      ¬ Everywhere (sources.map (·.document)) name := by
  have short : ∀ s ∈ sources,
      ((s.document.declarationsOf name).map (Candidate.mk s.platform)).length ≤ 1 := by
    intro s member
    have listed : s.document ∈ sources.map (·.document) := List.mem_map_of_mem member
    rw [List.length_map]
    exact declarationsIn_length_le_one _ _ _ _ (oneKind s.document listed s.document listed)
  rw [candidates_eq, (length_flatMap_of_short _ sources short).2]
  simp [Everywhere]

/-- The platforms that `missing` lists, told without candidates. -/
theorem any_candidates (p : Platform) : (candidates sources name).any (·.platform == p) =
    sources.any fun s => s.platform == p && !(s.document.declarationsOf name).isEmpty := by
  rw [candidates_eq, List.any_flatMap]
  congr 1
  funext s
  cases s.document.declarationsOf name <;> simp

/-- Once every document has one declaration, comparing candidates is comparing documents. -/
theorem platforms_differing (base : Decl)
    (single : ∀ s ∈ sources, ∃ decl, s.document.declarationsOf name = [decl]) :
    ((candidates sources name).filter fun c => !c.decl.sameDefinition base).map (·.platform) =
      (sources.filter fun s => s.document.definitionsOf name ≠ [base.definition]).map
        (·.platform) := by
  rw [candidates_eq]
  induction sources with
  | nil => rfl
  | cons head rest ih =>
    obtain ⟨⟨decl, declEq⟩, restSingle⟩ := List.forall_mem_cons.1 single
    rw [List.flatMap_cons, List.filter_append, List.map_append, ih restSingle, List.filter_cons,
      declEq, Document.definitionsOf_of_singleton declEq]
    by_cases same : decl.definition = base.definition
    · have test : decl.sameDefinition base = true := (Decl.sameDefinition_iff _ _).2 same
      simp [test, same]
    · have test : decl.sameDefinition base = false := by
        rw [Bool.eq_false_iff, ne_eq, Decl.sameDefinition_iff]
        exact same
      simp [test, same]

end Candidates

section Stages

variable {sources : List Source} {name : String}

theorem verdict_of_severalKinds (several : ¬ OneKind (sources.map (·.document)) name) :
    verdict sources name = some (.kindMismatch
      (appearances (sources.map (·.document)) name).eraseDups) := by
  have many : ¬ _ ≤ 1 := fun few => several ((kinds_length_le_one_iff _ name).1 few)
  unfold verdict dropReason?
  simp only [kinds_candidates]
  rw [if_pos (Nat.lt_of_not_le many)]

theorem verdict_of_lacking (oneKind : OneKind (sources.map (·.document)) name)
    (lacking : ¬ Everywhere (sources.map (·.document)) name) :
    verdict sources name = some (.missingOnPlatforms ((platforms sources).filter fun p =>
      !sources.any fun s => s.platform == p && !(s.document.declarationsOf name).isEmpty)) := by
  have few := (kinds_length_le_one_iff _ name).2 oneKind
  unfold verdict dropReason?
  simp only [kinds_candidates, any_candidates]
  rw [if_neg (Nat.not_lt.2 few), if_pos ((candidates_length_lt_iff sources name oneKind).2 lacking)]

/-- If no document lacks the name, the verdict compares every document with the first one. -/
theorem verdict_of_everywhere {first : Source} {rest : List Source}
    (oneKind : OneKind ((first :: rest).map (·.document)) name)
    (everywhere : Everywhere ((first :: rest).map (·.document)) name) :
    verdict (first :: rest) name =
      if ∃ s ∈ first :: rest, s.document.definitionsOf name ≠ first.document.definitionsOf name then
        some (.definitionMismatch (((first :: rest).filter fun s =>
          s.document.definitionsOf name ≠ first.document.definitionsOf name).map (·.platform)))
      else none := by
  have few := (kinds_length_le_one_iff _ name).2 oneKind
  have enough : ¬ (candidates (first :: rest) name).length < (first :: rest).length := fun fewer =>
    (candidates_length_lt_iff (first :: rest) name oneKind).1 fewer everywhere
  have single : ∀ s ∈ first :: rest, ∃ decl, s.document.declarationsOf name = [decl] :=
    fun s member => oneKind.declarationsOf_eq (List.mem_map_of_mem member)
      (everywhere s.document (List.mem_map_of_mem member))
  obtain ⟨base, baseEq⟩ := single first List.mem_cons_self
  have split : candidates (first :: rest) name =
      ⟨first.platform, base⟩ :: candidates rest name := by
    simp [candidates_eq, baseEq]
  have listed := platforms_differing (first :: rest) name base single
  rw [← Document.definitionsOf_of_singleton baseEq] at listed
  have nothing : ((candidates (first :: rest) name).filter fun c =>
      !c.decl.sameDefinition base).isEmpty ↔
        ¬ ∃ s ∈ first :: rest,
          s.document.definitionsOf name ≠ first.document.definitionsOf name := by
    rw [← List.isEmpty_map, listed, List.isEmpty_map, List.isEmpty_iff, List.filter_eq_nil_iff]
    simp
  unfold verdict dropReason?
  simp only [kinds_candidates]
  rw [if_neg (Nat.not_lt.2 few), if_neg enough]
  -- The match looks at the first candidate only; the comparison is over all of them again.
  simp only [split]
  rw [← split, listed]
  by_cases differs : ∃ s ∈ first :: rest,
      s.document.definitionsOf name ≠ first.document.definitionsOf name
  · rw [if_pos differs, if_neg fun empty => nothing.1 empty differs]
  · rw [if_neg differs, if_pos (nothing.2 differs)]

end Stages

/-- The judgement of the candidates is a judgement of the documents. -/
theorem verdict_judged (sources : List Source) (name : String) :
    Judged sources name (verdict sources name) := by
  by_cases oneKind : OneKind (sources.map (·.document)) name
  · by_cases everywhere : Everywhere (sources.map (·.document)) name
    · cases sources with
      | nil => exact .shared ⟨everywhere, oneKind, fun _ member => absurd member List.not_mem_nil⟩
      | cons first rest =>
        have compared : (∃ s ∈ first :: rest,
            s.document.definitionsOf name ≠ first.document.definitionsOf name) ↔
              ¬ Agreed ((first :: rest).map (·.document)) name := by
          simpa using differs_iff_not_agreed oneKind everywhere
        rw [verdict_of_everywhere oneKind everywhere]
        split
        · rename_i differs
          exact .differing oneKind everywhere first rest rfl differs
        · rename_i same
          exact .shared (Classical.not_not.1 fun disagreed => same (compared.2 disagreed))
    · rw [verdict_of_lacking oneKind everywhere]
      exact .missing oneKind everywhere
  · rw [verdict_of_severalKinds oneKind]
    exact .severalKinds oneKind

/-- A name is kept if and only if the documents share it. -/
theorem verdict_eq_none_iff (sources : List Source) (name : String) :
    verdict sources name = none ↔ Agreed (sources.map (·.document)) name := by
  have judged := verdict_judged sources name
  generalize verdict sources name = result at judged
  cases judged with
  | severalKinds several =>
    exact iff_of_false (by simp) fun agreed => several agreed.oneKind
  | missing oneKind lacking =>
    exact iff_of_false (by simp) fun agreed => lacking agreed.everywhere
  | differing oneKind everywhere first rest split differs =>
    subst split
    refine iff_of_false (by simp) ((differs_iff_not_agreed oneKind everywhere).1 ?_)
    simpa using differs
  | shared agreed => exact iff_of_true rfl agreed

end Merge

end HeaderBindings
