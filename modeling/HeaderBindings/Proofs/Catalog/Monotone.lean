import HeaderBindings.Proofs.Catalog.Division
import HeaderBindings.Proofs.Exclusion.Extra

/-!
# Documents under more exclusions

The document of a platform asks exclusions two things only: whether a name is excluded, and
whether a symbol is covered. Exclusions that answer alike give the same document
(`document_congr`). Further exclusions take declarations away from each of the three maps, change
none of those that stay, and add names to the list of excluded ones (`document_narrows`).
-/

namespace HeaderBindings

/-- Whether a map gives every name the same value as another map or none. -/
def NameMap.Submap {α : Type} (m n : NameMap α) : Prop :=
  ∀ name value, m.find? name = some value → n.find? name = some value

/-- Whether a document declares nothing that another one does not, and excludes all that the other
one excludes. -/
structure Document.Narrows (d e : Document) : Prop where
  enums : d.enums.Submap e.enums
  functions : d.functions.Submap e.functions
  opaqueTypes : d.opaqueTypes.Submap e.opaqueTypes
  excluded : e.excluded ⊆ d.excluded

namespace Catalog

variable (p : Platform) {l m : ExclusionList}

section Within

variable (within : ∀ name, l.excludes name = true → m.excludes name = true)

include within

theorem OwnedFunction.Kept.of_within {f : OwnedFunction} (kept : f.Kept m) : f.Kept l :=
  ⟨ExclusionList.excludes_eq_false_of_within within kept.1,
    ExclusionList.covering?_eq_none_of_within within kept.2.1,
    ExclusionList.excludes_eq_false_of_within within kept.2.2⟩

/-- Further exclusions narrow the document of every platform. -/
theorem document_narrows : (document p m).Narrows (document p l) where
  enums := by
    intro name decl found
    obtain ⟨f, kept, same⟩ := (find?_enums_eq_some_iff p m name decl).1 found
    exact (find?_enums_eq_some_iff p l name decl).2
      ⟨f, ExclusionList.excludes_eq_false_of_within within kept, same⟩
  functions := by
    intro symbol decl found
    obtain ⟨f, member, named, typed, kept⟩ :=
      (find?_functions_eq_some_iff_owned p m symbol decl).1 found
    exact (find?_functions_eq_some_iff_owned p l symbol decl).2
      ⟨f, member, named, typed, kept.of_within within⟩
  opaqueTypes := by
    intro name decl found
    obtain ⟨kept, same⟩ := (find?_opaqueTypes_eq_some_iff p m name decl).1 found
    exact (find?_opaqueTypes_eq_some_iff p l name decl).2
      ⟨ExclusionList.excludes_eq_false_of_within within kept, same⟩
  excluded := by
    intro name listed
    obtain ⟨type, excluded⟩ := (mem_excluded_iff p l name).1 listed
    exact (mem_excluded_iff p m name).2 ⟨type, within name excluded⟩

end Within

/-- Exclusions that exclude and cover alike give the same document. -/
theorem document_congr (excludes : ∀ name, l.excludes name = m.excludes name)
    (covers : ∀ symbol, (l.covering? symbol).isSome = (m.covering? symbol).isSome) :
    document p l = document p m := by
  simp only [document, keptFunctions, keptEntries, withheldEntries, touchesExcluded, excludes, covers]

end Catalog

end HeaderBindings
