import HeaderBindings.Artifact.Storage
import HeaderBindings.Proofs.Artifact.Mention

/-!
# Texts that give no storage

Every form in which a text gives an enum its storage has one of four words somewhere before
the name. A text in which these words stand at most at the end of a line therefore gives no
storage to any name (`storage?_eq_none`).
-/

namespace HeaderBindings.Artifact

/-- The words that introduce the storage of an enum. -/
def storageWords : List String :=
  ["enum", "type", "struct", "typedef"]

theorem splitAtWord_eq_some {word : String} {words before after : List Identifier}
    {found : Identifier} (split : splitAtWord word words = some (before, found, after)) :
    words = before ++ found :: after := by
  induction words generalizing before with
  | nil => cases split
  | cons w rest ih =>
    unfold splitAtWord at split
    split at split
    · cases split
      rfl
    · obtain ⟨⟨earlier, _, _⟩, inner, same⟩ := Option.map_eq_some_iff.1 split
      cases same
      rw [ih inner, List.cons_append]

theorem storageWord?_eq_none (above : List (List Char)) {before : List Identifier}
    (found : Identifier) (later : List Identifier)
    (other : ∀ w ∈ before, w.text ∉ storageWords) :
    storageWord? above before found later = none := by
  unfold storageWord?
  cases last : before.getLast? with
  | none => rfl
  | some w =>
    have previous := other w (List.mem_of_getLast? last)
    have first : before.head?.map (·.text) ≠ some "typedef" := by
      intro same
      obtain ⟨v, head, named⟩ := Option.map_eq_some_iff.1 same
      exact other v (List.mem_of_head? head) (named ▸ by decide)
    simp only [storageWords, List.mem_cons, List.not_mem_nil, or_false, not_or] at previous
    obtain ⟨notEnum, notType, notStruct, -⟩ := previous
    simp only [Option.map_some, notEnum, notType, notStruct, first, if_false, false_and]

theorem lineStorage?_eq_none {line : List Char}
    (other : ∀ word ∈ (spellings [] line).dropLast, word ∉ storageWords) (name : String)
    (number : Nat) (above : List (List Char)) : lineStorage? name number above line = none := by
  unfold lineStorage?
  cases split : splitAtWord name (identifiers line) with
  | none => rfl
  | some parts =>
    obtain ⟨before, found, after⟩ := parts
    have words : (spellings [] line).dropLast =
        before.map (·.text) ++ ((found :: after).map (·.text)).dropLast := by
      rw [← map_text_identifiers, splitAtWord_eq_some split, List.map_append, List.map_cons,
        List.dropLast_append_cons]
    have earlier : ∀ w ∈ before, w.text ∉ storageWords := by
      intro w member
      refine other w.text ?_
      rw [words]
      exact List.mem_append_left _ (List.mem_map_of_mem member)
    simp only [Option.bind_eq_bind, Option.bind_some, storageWord?_eq_none above found after earlier,
      Option.bind_none]

theorem storageFrom_eq_none {ls : List (List Char)} (name : String) (number : Nat)
    (above : List (List Char))
    (other : ∀ line ∈ ls, ∀ word ∈ (spellings [] line).dropLast, word ∉ storageWords) :
    storageFrom name number above ls = none := by
  induction ls generalizing number above with
  | nil => rfl
  | cons line rest ih =>
    rw [storageFrom, lineStorage?_eq_none (other line List.mem_cons_self)]
    exact ih _ _ fun next member => other next (List.mem_cons_of_mem line member)

/-- A text gives no storage if no word that introduces storage has another word behind it. -/
theorem storage?_eq_none {text : String} (name : String)
    (other : ∀ line ∈ Text.lines text, ∀ word ∈ (spellings [] line).dropLast,
      word ∉ storageWords) : storage? text name = none :=
  storageFrom_eq_none name 1 [] other

end HeaderBindings.Artifact
