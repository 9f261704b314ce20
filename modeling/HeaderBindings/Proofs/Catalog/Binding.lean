import HeaderBindings.Proofs.Artifact.Storage
import HeaderBindings.Proofs.Verification

/-!
# Bindings of the built-in document

A binding that names every declaration of the built-in document on a line of its own, as a
function without arguments, passes verification against this document, whatever the platform,
the exclusions and the options are. Making the document and verifying a binding therefore
never contradict each other, although the first withholds declarations by their names and
functions by their symbols and types, and the second refuses every covered symbol.
-/

namespace HeaderBindings

open HeaderBindings.Artifact HeaderBindings.Text HeaderBindings.Verification

/-- The line that binds a name. -/
def bindingLine (name : String) : List Char :=
  ("pub fn " ++ name ++ "();").toList

/-- The text that binds names, one on each line. -/
def bindingText (names : List String) : String :=
  String.ofList (names.flatMap fun name => bindingLine name ++ ['\n'])

/-- Whether the lines of a text are those that bind the given names, in any order. -/
def Binds (text : String) (names : List String) : Prop :=
  ∀ line, line ∈ lines text ↔ ∃ name ∈ names, line = bindingLine name

theorem bindingLine_eq (name : String) : bindingLine name =
    "pub".toList ++ ' ' :: ("fn".toList ++ ' ' :: (name.toList ++ '(' :: ");".toList)) := by
  simp [bindingLine]

theorem spellings_bindingLine {name : String} (identifier : IsIdentifier name) :
    spellings [] (bindingLine name) = ["pub", "fn", name] := by
  have blank : isWordChar ' ' = false := by decide
  have bracket : isWordChar '(' = false := by decide
  rw [bindingLine_eq, spellings_append_separator blank, spellings_append_separator blank,
    spellings_append_separator bracket, identifier.spellings_eq,
    IsIdentifier.spellings_eq (by decide), IsIdentifier.spellings_eq (by decide)]
  rfl

theorem linesFrom_append {line : List Char} (pending rest : List Char) (whole : '\n' ∉ line) :
    linesFrom pending (line ++ '\n' :: rest) =
      (dropReturn (line.reverse ++ pending)).reverse :: linesFrom [] rest := by
  induction line generalizing pending with
  | nil => simp [linesFrom]
  | cons c line ih =>
    have here : '\n' ≠ c := List.ne_of_not_mem_cons whole
    have later := List.not_mem_of_not_mem_cons whole
    rw [List.cons_append, linesFrom, if_neg (Ne.symm here), ih _ later, List.reverse_cons,
      List.append_assoc, List.singleton_append]

theorem lines_bindingText {names : List String} (identifiers : ∀ name ∈ names, IsIdentifier name) :
    lines (bindingText names) = names.map bindingLine := by
  rw [lines, bindingText, String.toList_ofList]
  induction names with
  | nil => rfl
  | cons name rest ih =>
    have letters := (identifiers name List.mem_cons_self).1
    have whole : '\n' ∉ bindingLine name := by
      intro member
      have inside : '\n' ∈ name.toList := by simpa [bindingLine] using member
      exact absurd (letters _ inside) (by decide)
    have last : (bindingLine name).reverse = ';' :: (bindingLine name).reverse.tail := by
      simp [bindingLine]
    rw [List.flatMap_cons, List.append_assoc, List.singleton_append, linesFrom_append [] _ whole,
      ih fun other member => identifiers other (List.mem_cons_of_mem name member), List.append_nil,
      List.map_cons, last, dropReturn, ← last, List.reverse_reverse]
    simp

theorem binds_bindingText {names : List String}
    (identifiers : ∀ name ∈ names, IsIdentifier name) : Binds (bindingText names) names := by
  intro line
  rw [lines_bindingText identifiers, List.mem_map]
  simp only [eq_comm]

section Binds

variable {text : String} {names : List String} (binds : Binds text names)
  (identifiers : ∀ name ∈ names, IsIdentifier name)

include binds identifiers

theorem mentions_of_binds {name : String} (member : name ∈ names) : Mentions text name := by
  rw [mentions_iff_exists_line]
  refine ⟨bindingLine name, (binds _).2 ⟨name, member, rfl⟩, ?_⟩
  rw [spellings_bindingLine (identifiers name member)]
  simp

theorem of_mentions_of_binds {word : String} (mentioned : Mentions text word) :
    word = "pub" ∨ word = "fn" ∨ word ∈ names := by
  obtain ⟨line, listed, inside⟩ := (mentions_iff_exists_line text word).1 mentioned
  obtain ⟨name, member, rfl⟩ := (binds line).1 listed
  rw [spellings_bindingLine (identifiers name member)] at inside
  simp only [List.mem_cons, List.not_mem_nil, or_false] at inside
  rcases inside with rfl | rfl | rfl
  · exact .inl rfl
  · exact .inr (.inl rfl)
  · exact .inr (.inr member)

theorem storage?_eq_none_of_binds (name : String) : storage? text name = none := by
  refine storage?_eq_none name fun line listed => ?_
  obtain ⟨bound, member, rfl⟩ := (binds line).1 listed
  rw [spellings_bindingLine (identifiers bound member)]
  simp [storageWords]

end Binds

namespace Catalog

theorem declaredWidth_eq_nil (f : Family) : declaredWidth f.name (entryOf f).enumDecl = [] := by
  have table : ∀ f ∈ Family.all, declaredWidth f.name (entryOf f).enumDecl = [] := by decide
  exact table f f.mem_all

/-- The built-in enums are wide enough, and stay so where a text gives them no storage. -/
theorem narrowEnums_eq_nil (p : Platform) (x : ExclusionList) (o : VerifyOptions) {text : String}
    (unstored : ∀ name, storage? text name = none) : narrowEnums o text (document p x) = [] := by
  rw [narrowEnums, List.flatMap_eq_nil_iff]
  rintro ⟨name, decl⟩ member
  obtain ⟨f, -, rfl, rfl⟩ :=
    (find?_enums_eq_some_iff p x name decl).1 ((NameMap.mem_entries_iff _ name decl).1 member)
  rw [declaredWidth_eq_nil, storedWidth, unstored]
  exact ite_self _

end Catalog

/-- No exclusion covers a name of the built-in document, and every text that binds these names
passes verification against the document, as long as the words of the binding itself are not
excluded. -/
theorem catalog_bindings_are_clean (p : Platform) (o : VerifyOptions)
    (pubKept : o.exclusions.excludes "pub" = false) (fnKept : o.exclusions.excludes "fn" = false) :
    (∀ name ∈ (Catalog.document p o.exclusions).declaredNames,
      ∀ e ∈ o.exclusions.rules, e.covers name = false) ∧
    ∀ artifact text, Binds text (Catalog.document p o.exclusions).declaredNames →
      (verify artifact text (Catalog.document p o.exclusions) o).anomalies = [] := by
  have identifiers : ∀ name ∈ (Catalog.document p o.exclusions).declaredNames, IsIdentifier name :=
    fun _ declared => Catalog.isIdentifier_of_mem_declaredNames p o.exclusions declared
  have uncovered : ∀ name ∈ (Catalog.document p o.exclusions).declaredNames,
      ∀ e ∈ o.exclusions.rules, e.covers name = false :=
    fun _ declared => Catalog.not_covered p o.exclusions declared
  refine ⟨uncovered, fun artifact text binds => ?_⟩
  refine anomalies_eq_nil artifact text _ o (fun symbol mentioned => ?_)
    (Catalog.narrowEnums_eq_nil p o.exclusions o (storage?_eq_none_of_binds binds identifiers))
    (fun name declared _ => mentions_of_binds binds identifiers declared)
  refine excludedBy?_eq_none o ?_
  rcases of_mentions_of_binds binds identifiers mentioned with rfl | rfl | declared
  · exact ExclusionList.covers_eq_false_of_plain (by decide) pubKept
  · exact ExclusionList.covers_eq_false_of_plain (by decide) fnKept
  · exact uncovered symbol declared

theorem catalog_bindings_are_clean_on_windows :
    let o : VerifyOptions := ⟨.withExtra ["Enum_Force_SInt8", "enum"], true, true⟩
    let d := Catalog.document .windows o.exclusions
    (verify "bindings.rs" (bindingText d.declaredNames) d o).anomalies = [] := by
  intro o d
  have identifiers : ∀ name ∈ d.declaredNames, IsIdentifier name :=
    fun _ declared => Catalog.isIdentifier_of_mem_declaredNames .windows o.exclusions declared
  exact (catalog_bindings_are_clean .windows o (by decide) (by decide)).2 "bindings.rs" _
    (binds_bindingText identifiers)

end HeaderBindings
