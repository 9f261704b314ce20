import HeaderBindings.Proofs.Artifact.LineEnd
import HeaderBindings.Proofs.Verification.Findings
import Mathlib.Data.List.Flatten

/-!
# Texts that go on

When a text goes on behind a line feed, what was found in it stays found
(`verify_continued`). Its lines stay the first ones, up to blanks at their ends
(`isPrefix_trimmedLines`), so its words keep their lines and all new words stand on later ones
(`firstLines_continues`), and the storage that it gives a name is still the first
(`storage?_continued`). Only declarations that were missing can stop being reported.
-/

namespace HeaderBindings

open HeaderBindings.Artifact HeaderBindings.Text

namespace Text

theorem isPrefix_map_trimEnd_linesFrom (pending cs rest : List Char) :
    (linesFrom pending cs).map trimEnd <+:
      (linesFrom pending (cs ++ '\n' :: rest)).map trimEnd := by
  induction cs generalizing pending with
  | nil =>
    rw [List.nil_append, linesFrom, linesFrom, if_pos rfl]
    split
    · exact List.nil_prefix
    · -- The last line may lose a carriage return when a line feed follows it.
      rw [List.map_cons, List.map_cons, trimEnd_dropReturn, List.prefix_cons_inj]
      exact List.nil_prefix
  | cons c cs ih =>
    rw [List.cons_append, linesFrom, linesFrom]
    split
    · rw [List.map_cons, List.map_cons, List.prefix_cons_inj]
      exact ih []
    · exact ih _

theorem isPrefix_trimmedLines (text more : String) :
    trimmedLines text <+: trimmedLines (text ++ "\n" ++ more) := by
  have split : (text ++ "\n" ++ more).toList = text.toList ++ '\n' :: more.toList := by
    simp [String.toList_append]
  rw [trimmedLines, trimmedLines, lines, lines, split]
  exact isPrefix_map_trimEnd_linesFrom [] text.toList more.toList

end Text

namespace Artifact

theorem numberedFrom_append (number : Nat) (ls rest : List (List Char)) :
    numberedFrom number (ls ++ rest) =
      numberedFrom number ls ++ numberedFrom (number + ls.length) rest := by
  induction ls generalizing number with
  | nil => rfl
  | cons line ls ih =>
    rw [List.cons_append, numberedFrom, numberedFrom, ih, List.append_assoc, List.length_cons,
      Nat.add_assoc, Nat.add_comm 1]

/-- The numbers of words are those of their lines. -/
theorem number_of_mem_numberedFrom {number : Nat} {ls : List (List Char)} {e : String × Nat}
    (member : e ∈ numberedFrom number ls) : number ≤ e.2 ∧ e.2 < number + ls.length := by
  induction ls generalizing number with
  | nil => cases member
  | cons line ls ih =>
    rw [List.length_cons]
    rcases List.mem_append.1 member with here | later
    · obtain ⟨w, -, rfl⟩ := List.mem_map.1 here
      dsimp only
      omega
    · have bounds := ih later
      omega

/-- Whether a scan adds to another one: the words keep their lines, and each new word stands on a
line behind all of these. -/
structure ScanContinues (found longer : NameMap Nat) : Prop where
  kept : ∀ word line, found.find? word = some line → longer.find? word = some line
  behind : ∀ word line, longer.find? word = some line → found.find? word = none →
    ∀ other earlier, found.find? other = some earlier → earlier < line

theorem firstLines_continues (text more : String) :
    ScanContinues (firstLines text) (firstLines (text ++ "\n" ++ more)) := by
  obtain ⟨rest, split⟩ := isPrefix_trimmedLines text more
  let known := numberedFrom 1 (trimmedLines text)
  let added := numberedFrom (1 + (trimmedLines text).length) rest
  have scan : ∀ word, (firstLines text).find? word = known.lookup word := by
    intro word
    rw [firstLines_eq_trimmed, NameMap.find?_ofListFirst]
  have longer : ∀ word, (firstLines (text ++ "\n" ++ more)).find? word =
      (known.lookup word).or (added.lookup word) := by
    intro word
    rw [firstLines_eq_trimmed, ← split, NameMap.find?_ofListFirst, numberedFrom_append,
      List.lookup_append]
  constructor
  · intro word line found
    rw [longer, ← scan, found, Option.some_or]
  · intro word line found new other earlier before
    rw [longer, ← scan, new, Option.none_or] at found
    rw [scan] at before
    have upper := (number_of_mem_numberedFrom (mem_of_lookup_eq_some before)).2
    have lower := (number_of_mem_numberedFrom (mem_of_lookup_eq_some found)).1
    exact Nat.lt_of_lt_of_le upper lower

theorem storage?_continued {text name : String} {s : Storage} (found : storage? text name = some s)
    (more : String) : storage? (text ++ "\n" ++ more) name = some s := by
  obtain ⟨rest, split⟩ := isPrefix_trimmedLines text more
  rw [storage?_eq_trimmed] at found
  rw [storage?_eq_trimmed, ← split, storageFrom_append, found, Option.some_or]

end Artifact

namespace Report

/-- The findings of one kind, in their order. -/
def findings (r : Report) (kind : AnomalyKind) : List Anomaly :=
  r.anomalies.filter (·.kind == kind)

/-- Whether a report adds to another one. -/
structure AddsTo (longer r : Report) : Prop where
  /-- The excluded symbols of the other report are the first ones. -/
  excluded : r.findings .excludedDeclaration <+: longer.findings .excludedDeclaration
  /-- What is missing was missing in the other report. -/
  missing : (longer.findings .missingDeclaration).Sublist (r.findings .missingDeclaration)
  /-- All findings but missing declarations stay, in their order. -/
  kept : ∀ kind, kind ≠ .missingDeclaration → (r.findings kind).Sublist (longer.findings kind)

end Report

namespace Verification

section Kinds

variable (artifact text : String) (d : Document) (o : VerifyOptions)

theorem filter_kind_eq_self {kind : AnomalyKind} {anomalies : List Anomaly}
    (same : ∀ a ∈ anomalies, a.kind = kind) : anomalies.filter (·.kind == kind) = anomalies := by
  rw [List.filter_eq_self]
  exact fun a member => beq_iff_eq.2 (same a member)

theorem filter_kind_eq_nil {kind : AnomalyKind} {anomalies : List Anomaly}
    (other : ∀ a ∈ anomalies, a.kind ≠ kind) : anomalies.filter (·.kind == kind) = [] := by
  rw [List.filter_eq_nil_iff]
  exact fun a member same => other a member (beq_iff_eq.1 same)

theorem findings_eq (kind : AnomalyKind) : (verify artifact text d o).findings kind =
    (excludedSymbols o (firstLines text)).filter (·.kind == kind) ++
      (narrowEnums o text d).filter (·.kind == kind) ++
      (missingDeclarations o (firstLines text) d).filter (·.kind == kind) := by
  rw [Report.findings, verify, List.filter_append, List.filter_append]

theorem findings_of_ne_missing {kind : AnomalyKind} (different : kind ≠ .missingDeclaration) :
    (verify artifact text d o).findings kind =
      (excludedSymbols o (firstLines text)).filter (·.kind == kind) ++
        (narrowEnums o text d).filter (·.kind == kind) := by
  have none : ∀ a ∈ missingDeclarations o (firstLines text) d, a.kind ≠ kind :=
    fun a member => kind_of_mem_missingDeclarations d o member ▸ Ne.symm different
  rw [findings_eq, filter_kind_eq_nil none, List.append_nil]

theorem findings_excluded : (verify artifact text d o).findings .excludedDeclaration =
    excludedSymbols o (firstLines text) := by
  have none : ∀ a ∈ narrowEnums o text d, a.kind ≠ .excludedDeclaration :=
    fun a member => (kind_ne_of_mem_narrowEnums text d o member).1
  rw [findings_of_ne_missing artifact text d o (by decide), filter_kind_eq_nil none,
    List.append_nil]
  exact filter_kind_eq_self fun a member => kind_of_mem_excludedSymbols o member

theorem findings_missing : (verify artifact text d o).findings .missingDeclaration =
    missingDeclarations o (firstLines text) d := by
  have excluded : ∀ a ∈ excludedSymbols o (firstLines text), a.kind ≠ .missingDeclaration := by
    intro a member
    rw [kind_of_mem_excludedSymbols o member]
    decide
  have narrow : ∀ a ∈ narrowEnums o text d, a.kind ≠ .missingDeclaration :=
    fun a member => (kind_ne_of_mem_narrowEnums text d o member).2
  rw [findings_eq, filter_kind_eq_nil excluded, filter_kind_eq_nil narrow, List.append_nil,
    List.nil_append]
  exact filter_kind_eq_self fun a member => kind_of_mem_missingDeclarations d o member

end Kinds

section Continued

variable (d : Document) (o : VerifyOptions)

/-- The words of a scan that goes on are visited first, in the same order. -/
theorem isPrefix_visits {found longer : NameMap Nat} (continues : ScanContinues found longer) :
    found.entries.mergeSort visitedBefore <+: longer.entries.mergeSort visitedBefore := by
  have sorted := mergeSort_visitedBefore_sorted longer
  let added := (longer.entries.mergeSort visitedBefore).filter fun e => (found.find? e.1).isNone
  refine ⟨added, eq_of_increasing ?_ ?_ sorted ?_⟩
  · rintro a b (line | ⟨line, below⟩) (other | ⟨same, above⟩)
    · omega
    · omega
    · omega
    · exact String.lt_asymm below above
  · refine List.pairwise_append.2 ⟨mergeSort_visitedBefore_sorted found, sorted.filter _, ?_⟩
    rintro ⟨word, line⟩ known ⟨other, number⟩ new
    rw [List.mem_mergeSort, NameMap.mem_entries_iff] at known
    rw [List.mem_filter, List.mem_mergeSort, NameMap.mem_entries_iff, Option.isNone_iff_eq_none]
      at new
    exact .inl (continues.behind other number new.1 new.2 word line known)
  · rintro ⟨word, line⟩
    rw [List.mem_append, List.mem_filter, List.mem_mergeSort, List.mem_mergeSort,
      NameMap.mem_entries_iff, NameMap.mem_entries_iff, Option.isNone_iff_eq_none]
    constructor
    · rintro (known | new)
      · exact continues.kept word line known
      · exact new.1
    · intro listed
      cases known : found.find? word with
      | none => exact .inr ⟨listed, rfl⟩
      | some number =>
        rw [continues.kept word number known] at listed
        exact .inl listed

theorem missingDeclarations_sublist {found longer : NameMap Nat}
    (continues : ScanContinues found longer) :
    (missingDeclarations o longer d).Sublist (missingDeclarations o found d) := by
  have present : ∀ name, found.contains name = true → longer.contains name = true := by
    intro name
    rw [NameMap.contains_eq_isSome, NameMap.contains_eq_isSome, Option.isSome_iff_exists,
      Option.isSome_iff_exists]
    exact fun ⟨line, known⟩ => ⟨line, continues.kept name line known⟩
  unfold missingDeclarations
  split
  · refine (List.monotone_filter_right _ fun name missing => ?_).map _
    rw [Bool.and_eq_true, Bool.not_eq_true', Bool.not_eq_true'] at missing ⊢
    refine ⟨missing.1, Bool.eq_false_iff.2 fun known => ?_⟩
    exact absurd (present name known) (Bool.eq_false_iff.1 missing.2)
  · exact List.Sublist.refl _

theorem storedWidth_continued {text name : String} {s : Storage}
    (found : storage? text name = some s) (more : String) (decl : EnumDecl) :
    storedWidth (text ++ "\n" ++ more) name decl = storedWidth text name decl := by
  rw [storedWidth, storedWidth, storage?_continued found, found]

theorem narrowEnums_sublist (text more : String) :
    (narrowEnums o text d).Sublist (narrowEnums o (text ++ "\n" ++ more) d) := by
  refine List.Sublist.flatMap_right _ fun e _ => (List.Sublist.refl _).append ?_
  split
  · exact List.Sublist.refl _
  · cases found : storage? text e.1 with
    | none =>
      have nothing : storedWidth text e.1 e.2 = [] := by rw [storedWidth, found]
      rw [nothing]
      exact List.nil_sublist _
    | some s => rw [storedWidth_continued found]

theorem verify_addsTo (artifact text more : String) :
    (verify artifact (text ++ "\n" ++ more) d o).AddsTo (verify artifact text d o) := by
  have continues := firstLines_continues text more
  have leading : excludedSymbols o (firstLines text) <+:
      excludedSymbols o (firstLines (text ++ "\n" ++ more)) :=
    (isPrefix_visits continues).filterMap _
  constructor
  · rw [findings_excluded, findings_excluded]
    exact leading
  · rw [findings_missing, findings_missing]
    exact missingDeclarations_sublist d o continues
  · intro kind different
    rw [findings_of_ne_missing _ _ d o different, findings_of_ne_missing _ _ d o different]
    exact (leading.sublist.filter _).append ((narrowEnums_sublist d o text more).filter _)

end Continued

end Verification

/-- A text that goes on behind a line feed keeps what was found in it: its excluded symbols are
reported first, no declaration gets missing, the other findings stay, and so does the storage of
every name with the values that do not fit it. -/
theorem verify_continued (artifact text more : String) (d : Document) (o : VerifyOptions) :
    let longer := text ++ "\n" ++ more
    (verify artifact longer d o).AddsTo (verify artifact text d o) ∧
      ∀ name s, storage? text name = some s → storage? longer name = some s ∧
        ∀ decl, Verification.storedWidth longer name decl =
          Verification.storedWidth text name decl := by
  intro longer
  refine ⟨Verification.verify_addsTo d o artifact text more, fun name s found => ?_⟩
  exact ⟨storage?_continued found more, Verification.storedWidth_continued found more⟩

/-- A carriage return at the end of the text belongs to the line end that follows, and another
declaration of the name behind it changes nothing. -/
theorem verify_continued_samples :
    let d := Catalog.document .linux (.withExtra [])
    let o : VerifyOptions := ⟨.withExtra [], true, true⟩
    let text := "enum Mode : byte\r"
    let longer := text ++ "\n" ++ "enum Mode : int"
    storage? text "Mode" = some ⟨⟨.w8, false⟩, "byte", 1⟩ ∧
      storage? longer "Mode" = some ⟨⟨.w8, false⟩, "byte", 1⟩ ∧
      (verify "Modes.cs" longer d o).AddsTo (verify "Modes.cs" text d o) := by
  intro d o text longer
  have found : storage? text "Mode" = some ⟨⟨.w8, false⟩, "byte", 1⟩ := by decide
  obtain ⟨adds, kept⟩ := verify_continued "Modes.cs" text "enum Mode : int" d o
  exact ⟨found, (kept "Mode" _ found).1, adds⟩

end HeaderBindings
