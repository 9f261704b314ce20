import HeaderBindings.Command
import HeaderBindings.Proofs.Document.RoundTrip
import HeaderBindings.Proofs.Merge.Outcome

/-!
# Merging files

The merge command reads what it is given and passes over every input that cannot be read,
is no valid document or has no known platform. An input takes part otherwise
(`FileInput.TakesPart`). Only the inputs that take part decide how the command ends and what
it writes: it fails, and writes nothing, if there is none, and writes the merge of their
documents if there is one.
-/

namespace HeaderBindings

open HeaderBindings.File

namespace FileInput

/-- An input that can be read and whose text is accepted as a document. -/
def Holds (i : FileInput) (d : Document) : Prop :=
  ∃ text, i.contents = .ok text ∧ Document.parse text = .ok d

/-- An input that holds a document on a known platform. -/
def TakesPart (i : FileInput) : Prop :=
  ∃ d, i.Holds d ∧ d.platform? ≠ none

theorem readDocument_eq_ok_iff (i : FileInput) (d : Document) :
    readDocument i.contents = .ok d ↔ i.Holds d := by
  unfold readDocument Holds
  cases contents : i.contents with
  | error fault => simp
  | ok text => simp

/-- An input takes part if it survives all four ways of being passed over. -/
theorem takesPart_iff (i : FileInput) : i.TakesPart ↔
    (readDocument i.contents).toOption.any (fun d => !d.isUnknownPlatform) = true := by
  unfold TakesPart
  simp only [← readDocument_eq_ok_iff]
  cases readDocument i.contents with
  | error e => simp [Except.toOption]
  | ok d => simp [Except.toOption, d.platform?_eq_none_iff]

instance (i : FileInput) : Decidable i.TakesPart :=
  decidable_of_iff _ i.takesPart_iff.symm

end FileInput

namespace Merge

/-- A merge sees the merged documents only. -/
theorem merge_congr {documents others : List Document} (same : merged documents = merged others) :
    merge documents = merge others := by
  rw [merge, merge, sources_eq, same, ← sources_eq]

/-- The merged documents are those of the inputs that take part. -/
theorem merged_acceptedDocuments (inputs : List FileInput) : merged (acceptedDocuments inputs) =
    acceptedDocuments (inputs.filter fun i => i.TakesPart) := by
  induction inputs with
  | nil => rfl
  | cons i rest ih =>
    have part := i.takesPart_iff
    unfold acceptedDocuments merged at ih ⊢
    cases read : readDocument i.contents with
    | error e =>
      rw [read] at part
      simpa [read, part, Except.toOption] using ih
    | ok d =>
      rw [read] at part
      by_cases unknown : d.isUnknownPlatform
      · simpa [read, part, unknown, Except.toOption] using ih
      · simpa [read, part, unknown, Except.toOption] using ih

end Merge

/-- What a run that started with the tree `t` has written: nothing, a line of output, or the file of
a path. -/
def Writes (t : FileTree) (path text : Option String) (run : Outcome × FileTree) : Prop :=
  match text, path with
  | none, _ => run.1.output = "" ∧ run.2 = t
  | some text, none => run.1.output = text ++ "\n" ∧ run.2 = t
  | some text, some path => run.1.output = "" ∧ run.2 = (t.save path text).1

/-- Runs that write the same text leave the same output and the same tree. -/
theorem Writes.unique {t : FileTree} {path text : Option String} {run other : Outcome × FileTree}
    (left : Writes t path text run) (right : Writes t path text other) :
    run.1.output = other.1.output ∧ run.2 = other.2 := by
  cases text with
  | none => exact ⟨left.1.trans right.1.symm, left.2.trans right.2.symm⟩
  | some text =>
    cases path with
    | none => exact ⟨left.1.trans right.1.symm, left.2.trans right.2.symm⟩
    | some path => exact ⟨left.1.trans right.1.symm, left.2.trans right.2.symm⟩

section Run

variable {inputs : List FileInput} {output : Option String} {t : FileTree}

variable (output t) in
/-- The command fails and writes nothing if the accepted documents cannot be merged. -/
theorem writes_mergeCommand_of_error {e : Error}
    (failed : merge (acceptedDocuments inputs) = .error e) :
    ((mergeCommand inputs output).carryOut t).1.exitCode = 1 ∧
      Writes t output none ((mergeCommand inputs output).carryOut t) := by
  simp only [mergeCommand, failed]
  exact ⟨rfl, rfl, rfl⟩

variable (writable : ∀ path ∈ output, ∀ text, (t.save path text).2 = .ok ())
include writable

theorem writes_deliver (text : String) (log : List Log.Record) :
    ((Outcome.deliver text output log).carryOut t).1.exitCode = 0 ∧
      Writes t output (some text) ((Outcome.deliver text output log).carryOut t) := by
  cases output with
  | none => exact ⟨rfl, rfl, rfl⟩
  | some path =>
    have saved := writable path rfl text
    simp [Outcome.deliver, Outcome.carryOut, Outcome.afterSaving, Writes, saved]

/-- The command writes the merge of the accepted documents, if they can be merged. -/
theorem writes_mergeCommand_of_ok {result : MergeOutcome}
    (success : merge (acceptedDocuments inputs) = .ok result) :
    ((mergeCommand inputs output).carryOut t).1.exitCode = 0 ∧
      Writes t output (some result.document.render) ((mergeCommand inputs output).carryOut t) := by
  simp only [mergeCommand, success]
  exact writes_deliver writable _ _

/-- Nothing but the merge of the accepted documents decides how the command ends. -/
theorem mergeCommand_congr {others : List FileInput}
    (same : merge (acceptedDocuments others) = merge (acceptedDocuments inputs)) :
    ((mergeCommand others output).carryOut t).1.exitCode =
        ((mergeCommand inputs output).carryOut t).1.exitCode ∧
      ((mergeCommand others output).carryOut t).1.output =
        ((mergeCommand inputs output).carryOut t).1.output ∧
      ((mergeCommand others output).carryOut t).2 =
        ((mergeCommand inputs output).carryOut t).2 := by
  cases merges : merge (acceptedDocuments inputs) with
  | error e =>
    obtain ⟨code, written⟩ := writes_mergeCommand_of_error output t merges
    obtain ⟨otherCode, otherWritten⟩ :=
      writes_mergeCommand_of_error output t (same.trans merges)
    exact ⟨otherCode.trans code.symm, otherWritten.unique written⟩
  | ok result =>
    obtain ⟨code, written⟩ := writes_mergeCommand_of_ok writable merges
    obtain ⟨otherCode, otherWritten⟩ := writes_mergeCommand_of_ok writable (same.trans merges)
    exact ⟨otherCode.trans code.symm, otherWritten.unique written⟩

end Run

/-- The accepted documents can be merged if and only if some input takes part. -/
theorem merged_acceptedDocuments_ne_nil_iff (inputs : List FileInput) :
    Merge.merged (acceptedDocuments inputs) ≠ [] ↔ ∃ i ∈ inputs, i.TakesPart := by
  rw [Merge.merged_acceptedDocuments]
  constructor
  · intro nonempty
    obtain ⟨d, member⟩ := List.exists_mem_of_ne_nil _ nonempty
    obtain ⟨i, kept, -⟩ := List.mem_filterMap.1 member
    exact ⟨i, (List.mem_filter.1 kept).1, by simpa using (List.mem_filter.1 kept).2⟩
  · rintro ⟨i, member, d, holds, known⟩
    have kept : i ∈ inputs.filter fun i => i.TakesPart := by
      rw [List.mem_filter, decide_eq_true_eq]
      exact ⟨member, d, holds, known⟩
    have accepted : (readDocument i.contents).toOption = some d := by
      rw [(i.readDocument_eq_ok_iff d).2 holds]
      rfl
    exact List.ne_nil_of_mem (List.mem_filterMap.2 ⟨i, kept, accepted⟩)

/-- The merge command tolerates bad inputs anywhere. Where its file can be written, it succeeds if
and only if some input takes part, and then writes the merge of the accepted documents in the order
of the inputs; otherwise it fails and writes nothing. Two lists of inputs that differ only in inputs
that take no part lead to the same end and the same text. -/
theorem mergeCommand_tolerates_bad_inputs (inputs : List FileInput) (output : Option String)
    (t : FileTree) (writable : ∀ path ∈ output, ∀ text, (t.save path text).2 = .ok ()) :
    let run := fun inputs : List FileInput => (mergeCommand inputs output).carryOut t
    (if ∃ i ∈ inputs, i.TakesPart then
      ∃ result, merge (acceptedDocuments inputs) = .ok result ∧ (run inputs).1.exitCode = 0 ∧
        Writes t output (some result.document.render) (run inputs)
    else (run inputs).1.exitCode = 1 ∧ Writes t output none (run inputs)) ∧
    ∀ others : List FileInput,
      (others.filter fun i => i.TakesPart) = (inputs.filter fun i => i.TakesPart) →
      (run others).1.exitCode = (run inputs).1.exitCode ∧
        (run others).1.output = (run inputs).1.output ∧ (run others).2 = (run inputs).2 := by
  intro run
  refine ⟨?_, fun others same => mergeCommand_congr writable ?_⟩
  · split
    · rename_i present
      have success := Merge.merge_eq_ok ((merged_acceptedDocuments_ne_nil_iff inputs).2 present)
      exact ⟨_, success, writes_mergeCommand_of_ok writable success⟩
    · rename_i absent
      have empty : Merge.merged (acceptedDocuments inputs) = [] := by
        simpa using mt (merged_acceptedDocuments_ne_nil_iff inputs).1 absent
      have failed := Merge.merge_eq (acceptedDocuments inputs)
      rw [if_pos empty] at failed
      exact writes_mergeCommand_of_error output t failed
  · apply Merge.merge_congr
    rw [Merge.merged_acceptedDocuments, Merge.merged_acceptedDocuments, same]

/-- One input takes part among others that cannot be read, are no JSON or have no platform. -/
theorem mergeCommand_tolerates_samples :
    let linux : FileInput := ⟨"linux.json", .ok linuxSample.render⟩
    let inputs : List FileInput := [⟨"missing.json", .error .notFound⟩, linux,
      ⟨"corrupt.json", .ok "\x7b not json"⟩, ⟨"blank.json", .ok "[]"⟩]
    let run := fun inputs : List FileInput =>
      (mergeCommand inputs (some "merged.json")).carryOut (.startingIn ["work"])
    ∃ result, merge [linuxSample] = .ok result ∧ (run inputs).1.exitCode = 0 ∧
      (run inputs).2 =
        (FileTree.save (.startingIn ["work"]) "merged.json" result.document.render).1 := by
  intro linux inputs run
  have writable : ∀ path ∈ some "merged.json", ∀ text,
      (FileTree.save (.startingIn ["work"]) path text).2 = .ok () := by
    rintro _ ⟨⟩ text
    rfl
  have parsed : Document.parse linuxSample.render = .ok linuxSample := by
    rw [Document.parse, Document.decode_render]
    rfl
  have holds : linux.Holds linuxSample := ⟨_, rfl, parsed⟩
  have accepted : ∀ i : FileInput, i.Holds linuxSample → acceptedDocuments [i] = [linuxSample] := by
    intro i held
    simp only [acceptedDocuments, List.filterMap_cons, (i.readDocument_eq_ok_iff _).2 held]
    rfl
  have part : linux.TakesPart := ⟨linuxSample, holds, by decide⟩
  have missing : ¬ FileInput.TakesPart ⟨"missing.json", .error .notFound⟩ := by decide
  have corrupt : ¬ FileInput.TakesPart ⟨"corrupt.json", .ok "\x7b not json"⟩ := by decide +kernel
  have blank : ¬ FileInput.TakesPart ⟨"blank.json", .ok "[]"⟩ := by decide +kernel
  obtain ⟨ends, tolerates⟩ := mergeCommand_tolerates_bad_inputs [linux] _ _ writable
  rw [if_pos ⟨linux, List.mem_cons_self, part⟩] at ends
  obtain ⟨result, success, code, -, tree⟩ := ends
  rw [accepted linux holds] at success
  obtain ⟨sameCode, -, sameTree⟩ :=
    tolerates inputs (by simp [inputs, part, missing, corrupt, blank])
  exact ⟨result, success, sameCode.trans code, sameTree.trans tree⟩

end HeaderBindings
