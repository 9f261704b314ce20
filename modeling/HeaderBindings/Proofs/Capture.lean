import HeaderBindings.Proofs.Export

/-!
# Captured lines

Whatever is done with a capture, no line is lost, written twice or moved: the lines that have been
taken and the lines that are still held are, in order, those that were emitted and the decimal texts
of the printed values that the storage of their export has (`capture_keeps_every_line`).

The invariant of one operation is `step_keeps_lines`: what it hands out and what it leaves is what
was held and the line that the operation adds. The invariant of a run follows by induction on the
operations.
-/

namespace HeaderBindings

/-- Whether the storage of an export has an integer. The storage is that of the enum whose name the
export has. -/
def Export.stores (e : Export) (v : Int) : Bool :=
  (Family.ofName? e.name).any fun f => Word.InRange f.storage.bits f.storage.signed v

theorem Family.stores_exported (f : Family) (v : Int) :
    f.exported.stores v = f.integerType.holds v := by
  have stored : f.exported.stores v = decide (Word.InRange f.storage.bits f.storage.signed v) := by
    rw [Export.stores, exported, ofName?_name, Option.any_some]
  rw [stored, Bool.eq_iff_iff, decide_eq_true_iff, f.holds_iff_inRange]

namespace Capture

/-- The lines that an answer hands out. -/
def Answer.lines : Answer → List String
  | .taken lines => lines
  | _ => []

/-- The line that an operation adds, if it adds one. -/
def Step.line? : Step → Option String
  | .emit line => some line
  | .take => none
  | .print e v => if e.stores v then some (Decimal.ofInt v) else none

/-- Printing adds a line if the value is stored, and does nothing otherwise. -/
theorem step_print (c : Capture) {e : Export} (exported : e ∈ Export.all) (v : Int) :
    c.step (.print e v) =
      if e.stores v then (.printed true, c.emit (Decimal.ofInt v)) else (.printed false, c) := by
  obtain ⟨f, rfl⟩ := (Export.mem_all_iff e).1 exported
  rw [step, f.capture_print_exported, f.stores_exported]
  cases f.integerType.holds v with
  | true => rfl
  | false => rfl

/-- What one operation hands out and leaves is what was held and the line that it adds. -/
theorem step_keeps_lines (c : Capture) (s : Step)
    (exported : ∀ e v, s = .print e v → e ∈ Export.all) :
    (c.step s).1.lines ++ (c.step s).2.held = c.held ++ s.line?.toList := by
  cases s with
  | emit line => simp [step, Answer.lines, Capture.emit, Step.line?]
  | take => simp [step, Answer.lines, Capture.take, Capture.empty, Step.line?]
  | print e v =>
    rw [c.step_print (exported e v rfl)]
    cases stored : e.stores v with
    | true => simp [Answer.lines, Capture.emit, Step.line?, stored]
    | false => simp [Answer.lines, Step.line?, stored]

/-- What a run hands out and leaves is what was held and the lines that its operations add. -/
theorem run_keeps_lines (c : Capture) {steps : List Step}
    (exported : ∀ e v, Step.print e v ∈ steps → e ∈ Export.all) :
    (c.run steps).1.flatMap Answer.lines ++ (c.run steps).2.held =
      c.held ++ steps.filterMap Step.line? := by
  induction steps generalizing c with
  | nil => simp [run]
  | cons s rest ih =>
    have first := c.step_keeps_lines s fun e v same => exported e v (by simp [same])
    have others := ih (c.step s).2 fun e v later => exported e v (List.mem_cons_of_mem s later)
    calc
      (c.run (s :: rest)).1.flatMap Answer.lines ++ (c.run (s :: rest)).2.held
      _ = (c.step s).1.lines ++ (((c.step s).2.run rest).1.flatMap Answer.lines ++
            ((c.step s).2.run rest).2.held) := by simp [run]
      _ = (c.step s).1.lines ++ ((c.step s).2.held ++ rest.filterMap Step.line?) := by rw [others]
      _ = c.held ++ s.line?.toList ++ rest.filterMap Step.line? := by
        rw [← List.append_assoc, first]
      _ = c.held ++ (s :: rest).filterMap Step.line? := by
        cases added : s.line? <;> simp [added]

theorem run_append (c : Capture) (steps more : List Step) :
    c.run (steps ++ more) =
      ((c.run steps).1 ++ ((c.run steps).2.run more).1, ((c.run steps).2.run more).2) := by
  induction steps generalizing c with
  | nil => rfl
  | cons s rest ih => simp [run, ih]

end Capture

/-- In every run, the lines that were taken and the lines that are held are those that were held at
the start and those that the operations added, in order; a last take hands out all of them. A print
is refused exactly if the storage of its export does not have the value, and then changes nothing,
whatever has been captured before. -/
theorem capture_keeps_every_line (c : Capture) (steps : List Capture.Step)
    (exported : ∀ e v, Capture.Step.print e v ∈ steps → e ∈ Export.all) :
    (c.run steps).1.flatMap Capture.Answer.lines ++ (c.run steps).2.held =
        c.held ++ steps.filterMap Capture.Step.line? ∧
      (c.run (steps ++ [.take])).1.flatMap Capture.Answer.lines =
        c.held ++ steps.filterMap Capture.Step.line? ∧
      ∀ e v, Capture.Step.print e v ∈ steps → ∀ d : Capture,
        (d.step (.print e v)).1 = .printed (e.stores v) ∧
          (e.stores v = false → (d.step (.print e v)).2 = d) := by
  have kept := c.run_keeps_lines exported
  refine ⟨kept, ?_, fun e v printed d => ?_⟩
  · rw [c.run_append, ← kept]
    simp [Capture.run, Capture.step, Capture.take, Capture.Answer.lines]
  · rw [d.step_print (exported e v printed)]
    cases e.stores v with
    | true => simp
    | false => simp

/-- A value that the storage has, one that it does not have, and a negative one after a take. -/
theorem capture_keeps_every_line_samples :
    let byte := Family.uint8.exported
    let word := Family.sint64.exported
    let steps : List Capture.Step :=
      [.emit "start", .print byte 255, .take, .print byte 256, .print word (-1)]
    (∀ e v, Capture.Step.print e v ∈ steps → e ∈ Export.all) ∧
      (Capture.empty.run steps).1.flatMap Capture.Answer.lines ++ (Capture.empty.run steps).2.held =
        ["start", "255", "-1"] ∧
      (Capture.empty.run (steps ++ [.take])).1.flatMap Capture.Answer.lines =
        ["start", "255", "-1"] ∧
      ∀ d : Capture, (d.step (.print byte 256)).2 = d := by
  intro byte word steps
  have exported : ∀ e v, Capture.Step.print e v ∈ steps → e ∈ Export.all := by
    intro e v printed
    simp only [steps, List.mem_cons, Capture.Step.print.injEq, reduceCtorEq, List.not_mem_nil,
      or_false, false_or] at printed
    rcases printed with ⟨rfl, -⟩ | ⟨rfl, -⟩ | ⟨rfl, -⟩
    all_goals exact Family.exported_mem_all _
  have lines : steps.filterMap Capture.Step.line? = ["start", "255", "-1"] := by decide +kernel
  obtain ⟨kept, taken, prints⟩ := capture_keeps_every_line .empty steps exported
  rw [lines] at kept taken
  exact ⟨exported, kept, taken, fun d => (prints byte 256 (by simp [steps]) d).2 (by decide)⟩

end HeaderBindings
