import HeaderBindings.Proofs.Artifact.LineEnd
import HeaderBindings.Verification

/-!
# Line endings

A text may end its lines with line feeds alone or with a carriage return before each of them: the
report about it is the same (`verify_withReturns`). This holds for every text. Where a line has
carriage returns at its end already, one more of them stays on the line, but it is a blank there,
and reports depend on the lines without the blanks at their ends (`verify_congr_of_trimmedLines`).
-/

namespace HeaderBindings

open HeaderBindings.Artifact HeaderBindings.Text

namespace Text

/-- The end of a line with a carriage return, and every other character as it is. -/
def returnBefore (c : Char) : List Char :=
  if c = '\n' then ['\r', '\n'] else [c]

/-- A text with a carriage return put before every line feed. -/
def withReturns (text : String) : String :=
  String.ofList (text.toList.flatMap returnBefore)

/-- The two texts are cut at the same places, and the parts differ by blanks at their ends. -/
theorem map_trimEnd_linesFrom_returnBefore (pending cs : List Char) :
    (linesFrom pending (cs.flatMap returnBefore)).map trimEnd =
      (linesFrom pending cs).map trimEnd := by
  induction cs generalizing pending with
  | nil => rfl
  | cons c cs ih =>
    rw [List.flatMap_cons, returnBefore]
    by_cases lineFeed : c = '\n'
    · -- The new carriage return is the one that is dropped, so an older one stays.
      have left : linesFrom pending (['\r', '\n'] ++ cs.flatMap returnBefore) =
          pending.reverse :: linesFrom [] (cs.flatMap returnBefore) := rfl
      have right : linesFrom pending (c :: cs) =
          (dropReturn pending).reverse :: linesFrom [] cs := by
        rw [linesFrom, if_pos lineFeed]
      rw [if_pos lineFeed, left, right, List.map_cons, List.map_cons, trimEnd_dropReturn, ih]
    · rw [if_neg lineFeed, List.singleton_append, linesFrom, linesFrom, if_neg lineFeed,
        if_neg lineFeed, ih]

theorem trimmedLines_withReturns (text : String) :
    trimmedLines (withReturns text) = trimmedLines text := by
  rw [trimmedLines, lines, withReturns, String.toList_ofList,
    map_trimEnd_linesFrom_returnBefore]
  rfl

end Text

namespace Verification

/-- A report depends on its text only through the lines without the blanks at their ends. -/
theorem verify_congr_of_trimmedLines {text other : String}
    (same : trimmedLines text = trimmedLines other) (artifact : String) (d : Document)
    (o : VerifyOptions) : verify artifact text d o = verify artifact other d o := by
  have words : firstLines text = firstLines other := by
    rw [firstLines_eq_trimmed, firstLines_eq_trimmed, same]
  have stored : ∀ name, storage? text name = storage? other name := by
    intro name
    rw [storage?_eq_trimmed, storage?_eq_trimmed, same]
  simp only [verify, words, narrowEnums, storedWidth, stored]

end Verification

/-- A carriage return before every line feed changes neither the report about a text nor the storage
that the text gives a name. -/
theorem verify_withReturns (artifact text : String) (d : Document) (o : VerifyOptions) :
    verify artifact (withReturns text) d o = verify artifact text d o ∧
      ∀ name, storage? (withReturns text) name = storage? text name := by
  have same := trimmedLines_withReturns text
  refine ⟨Verification.verify_congr_of_trimmedLines same artifact d o, fun name => ?_⟩
  rw [storage?_eq_trimmed, storage?_eq_trimmed, same]

end HeaderBindings
