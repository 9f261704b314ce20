import HeaderBindings.Text.Line

/-!
# Lines of texts that are put together

A text that ends where a line ends can be followed by any other text: the lines of the two are
those of the first and then those of the second (`lines_append`). Such a text has one line for
each line feed (`length_lines`).
-/

namespace HeaderBindings.Text

/-- Whether a text ends where a line ends. -/
def EndsLine (s : String) : Prop :=
  s = "" ∨ s.toList.getLast? = some '\n'

/-- Whether a text starts where a line ends. -/
def StartsAtLineEnd (s : String) : Prop :=
  s = "" ∨ s.toList.head? = some '\n'

instance (s : String) : Decidable (EndsLine s) :=
  inferInstanceAs (Decidable (_ ∨ _))

instance (s : String) : Decidable (StartsAtLineEnd s) :=
  inferInstanceAs (Decidable (_ ∨ _))

/-- A line without a carriage return at its end. -/
def withoutReturn (line : List Char) : List Char :=
  (dropReturn line.reverse).reverse

theorem withoutReturn_of_ne {line : List Char} (last : line.getLast? ≠ some '\r') :
    withoutReturn line = line := by
  rw [withoutReturn, dropReturn.eq_def]
  split
  · rename_i earlier reversed
    rw [List.getLast?_eq_head?_reverse, reversed] at last
    exact absurd rfl last
  · exact List.reverse_reverse line

theorem linesFrom_append_of_no_line_feed (pending : List Char) {line : List Char}
    (inside : '\n' ∉ line) (rest : List Char) :
    linesFrom pending (line ++ rest) = linesFrom (line.reverse ++ pending) rest := by
  induction line generalizing pending with
  | nil => rfl
  | cons c line ih =>
    obtain ⟨different, later⟩ := not_or.1 (mt List.mem_cons.2 inside)
    rw [List.cons_append, linesFrom, if_neg (Ne.symm different), ih _ later, List.reverse_cons,
      List.append_assoc, List.singleton_append]

theorem linesFrom_append_line_feed (pending front rest : List Char) :
    linesFrom pending (front ++ '\n' :: rest) =
      linesFrom pending (front ++ ['\n']) ++ linesFrom [] rest := by
  induction front generalizing pending with
  | nil => rfl
  | cons c front ih =>
    rw [List.cons_append, List.cons_append, linesFrom, linesFrom]
    split
    · rw [ih, List.cons_append]
    · exact ih _

theorem length_linesFrom_line_feed (pending front : List Char) :
    (linesFrom pending (front ++ ['\n'])).length = front.count '\n' + 1 := by
  induction front generalizing pending with
  | nil => rfl
  | cons c front ih =>
    rw [List.cons_append, linesFrom]
    split
    · rename_i lineFeed
      rw [List.length_cons, ih, lineFeed, List.count_cons_self]
    · rename_i other
      rw [ih, List.count_cons_of_ne other]

theorem EndsLine.eq_nil_or_append {s : String} (ends : EndsLine s) :
    s.toList = [] ∨ ∃ front, s.toList = front ++ ['\n'] := by
  rcases ends with rfl | last
  · exact .inl rfl
  · exact .inr (List.getLast?_eq_some_iff.1 last)

theorem lines_append {front : String} (ends : EndsLine front) (rest : String) :
    lines (front ++ rest) = lines front ++ lines rest := by
  unfold lines
  rw [String.toList_append]
  rcases ends.eq_nil_or_append with empty | ⟨earlier, split⟩
  · rw [empty]
    rfl
  · rw [split, List.append_assoc, List.singleton_append, linesFrom_append_line_feed]

theorem length_lines {front : String} (ends : EndsLine front) :
    (lines front).length = front.toList.count '\n' := by
  unfold lines
  rcases ends.eq_nil_or_append with empty | ⟨earlier, split⟩
  · rw [empty]
    rfl
  · rw [split, length_linesFrom_line_feed, List.count_append]
    rfl

theorem lines_line_feed {line : String} (inside : '\n' ∉ line.toList) :
    lines (line ++ "\n") = [withoutReturn line.toList] := by
  rw [lines, String.toList_append, linesFrom_append_of_no_line_feed [] inside, List.append_nil]
  rfl

/-- Lines of text, each with a line feed behind it. -/
def joinLines (ls : List String) : String :=
  String.join (ls.map (· ++ "\n"))

theorem joinLines_cons (line : String) (ls : List String) :
    joinLines (line :: ls) = line ++ "\n" ++ joinLines ls := by
  rw [joinLines, List.map_cons, String.join_cons]
  rfl

theorem endsLine_line_feed (line : String) : EndsLine (line ++ "\n") :=
  .inr (by simp)

theorem EndsLine.append {front rest : String} (left : EndsLine front) (right : EndsLine rest) :
    EndsLine (front ++ rest) := by
  rcases right with rfl | last
  · rwa [String.append_empty]
  · refine .inr ?_
    rw [String.toList_append, List.getLast?_append, last]
    rfl

theorem endsLine_joinLines (ls : List String) : EndsLine (joinLines ls) := by
  induction ls with
  | nil => exact .inl rfl
  | cons line ls ih =>
    rw [joinLines_cons]
    exact (endsLine_line_feed line).append ih

theorem lines_joinLines {ls : List String} (inside : ∀ line ∈ ls, '\n' ∉ line.toList) :
    lines (joinLines ls) = ls.map fun line => withoutReturn line.toList := by
  induction ls with
  | nil => rfl
  | cons line ls ih =>
    obtain ⟨first, later⟩ := List.forall_mem_cons.1 inside
    rw [joinLines_cons, lines_append (endsLine_line_feed line), lines_line_feed first, ih later]
    rfl

/-- A line that nothing or a line feed follows is a line of the text as it is. -/
theorem exists_lines_append {line : String} (inside : '\n' ∉ line.toList) {last : Char}
    (final : line.toList.getLast? = some last) (visible : last ≠ '\r') {rest : String}
    (follows : StartsAtLineEnd rest) : ∃ later, lines (line ++ rest) = line.toList :: later := by
  have kept : withoutReturn line.toList = line.toList :=
    withoutReturn_of_ne (by rw [final]; exact fun same => visible (Option.some.inj same))
  rw [lines, String.toList_append, linesFrom_append_of_no_line_feed [] inside, List.append_nil]
  rcases follows with rfl | lineFeed
  · refine ⟨[], ?_⟩
    have filled : line.toList.reverse.isEmpty = false := by
      rw [List.isEmpty_reverse, List.isEmpty_eq_false_iff]
      rintro empty
      rw [empty] at final
      cases final
    rw [String.toList_empty, linesFrom, filled, List.reverse_reverse]
    rfl
  · obtain ⟨later, split⟩ := List.head?_eq_some_iff.1 lineFeed
    refine ⟨linesFrom [] later, ?_⟩
    rw [split, linesFrom, if_pos rfl]
    exact congrArg (· :: linesFrom [] later) kept

end HeaderBindings.Text
