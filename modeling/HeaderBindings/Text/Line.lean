/-!
# Lines

A line ends at a line feed, which is not part of it; a carriage return directly
before the line feed is not part of it either. Characters after the last line
feed form a last line, if there are any.
-/

namespace HeaderBindings.Text

/-- Removes a carriage return at the end of a line held in reverse. -/
def dropReturn : List Char → List Char
  | '\r' :: earlier => earlier
  | reversed => reversed

/-- The lines of the remaining characters; `pending` is the current line so far, in reverse. -/
def linesFrom (pending : List Char) : List Char → List (List Char)
  | [] => if pending.isEmpty then [] else [pending.reverse]
  | c :: rest =>
    if c = '\n' then (dropReturn pending).reverse :: linesFrom [] rest
    else linesFrom (c :: pending) rest

def lines (s : String) : List (List Char) :=
  linesFrom [] s.toList

end HeaderBindings.Text
