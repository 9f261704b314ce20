/-!
# Splitting at a character
-/

namespace HeaderBindings.Text

/-- The pieces between the occurrences of a separator. There is always one more piece than there
are separators. -/
def splitAtChar (separator : Char) : List Char → List (List Char)
  | [] => [[]]
  | c :: rest =>
    if c = separator then [] :: splitAtChar separator rest
    else
      match splitAtChar separator rest with
      | [] => [[c]]
      | piece :: pieces => (c :: piece) :: pieces

end HeaderBindings.Text
