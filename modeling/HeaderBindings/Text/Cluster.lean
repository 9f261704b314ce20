import HeaderBindings.Text.Mark

/-!
# Clusters

A cluster is a letter together with the marks written on it, which a reader
takes for one character: extending and spacing marks belong to the character
before them, leading signs to the one after, and a joiner binds two pictographs.
Rules that join only characters without case (syllables, flags, conjuncts) are
left out: case is all that clusters are asked for here.
-/

namespace HeaderBindings.Text

/-- Whether `c` belongs to the cluster whose characters, in reverse, are given. -/
def joinsCluster : List Char → Char → Bool
  | [], _ => false
  | last :: earlier, c =>
    joinsPrevious c || joinsNext last ||
      (isPictograph c && isJoiner last &&
        (earlier.dropWhile extendsPrevious).head?.any isPictograph)

/-- The clusters of the remaining characters; `current` is the open cluster, in reverse. -/
def clustersFrom (current : List Char) : List Char → List (List Char)
  | [] => if current.isEmpty then [] else [current.reverse]
  | c :: rest =>
    if current.isEmpty || joinsCluster current c then clustersFrom (c :: current) rest
    else current.reverse :: clustersFrom [c] rest

def clusters (cs : List Char) : List (List Char) :=
  clustersFrom [] cs

end HeaderBindings.Text
