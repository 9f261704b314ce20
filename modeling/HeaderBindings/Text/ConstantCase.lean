import HeaderBindings.Text.Case
import HeaderBindings.Text.Cluster

/-!
# Constant case

The spelling of constants derived from a declaration: `EnumIgnored` becomes
`ENUM_IGNORED`. A name is cut at underscores and between a lower-case and an
upper-case cluster; its words are put in upper case and joined by underscores.
Words between adjacent underscores are empty and are kept, so every underscore
of the name survives. A change from upper to lower case cuts nothing, so `UInt8`
stays one word.
-/

namespace HeaderBindings.Text

/-- The words of the remaining clusters: `word` is the current word so far, and `afterLower` tells
whether it ends in a lower-case cluster. -/
def wordsFrom (word : List Char) (afterLower : Bool) : List (List Char) → List (List Char)
  | [] => [word]
  | cluster :: rest =>
    if cluster == ['_'] then word :: wordsFrom [] false rest
    else if afterLower && isUpper cluster then word :: wordsFrom cluster false rest
    else wordsFrom (word ++ cluster) (isLower cluster) rest

def joinWords : List (List Char) → List Char
  | [] => []
  | [word] => word
  | word :: rest => word ++ '_' :: joinWords rest

def constantCase (name : String) : String :=
  String.ofList (joinWords ((wordsFrom [] false (clusters name.toList)).map upper))

end HeaderBindings.Text
