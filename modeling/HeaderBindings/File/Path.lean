import HeaderBindings.Text.Split

/-!
# Paths of files

A path is a text of pieces between slashes. The pieces that are not empty are
the names that a path leads through: a single dot stays where it is and a double
dot leads up. A path that starts with a slash leads from the root, any other
from the current directory. Names and whole paths are limited in size.
-/

namespace HeaderBindings.File

/-- The greatest number of bytes in a name. -/
def nameSizeLimit : Nat := 255

/-- The greatest number of bytes in a path. -/
def pathSizeLimit : Nat := 4095

def pieces (path : String) : List String :=
  (Text.splitAtChar '/' path.toList).map String.ofList

def ofPieces (pieces : List String) : String :=
  "/".intercalate pieces

/-- The names that a path leads through. -/
def names (path : String) : List String :=
  (pieces path).filter fun piece => piece != ""

def isAbsolute (path : String) : Bool :=
  path.toList.head? == some '/'

/-- Whether a path ends in a slash, so that it can only name a directory. -/
def endsInSlash (path : String) : Bool :=
  (pieces path).getLastD "" == ""

/-- Whether a piece leads nowhere. -/
def isInert (piece : String) : Bool :=
  piece == "" || piece == "."

/-- Pieces without those at the end that lead nowhere. The first piece always stays. -/
def dropInertEnd : List String → List String
  | [] => []
  | first :: rest => first :: (rest.reverse.dropWhile isInert).reverse

/-- The path of the directory that holds what a path names. The empty path and the root have none,
and the empty text stands for the current directory. -/
def parent? (path : String) : Option String :=
  if path.isEmpty then none
  else
    match dropInertEnd (dropInertEnd (pieces path)).dropLast with
    | [] => if isAbsolute path then none else some ""
    | [""] => some "/"
    | above => some (ofPieces above)

end HeaderBindings.File
