import HeaderBindings.File.Path

/-!
# File trees

The files and directories below a root, one of which is the current directory,
and access to them with the faults that a file system reports.
-/

namespace HeaderBindings.File

/-- Why access to a file fails. -/
inductive FileFault where
  | notFound
  | alreadyExists
  | notADirectory
  | isADirectory
  /-- A name, or the path as a whole, is too long. -/
  | nameTooLong
  /-- The path holds a character that ends a path. -/
  | nulInPath
  /-- The file is no text. -/
  | notText
  /-- Something else went wrong. -/
  | other (details : String)
deriving DecidableEq, Repr

def FileFault.message : FileFault → String
  | notFound => "No such file or directory (os error 2)"
  | alreadyExists => "File exists (os error 17)"
  | notADirectory => "Not a directory (os error 20)"
  | isADirectory => "Is a directory (os error 21)"
  | nameTooLong => "File name too long (os error 36)"
  | nulInPath => "file name contained an unexpected NUL byte"
  | notText => "stream did not contain valid UTF-8"
  | other details => details

/-- Whether a text can be used as a path at all. -/
def checkPath (path : String) : Except FileFault Unit :=
  if path.toList.contains '\x00' then .error .nulInPath
  else if pathSizeLimit < path.utf8ByteSize then .error .nameTooLong
  else if path.isEmpty then .error .notFound
  else .ok ()

/-- What a name stands for. -/
inductive Entry where
  | file (bytes : ByteArray)
  | directory
  /-- A file that is empty and keeps nothing of what is written to it. -/
  | sink

/-- The entries below the root, each with its place: the names that lead to it from the root. -/
structure FileTree where
  entries : List (List String × Entry)
  /-- The place of the current directory. -/
  current : List String

namespace FileTree

/-- The tree that holds nothing but the current directory and those above it. -/
def startingIn (current : List String) : FileTree where
  entries := (List.range current.length).map fun n => (current.take (n + 1), .directory)
  current := current

def entryAt? (t : FileTree) (place : List String) : Option Entry :=
  if place.isEmpty then some .directory else t.entries.lookup place

def put (t : FileTree) (place : List String) (entry : Entry) : FileTree :=
  { t with entries := (place, entry) :: t.entries.filter (·.1 != place) }

/-- Whether there is a directory at a place. -/
def checkDirectory (t : FileTree) (place : List String) : Except FileFault Unit :=
  match t.entryAt? place with
  | some .directory => .ok ()
  | some _ => .error .notADirectory
  | none => .error .notFound

/-- The place that a path leads from. -/
def origin (t : FileTree) (path : String) : List String :=
  if isAbsolute path then [] else t.current

/-- The place that names lead to from a place. Every name is looked up in a directory, and above the
root there is the root. -/
def locate (t : FileTree) (place : List String) : List String → Except FileFault (List String)
  | [] => .ok place
  | name :: rest => do
    t.checkDirectory place
    if name == "." then t.locate place rest
    else if name == ".." then t.locate place.dropLast rest
    else if nameSizeLimit < name.utf8ByteSize then throw .nameTooLong
    else t.locate (place ++ [name]) rest

def placeOf (t : FileTree) (path : String) : Except FileFault (List String) := do
  checkPath path
  t.locate (t.origin path) (names path)

def entry (t : FileTree) (path : String) : Except FileFault Entry := do
  let place ← t.placeOf path
  if endsInSlash path then t.checkDirectory place
  match t.entryAt? place with
  | some e => return e
  | none => throw .notFound

def read (t : FileTree) (path : String) : Except FileFault String := do
  match ← t.entry path with
  | .directory => throw .isADirectory
  | .sink => return ""
  | .file bytes =>
    match String.fromUTF8? bytes with
    | some s => return s
    | none => throw .notText

/-- Writes a file, whose directory has to exist. A path that ends in a slash names a directory,
whether it is there or not. -/
def write (t : FileTree) (path : String) (bytes : ByteArray) : Except FileFault FileTree := do
  checkPath path
  if endsInSlash path then
    t.checkDirectory (← t.locate (t.origin path) (names path).dropLast)
    throw .isADirectory
  let place ← t.locate (t.origin path) (names path)
  match t.entryAt? place with
  | some .directory => throw .isADirectory
  | some .sink => return t
  | _ => return t.put place (.file bytes)

/-- Makes a directory in one that exists. -/
def makeDirectory (t : FileTree) (path : String) : Except FileFault FileTree := do
  let place ← t.placeOf path
  match t.entryAt? place with
  | some _ => throw .alreadyExists
  | none => return t.put place .directory

/-- Makes a directory unless it is there already. -/
def ensureDirectory (t : FileTree) (path : String) : Except FileFault FileTree :=
  match t.makeDirectory path with
  | .ok made => .ok made
  | .error fault =>
    match (t.placeOf path).bind t.checkDirectory with
    | .ok () => .ok t
    | .error _ => .error fault

/-- Makes a directory and those above it, unless they are there already. The pieces of the path are
held in reverse. The tree that is left holds the directories made before a fault. -/
def ensureDirectories (t : FileTree) : List String → FileTree × Except FileFault Unit
  | [] => (t, .ok ())
  | piece :: above =>
    if isInert piece then t.ensureDirectories above
    else
      match t.ensureDirectory (ofPieces (piece :: above).reverse) with
      | .ok made => (made, .ok ())
      | .error .notFound =>
        match t.ensureDirectories above with
        | (made, .error fault) => (made, .error fault)
        | (made, .ok ()) =>
          match made.ensureDirectory (ofPieces (piece :: above).reverse) with
          | .ok complete => (complete, .ok ())
          | .error fault => (made, .error fault)
      | .error fault => (t, .error fault)

/-- Makes the directory that a path names and those above it, unless they are there already. -/
def makeDirectories (t : FileTree) (path : String) : FileTree × Except FileFault Unit :=
  t.ensureDirectories (pieces path).reverse

end FileTree

/-- Why a text could not be saved. -/
inductive SaveFault where
  /-- The directory of the file could not be made. -/
  | creating (directory : String) (fault : FileFault)
  /-- The file could not be written. -/
  | writing (path : String) (fault : FileFault)
deriving DecidableEq, Repr

/-- The fault of the file system itself. -/
def SaveFault.fault : SaveFault → FileFault
  | creating _ fault => fault
  | writing _ fault => fault

/-- The directory that has to be made before a file is written: the one that holds it, unless that
is the current one. -/
def directoryToMake? (path : String) : Option String :=
  (parent? path).filter fun directory => !directory.isEmpty

namespace FileTree

def makeParent (t : FileTree) (path : String) : FileTree × Except SaveFault Unit :=
  match directoryToMake? path with
  | none => (t, .ok ())
  | some directory =>
    match t.makeDirectories directory with
    | (made, .ok ()) => (made, .ok ())
    | (made, .error fault) => (made, .error (.creating directory fault))

/-- Saves bytes in a file and makes the directories that are missing. The tree that is left holds
the directories that were made, even if the file cannot be written. -/
def saveBytes (t : FileTree) (path : String) (bytes : ByteArray) :
    FileTree × Except SaveFault Unit :=
  match t.makeParent path with
  | (made, .error fault) => (made, .error fault)
  | (made, .ok ()) =>
    match made.write path bytes with
    | .ok written => (written, .ok ())
    | .error fault => (made, .error (.writing path fault))

/-- Saves a text in a file and makes the directories that are missing. -/
def save (t : FileTree) (path text : String) : FileTree × Except SaveFault Unit :=
  t.saveBytes path text.toUTF8

end FileTree

end HeaderBindings.File
