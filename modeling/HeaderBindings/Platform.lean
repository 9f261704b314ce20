import HeaderBindings.Error
import HeaderBindings.Text.Blank
import HeaderBindings.Text.Case
import HeaderBindings.Text.Split

/-!
# Platforms

The operating systems whose aggregate layout is known. A platform is named by a
short name or by a target triple, whose components may stand in any order.
-/

namespace HeaderBindings

open HeaderBindings.Text

/-- An operating system. -/
inductive Platform where
  | linux
  | macos
  | ios
  | windows
deriving DecidableEq, Repr

namespace Platform

def all : List Platform :=
  [linux, macos, ios, windows]

def name : Platform → String
  | linux => "linux"
  | macos => "macos"
  | ios => "ios"
  | windows => "windows"

/-- The capitalized name of a platform. -/
def title : Platform → String
  | linux => "Linux"
  | macos => "Macos"
  | ios => "Ios"
  | windows => "Windows"

/-- The number of fields that the platform-specific aggregate has. -/
def fieldCount : Platform → Nat
  | linux => 1
  | macos => 2
  | ios => 3
  | windows => 4

/-- The size of the platform-specific aggregate in bytes. -/
def aggregateSize (p : Platform) : Nat :=
  4 * p.fieldCount

/-- The platform of a short name in lower case. -/
def ofShortName? (name : String) : Option Platform :=
  [("linux", linux), ("macos", macos), ("osx", macos), ("darwin", macos), ("ios", ios),
    ("windows", windows), ("win32", windows), ("win64", windows)].lookup name

/-- The platform of the components of a target triple. A triple has at least two components, and
Android is not taken for Linux. -/
def ofComponents? (components : List String) : Option Platform :=
  if components.length < 2 then none
  else if components.contains "ios" then some ios
  else if components.contains "darwin" || components.contains "macos" then some macos
  else if components.contains "windows" then some windows
  else if components.contains "linux" && !components.contains "android" then some linux
  else none

def components (triple : String) : List String :=
  (splitAtChar '-' triple.toList).map String.ofList

/-- The platform of a name without blanks around it and in lower case. -/
def ofNormalized? (s : String) : Option Platform :=
  match ofShortName? s with
  | some p => some p
  | none => ofComponents? (components s)

/-- The platform that a name stands for. Blanks around it and the case of letters do not matter. -/
def parse (s : String) : Except Error Platform :=
  match ofNormalized? (asciiLower (trim s)) with
  | some p => .ok p
  | none => .error (.unknownPlatform s)

end Platform

end HeaderBindings
