import HeaderBindings.Json.Printer
import HeaderBindings.Platform

/-!
# Aggregate layouts

Each platform declares the fields of the aggregate for itself, one 32-bit field
more than the platform before it. A layout may be of any platform; the native
aggregate is the record of the one platform that the library is compiled for. The
exported function sums the fields and wraps on overflow.
-/

namespace HeaderBindings

open HeaderBindings.Json

/-- The fields of the aggregate, which every platform declares for itself. -/
inductive Layout where
  | linux (a : Int32)
  | macos (a b : Int32)
  | ios (a b c : Int32)
  | windows (a b c d : Int32)
deriving DecidableEq, Repr

namespace Layout

def platform : Layout → Platform
  | linux _ => .linux
  | macos _ _ => .macos
  | ios _ _ _ => .ios
  | windows _ _ _ _ => .windows

def fields : Layout → List Int32
  | linux a => [a]
  | macos a b => [a, b]
  | ios a b c => [a, b, c]
  | windows a b c d => [a, b, c, d]

/-- The layout of given fields, which have to be those that the platform declares. -/
def ofFields (p : Platform) (fields : List Int32) : Except Error Layout :=
  match p, fields with
  | .linux, [a] => .ok (linux a)
  | .macos, [a, b] => .ok (macos a b)
  | .ios, [a, b, c] => .ok (ios a b c)
  | .windows, [a, b, c, d] => .ok (windows a b c d)
  | _, _ => .error (.layoutMismatch p.name p.fieldCount fields.length)

/-- The sum of fields, wrapping on overflow. -/
def sum (fields : List Int32) : Int32 :=
  fields.foldl (· + ·) 0

def total (l : Layout) : Int32 :=
  sum l.fields

/-- A layout in JSON: its platform, and its fields under the letters from `a`. -/
def json (l : Layout) : Json.Value :=
  .object (member "platform" (.ofString l.platform.name) ::
    List.zipWith (fun name (field : Int32) => member name (.ofInt field.toInt))
      ["a", "b", "c", "d"] l.fields)

end Layout

/-- The record that the library declares if it is compiled for a platform. -/
inductive NativeRecord : Platform → Type where
  | linux (a : Int32) : NativeRecord .linux
  | macos (a b : Int32) : NativeRecord .macos
  | ios (a b c : Int32) : NativeRecord .ios
  | windows (a b c d : Int32) : NativeRecord .windows
deriving DecidableEq, Repr

def NativeRecord.layout {compiled : Platform} : NativeRecord compiled → Layout
  | linux a => .linux a
  | macos a b => .macos a b
  | ios a b c => .ios a b c
  | windows a b c d => .windows a b c d

/-- The aggregate of the platform that the library is compiled for. -/
structure Native (compiled : Platform) where
  record : NativeRecord compiled
deriving DecidableEq, Repr

namespace Native

variable {compiled : Platform}

/-- The native aggregate of a layout, which has to be of the compiled platform. -/
def ofLayout (compiled : Platform) (l : Layout) : Except Error (Native compiled) :=
  match compiled, l with
  | .linux, .linux a => .ok ⟨.linux a⟩
  | .macos, .macos a b => .ok ⟨.macos a b⟩
  | .ios, .ios a b c => .ok ⟨.ios a b c⟩
  | .windows, .windows a b c d => .ok ⟨.windows a b c d⟩
  | compiled, other =>
    .error (.layoutMismatch compiled.name compiled.fieldCount other.platform.fieldCount)

def ofFields (compiled : Platform) (fields : List Int32) : Except Error (Native compiled) := do
  ofLayout compiled (← Layout.ofFields compiled fields)

def layout (n : Native compiled) : Layout :=
  n.record.layout

def total (n : Native compiled) : Int32 :=
  n.layout.total

end Native

def aggregateName : String := "OpaqueType_PlatformSpecificSize"

def totalSymbol : String := "calc_OpaqueType_PlatformSpecificSize"

/-- The exported function that sums the fields of the native aggregate. -/
def exportedTotal {compiled : Platform} (data : Native compiled) : Int32 :=
  data.total

end HeaderBindings
