import HeaderBindings.Text.CaseTable

/-!
# Upper and lower case

Full case mappings: a letter may map to several (`ß` to `SS`). ASCII letters are
mapped directly, all others by table. Where a final sigma would need its context
the plain form is taken, since only clusters of one letter are lowered.
-/

namespace HeaderBindings.Text

/-- Maps a code point beyond ASCII by the expansions first, by the runs else. -/
def mapCase (expansions : List (Nat × List Nat)) (runs : List CaseRun) (c : Char) : List Char :=
  match expansions.lookup c.toNat with
  | some codes => codes.map Char.ofNat
  | none =>
    match runs.findSome? (·.map? c.toNat) with
    | some code => [Char.ofNat code]
    | none => [c]

def upperChar (c : Char) : List Char :=
  if c.toNat < 0x80 then [c.toUpper] else mapCase upperExpansions upperRuns c

def lowerChar (c : Char) : List Char :=
  if c.toNat < 0x80 then [c.toLower] else mapCase lowerExpansions lowerRuns c

def upper (cs : List Char) : List Char :=
  cs.flatMap upperChar

def lower (cs : List Char) : List Char :=
  cs.flatMap lowerChar

/-- Whether the two cases of a sequence differ. -/
def hasCase (cs : List Char) : Bool :=
  upper cs != lower cs

/-- Whether a sequence has case and is in lower case. -/
def isLower (cs : List Char) : Bool :=
  hasCase cs && cs == lower cs

/-- Whether a sequence has case and is in upper case. -/
def isUpper (cs : List Char) : Bool :=
  hasCase cs && cs == upper cs

/-- A text with its ASCII letters in lower case and all else unchanged. -/
def asciiLower (s : String) : String :=
  String.ofList (s.toList.map Char.toLower)

/-- Whether two texts differ in the case of ASCII letters at most. -/
def equalIgnoringCase (s t : String) : Bool :=
  asciiLower s == asciiLower t

end HeaderBindings.Text
