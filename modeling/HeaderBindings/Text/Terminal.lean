import HeaderBindings.Text.Quoted

/-!
# Text for a terminal

Log messages may hold text from files. The characters by which such text could
steer a terminal are written by their code points: escape, bell, backspace, form
feed and delete with two digits, and the control characters above ASCII in
braces. All other characters stay as they are, line breaks among them.
-/

namespace HeaderBindings.Text

/-- The last two hexadecimal digits of a number. -/
def hexPair (n : Nat) : List Char :=
  [Nat.digitChar (n / 16 % 16), Nat.digitChar (n % 16)]

/-- Whether an ASCII character is one of those that steer a terminal. -/
def steersTerminal (c : Char) : Bool :=
  c == '\x07' || c == '\x08' || c == '\x0c' || c == '\x1b' || c == '\x7f'

/-- A character as it is shown on a terminal. -/
def terminalChar (c : Char) : List Char :=
  if steersTerminal c then
    ['\\', 'x'] ++ hexPair c.toNat
  else if 0x80 ≤ c.toNat && c.toNat ≤ 0x9F then
    ['\\', 'u', '\x7b'] ++ hexDigits c.toNat ++ ['\x7d']
  else
    [c]

def terminalText (s : String) : String :=
  String.ofList (s.toList.flatMap terminalChar)

end HeaderBindings.Text
