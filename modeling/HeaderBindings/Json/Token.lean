import HeaderBindings.Json.Literal
import HeaderBindings.Json.Numeral

/-!
# Tokens

The lexical grammar of JSON. Only the space, the tab, the line feed and the
carriage return separate tokens. Literals and numerals are checked for their
form and kept as written; no number is too great here and no surrogate has to
have its counterpart. Reading stops at the first place where no token can be
read, and says what stands there.
-/

namespace HeaderBindings.Json

inductive Token where
  | openBrace
  | closeBrace
  | openBracket
  | closeBracket
  | colon
  | comma
  | null
  | bool (value : Bool)
  | literal (value : Literal)
  | numeral (value : Numeral)
deriving DecidableEq, Repr

/-- What stands where no token can be read. The text may end before a word or a numeral is
complete. -/
inductive LexicalFault where
  /-- A character that starts no token. -/
  | noToken
  | word (atEnd : Bool)
  | numeral (atEnd : Bool)
  | literal (broken : BrokenLiteral)
deriving DecidableEq, Repr

/-- What is read from the characters in front, and the characters behind it. -/
abbrev Scanned (α : Type) := Except LexicalFault (α × List Char)

/-- Whether a character separates tokens. -/
def isSeparator (c : Char) : Bool :=
  c == ' ' || c == '\t' || c == '\n' || c == '\r'

def byteCount (cs : List Char) : Nat :=
  cs.foldr (fun c count => c.utf8Size + count) 0

/-- What breaks a literal off at an escaped code with fewer than four characters behind its mark.
The text ends there only if fewer than four bytes are left. -/
def shortCodeBreak (rest : List Char) : LiteralBreak :=
  if 4 ≤ byteCount rest then .invalidCode else .textEnd

/-- Reads the body of a literal and its closing quote; the body so far is held in reverse. -/
def scanLiteral (done : List Char) : List Char → Scanned Literal
  | [] => .error (.literal ⟨done.reverse, .textEnd⟩)
  | '"' :: rest => .ok (⟨done.reverse⟩, rest)
  | '\\' :: 'u' :: a :: b :: c :: d :: rest =>
    if [a, b, c, d].all fun digit => (hexValue? digit).isSome then
      scanLiteral (d :: c :: b :: a :: 'u' :: '\\' :: done) rest
    else
      .error (.literal ⟨done.reverse, .invalidCode⟩)
  | '\\' :: 'u' :: rest => .error (.literal ⟨done.reverse, shortCodeBreak rest⟩)
  | '\\' :: letter :: rest =>
    if (shortEscape? letter).isSome then scanLiteral (letter :: '\\' :: done) rest
    else .error (.literal ⟨done.reverse, .unknownEscape⟩)
  | ['\\'] => .error (.literal ⟨done.reverse, .textEnd⟩)
  | c :: rest =>
    if c.toNat < 0x20 then .error (.literal ⟨done.reverse, .controlCharacter⟩)
    else scanLiteral (c :: done) rest

def scanDigits (cs : List Char) : List Char × List Char :=
  (cs.takeWhile Char.isDigit, cs.dropWhile Char.isDigit)

/-- Reads the digits before the point: a zero alone, or digits that start with another. -/
def scanWhole : List Char → Scanned (List Char)
  | [] => .error (.numeral true)
  | c :: rest =>
    if c == '0' then
      if rest.head?.any Char.isDigit then .error (.numeral false) else .ok (['0'], rest)
    else if c.isDigit then .ok (c :: (scanDigits rest).1, (scanDigits rest).2)
    else .error (.numeral false)

/-- Reads a fraction, if there is one: a point and at least one digit. -/
def scanFraction : List Char → Scanned (List Char)
  | '.' :: rest =>
    match scanDigits rest with
    | ([], after) => .error (.numeral after.isEmpty)
    | (digits, after) => .ok (digits, after)
  | rest => .ok ([], rest)

def scanExponentDigits (negative : Bool) (cs : List Char) : Scanned (Option Exponent) :=
  match scanDigits cs with
  | ([], after) => .error (.numeral after.isEmpty)
  | (digits, after) => .ok (some ⟨negative, digits⟩, after)

/-- Reads an exponent, if there is one: a mark, an optional sign and at least one digit. -/
def scanExponent : List Char → Scanned (Option Exponent)
  | [] => .ok (none, [])
  | c :: rest =>
    if c == 'e' || c == 'E' then
      match rest with
      | '+' :: after => scanExponentDigits false after
      | '-' :: after => scanExponentDigits true after
      | after => scanExponentDigits false after
    else
      .ok (none, c :: rest)

def scanMagnitude (negative : Bool) (cs : List Char) : Scanned Numeral :=
  match scanWhole cs with
  | .error fault => .error fault
  | .ok (whole, afterWhole) =>
    match scanFraction afterWhole with
    | .error fault => .error fault
    | .ok (fraction, afterFraction) =>
      match scanExponent afterFraction with
      | .error fault => .error fault
      | .ok (exponent, rest) => .ok (⟨negative, whole, fraction, exponent⟩, rest)

def scanNumeral : List Char → Scanned Numeral
  | '-' :: rest => scanMagnitude true rest
  | cs => scanMagnitude false cs

/-- Reads the rest of a word that stands for a token. -/
def scanWord (token : Token) : List Char → List Char → Scanned Token
  | [], rest => .ok (token, rest)
  | _ :: _, [] => .error (.word true)
  | letter :: word, c :: rest =>
    if c == letter then scanWord token word rest else .error (.word false)

/-- What is read, as a token. -/
def Scanned.token {α : Type} (make : α → Token) : Scanned α → Scanned Token
  | .error fault => .error fault
  | .ok (value, rest) => .ok (make value, rest)

/-- Reads the token in front of the characters, which start with no separator. -/
def scanToken : List Char → Scanned Token
  | '\x7b' :: rest => .ok (.openBrace, rest)
  | '\x7d' :: rest => .ok (.closeBrace, rest)
  | '[' :: rest => .ok (.openBracket, rest)
  | ']' :: rest => .ok (.closeBracket, rest)
  | ':' :: rest => .ok (.colon, rest)
  | ',' :: rest => .ok (.comma, rest)
  | '"' :: rest => Scanned.token .literal (scanLiteral [] rest)
  | 'n' :: rest => scanWord .null ['u', 'l', 'l'] rest
  | 't' :: rest => scanWord (.bool true) ['r', 'u', 'e'] rest
  | 'f' :: rest => scanWord (.bool false) ['a', 'l', 's', 'e'] rest
  | [] => .error .noToken
  | c :: rest =>
    if c == '-' || c.isDigit then Scanned.token .numeral (scanNumeral (c :: rest))
    else .error .noToken

/-- A literal is read from the characters in front. -/
theorem length_of_scanLiteral {done cs rest : List Char} {l : Literal}
    (scanned : scanLiteral done cs = .ok (l, rest)) : rest.length < cs.length := by
  fun_induction scanLiteral done cs with
  | case1 => simp at scanned
  | case2 => simp_all
  | case3 _ _ _ _ _ _ _ ih => have := ih scanned; simp only [List.length_cons]; omega
  | case4 => simp at scanned
  | case5 => simp at scanned
  | case6 _ _ _ _ _ _ ih => have := ih scanned; simp only [List.length_cons]; omega
  | case7 => simp at scanned
  | case8 => simp at scanned
  | case9 => simp at scanned
  | case10 _ _ _ _ _ _ _ _ _ ih => have := ih scanned; simp only [List.length_cons]; omega

theorem length_scanDigits_le (cs : List Char) : (scanDigits cs).2.length ≤ cs.length :=
  (List.dropWhile_suffix _).length_le

/-- The whole part takes at least one character. -/
theorem length_of_scanWhole {cs digits rest : List Char}
    (scanned : scanWhole cs = .ok (digits, rest)) : rest.length < cs.length := by
  cases cs with
  | nil => simp [scanWhole] at scanned
  | cons c tail =>
    simp only [scanWhole] at scanned
    have := length_scanDigits_le tail
    split at scanned
    · split at scanned
      · simp at scanned
      · simp_all
    · split at scanned
      · simp only [Except.ok.injEq, Prod.mk.injEq] at scanned
        rw [← scanned.2, List.length_cons]
        omega
      · simp at scanned

theorem length_of_scanFraction {cs digits rest : List Char}
    (scanned : scanFraction cs = .ok (digits, rest)) : rest.length ≤ cs.length := by
  unfold scanFraction at scanned
  split at scanned
  · rename_i tail
    have := length_scanDigits_le tail
    split at scanned
    · simp at scanned
    · rename_i split
      simp only [Except.ok.injEq, Prod.mk.injEq] at scanned
      simp only [split] at this
      rw [← scanned.2, List.length_cons]
      omega
  · simp_all

theorem length_of_scanExponentDigits {negative : Bool} {cs rest : List Char} {e : Option Exponent}
    (scanned : scanExponentDigits negative cs = .ok (e, rest)) : rest.length ≤ cs.length := by
  unfold scanExponentDigits at scanned
  have := length_scanDigits_le cs
  split at scanned
  · simp at scanned
  · rename_i split
    simp only [Except.ok.injEq, Prod.mk.injEq] at scanned
    simp only [split] at this
    rw [← scanned.2]
    exact this

theorem length_of_scanExponent {cs rest : List Char} {e : Option Exponent}
    (scanned : scanExponent cs = .ok (e, rest)) : rest.length ≤ cs.length := by
  unfold scanExponent at scanned
  split at scanned
  · simp_all
  · split at scanned
    · split at scanned <;>
        have shorter := length_of_scanExponentDigits scanned <;>
        simp only [List.length_cons] at * <;>
        omega
    · simp only [Except.ok.injEq, Prod.mk.injEq] at scanned
      exact scanned.2 ▸ Nat.le_refl _

theorem length_of_scanMagnitude {negative : Bool} {cs rest : List Char} {n : Numeral}
    (scanned : scanMagnitude negative cs = .ok (n, rest)) : rest.length < cs.length := by
  unfold scanMagnitude at scanned
  split at scanned
  · simp at scanned
  · rename_i h₁
    have := length_of_scanWhole h₁
    split at scanned
    · simp at scanned
    · rename_i h₂
      have := length_of_scanFraction h₂
      split at scanned
      · simp at scanned
      · rename_i h₃
        have := length_of_scanExponent h₃
        simp only [Except.ok.injEq, Prod.mk.injEq] at scanned
        rw [← scanned.2]
        omega

theorem length_of_scanNumeral {cs rest : List Char} {n : Numeral}
    (scanned : scanNumeral cs = .ok (n, rest)) : rest.length < cs.length := by
  unfold scanNumeral at scanned
  split at scanned
  · have := length_of_scanMagnitude scanned
    simp only [List.length_cons]
    omega
  · exact length_of_scanMagnitude scanned

theorem length_of_scanWord {token t : Token} {word cs rest : List Char}
    (scanned : scanWord token word cs = .ok (t, rest)) : rest.length ≤ cs.length := by
  fun_induction scanWord token word cs with
  | case1 => simp_all
  | case2 => simp at scanned
  | case3 _ _ _ _ _ ih => have := ih scanned; simp only [List.length_cons]; omega
  | case4 => simp at scanned

theorem eq_ok_of_token {α : Type} {make : α → Token} {s : Scanned α} {t : Token}
    {rest : List Char} (scanned : s.token make = .ok (t, rest)) : ∃ a, s = .ok (a, rest) := by
  cases s with
  | error fault => simp [Scanned.token] at scanned
  | ok read =>
    obtain ⟨a, after⟩ := read
    simp only [Scanned.token, Except.ok.injEq, Prod.mk.injEq] at scanned
    exact ⟨a, by rw [scanned.2]⟩

theorem length_of_scanToken {cs rest : List Char} {t : Token}
    (scanned : scanToken cs = .ok (t, rest)) : rest.length < cs.length := by
  unfold scanToken at scanned
  split at scanned
  case h_7 =>
    obtain ⟨l, read⟩ := eq_ok_of_token scanned
    have := length_of_scanLiteral read
    simp only [List.length_cons]
    omega
  case h_8 | h_9 | h_10 =>
    have := length_of_scanWord scanned
    simp only [List.length_cons]
    omega
  case h_11 => simp at scanned
  case h_12 =>
    split at scanned
    · obtain ⟨n, read⟩ := eq_ok_of_token scanned
      exact length_of_scanNumeral read
    · simp at scanned
  all_goals
    simp only [Except.ok.injEq, Prod.mk.injEq] at scanned
    rw [← scanned.2]
    simp only [List.length_cons]
    omega

/-- The tokens in front of a text, and what stands where no further one can be read. -/
structure Lexed where
  tokens : List Token
  fault : Option LexicalFault

/-- The tokens of the remaining characters; those read so far are held in reverse. -/
def lexedFrom (done : List Token) (cs : List Char) : Lexed :=
  match cs with
  | [] => ⟨done.reverse, none⟩
  | c :: rest =>
    if isSeparator c then
      lexedFrom done rest
    else
      match scanned : scanToken (c :: rest) with
      | .error fault => ⟨done.reverse, some fault⟩
      | .ok (token, after) =>
        have := length_of_scanToken scanned
        lexedFrom (token :: done) after
termination_by cs.length
decreasing_by
  · simp
  · exact this

def Lexed.ofText (s : String) : Lexed :=
  lexedFrom [] s.toList

end HeaderBindings.Json
