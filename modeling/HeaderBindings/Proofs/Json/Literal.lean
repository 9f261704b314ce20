import HeaderBindings.Json.Token

/-!
# String literals read back

A text that is written as a literal is scanned up to its closing quote, whatever stands
behind it, and has its text again. Both facts are carried by one character at a time:
what `encodeChar` writes is taken as a whole by the scanner and decoded to that very
character, escaped or not.
-/

namespace HeaderBindings.Json

theorem hexValue?_hexChar {d : Nat} (small : d < 16) : hexValue? (hexChar d) = some d := by
  have all : ∀ d, d < 16 → hexValue? (hexChar d) = some d := by decide
  exact all d small

theorem hexCode_escape {n : Nat} (small : n < 0x20) :
    hexCode '0' '0' (hexChar (n / 16)) (hexChar (n % 16)) = n := by
  have zero : hexValue? '0' = some 0 := by decide
  simp only [hexCode, List.foldl_cons, List.foldl_nil, zero,
    hexValue?_hexChar (show n / 16 < 16 by omega), hexValue?_hexChar (show n % 16 < 16 by omega),
    Option.getD_some]
  omega

theorem scanLiteral_plain {c : Char} (quote : c ≠ '"') (backslash : c ≠ '\\')
    (printable : ¬ c.toNat < 0x20) (done cs : List Char) :
    scanLiteral done (c :: cs) = scanLiteral (c :: done) cs := by
  rw [scanLiteral, if_neg printable] <;> simp_all

theorem decodeFrom_plain {c : Char} (backslash : c ≠ '\\') (done cs : List Char) :
    decodeFrom done none (c :: cs) = decodeFrom (c :: done) none cs := by
  rw [decodeFrom] <;> simp_all

/-- The scanner takes a written character whole. -/
theorem scanLiteral_encodeChar (done : List Char) (c : Char) (cs : List Char) :
    scanLiteral done (encodeChar c ++ cs) = scanLiteral ((encodeChar c).reverse ++ done) cs := by
  unfold encodeChar
  split
  case h_8 quote backslash _ _ _ _ _ =>
    split
    · rename_i control
      have high := hexValue?_hexChar (show c.toNat / 16 < 16 by omega)
      have low := hexValue?_hexChar (show c.toNat % 16 < 16 by omega)
      have zero : hexValue? '0' = some 0 := by decide
      simp [scanLiteral, high, low, zero]
    · rename_i printable
      exact scanLiteral_plain quote backslash printable done cs
  all_goals simp [scanLiteral, shortEscape?]

/-- A written character is decoded to itself. -/
theorem decodeFrom_encodeChar (done : List Char) (c : Char) (cs : List Char) :
    decodeFrom done none (encodeChar c ++ cs) = decodeFrom (c :: done) none cs := by
  unfold encodeChar
  split
  case h_8 _ backslash _ _ _ _ _ =>
    split
    · rename_i control
      have noSurrogate : isTrailingSurrogate c.toNat = false ∧
          isLeadingSurrogate c.toNat = false := by
        simp only [isTrailingSurrogate, isLeadingSurrogate, Bool.and_eq_false_iff,
          decide_eq_false_iff_not]
        omega
      simp [decodeFrom, hexCode_escape control, noSurrogate, Char.ofNat_toNat]
    · exact decodeFrom_plain backslash done cs
  all_goals simp [decodeFrom, shortEscape?]

/-- A written text is scanned up to its closing quote. -/
theorem scanLiteral_encode (done cs rest : List Char) :
    scanLiteral done (cs.flatMap encodeChar ++ '"' :: rest) =
      .ok (⟨done.reverse ++ cs.flatMap encodeChar⟩, rest) := by
  induction cs generalizing done with
  | nil => simp [scanLiteral]
  | cons c cs ih =>
    rw [List.flatMap_cons, List.append_assoc, scanLiteral_encodeChar, ih, List.reverse_append,
      List.reverse_reverse, List.append_assoc]

theorem decodeFrom_encode (done cs : List Char) :
    decodeFrom done none (cs.flatMap encodeChar) = .ok (done.reverse ++ cs, none) := by
  induction cs generalizing done with
  | nil => simp [decodeFrom]
  | cons c cs ih =>
    rw [List.flatMap_cons, decodeFrom_encodeChar, ih, List.reverse_cons, List.append_assoc,
      List.singleton_append]

/-- A text that is written as a literal is read back. -/
@[simp] theorem Literal.decode_encode (s : String) : (Literal.encode s).decode = .ok s := by
  have read := decodeFrom_encode [] s.toList
  simp only [Literal.decode, Literal.encode, read, List.reverse_nil, List.nil_append,
    String.ofList_toList]

end HeaderBindings.Json
