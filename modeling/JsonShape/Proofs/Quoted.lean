import JsonShape.Text.Literal
import JsonShape.Text.Quoted

/-!
# Quoted text reads back

A text between quotes is read as itself, whatever its characters are and whatever follows the
closing quote: each escape is read as the character that it was written for. What is asked of a
spelling of the characters is no more than that, so it holds of every spelling that does so.
-/
namespace JsonShape.Text

/-- A digit below sixteen has its own value. -/
theorem hexValue?_hexDigit {value : Nat} (below : value < 16) :
    hexValue? (hexDigit value) = some value := by
  have all : ∀ digit < 16, hexValue? (hexDigit digit) = some digit := by decide
  exact all value below

/-- A hexadecimal escape is read as the control character that it was written for. -/
theorem readUnicode_hexEscape {c : Char} (control : c.toNat < 32) (rest : List Char) :
    readUnicode (((hexEscape c).drop 2) ++ rest) = .ok (c, rest) := by
  have high := hexValue?_hexDigit (show c.toNat / 16 % 16 < 16 by omega)
  have low := hexValue?_hexDigit (show c.toNat % 16 < 16 by omega)
  have zero : hexValue? '0' = some 0 := by decide
  have whole : ((0 * 16 + 0) * 16 + c.toNat / 16 % 16) * 16 + c.toNat % 16 = c.toNat := by omega
  have four : readFourHex (((hexEscape c).drop 2) ++ rest) = .ok (c.toNat, rest) := by
    simp only [hexEscape, List.drop_succ_cons, List.drop_zero, List.cons_append, List.nil_append,
      readFourHex, fourHex?, zero, high, low, Option.bind_eq_bind, Option.bind_some, whole,
      Option.pure_def]
  have notTrailing : isTrailing c.toNat = false := by simp [isTrailing]; omega
  have notLeading : isLeading c.toNat = false := by simp [isLeading]; omega
  simp [readUnicode, four, notTrailing, notLeading, bind, Except.bind]

section Characters

variable {c : Char} {text : List Char}

/-- A character whose escape is read is itself read, before the characters that follow. -/
theorem readCharacters_escape {rest : List Char} (read : readEscape rest = .ok (c, text))
    (fuel : Nat) : readCharacters (fuel + 1) ('\\' :: rest) =
      (readCharacters fuel text).map fun (others, rest) => (c :: others, rest) := by
  cases behind : readCharacters fuel text <;>
    simp [readCharacters, read, behind, bind, Except.bind, Except.map, pure, Except.pure]

/-- A control character is read from its hexadecimal escape. -/
theorem readCharacters_hexEscape (control : c.toNat < 32) (fuel : Nat) (text : List Char) :
    readCharacters (fuel + 1) (hexEscape c ++ text) =
      (readCharacters fuel text).map fun (others, rest) => (c :: others, rest) := by
  refine readCharacters_escape ?_ fuel
  exact readUnicode_hexEscape control text

end Characters

/-- An escaped character is read as itself, before the characters that follow. -/
theorem readCharacters_escaped (fuel : Nat) (c : Char) (text : List Char) :
    readCharacters (fuel + 1) (escaped c ++ text) =
      (readCharacters fuel text).map fun (others, rest) => (c :: others, rest) := by
  by_cases quote : c = '"'
  · subst quote
    exact readCharacters_escape rfl fuel
  by_cases backslash : c = '\\'
  · subst backslash
    exact readCharacters_escape rfl fuel
  by_cases backspace : c = '\x08'
  · subst backspace
    exact readCharacters_escape rfl fuel
  by_cases formFeed : c = '\x0c'
  · subst formFeed
    exact readCharacters_escape rfl fuel
  by_cases lineFeed : c = '\n'
  · subst lineFeed
    exact readCharacters_escape rfl fuel
  by_cases return_ : c = '\r'
  · subst return_
    exact readCharacters_escape rfl fuel
  by_cases tab : c = '\t'
  · subst tab
    exact readCharacters_escape rfl fuel
  by_cases control : c.toNat < 32
  · have form : escaped c = hexEscape c := by
      simp [escaped, quote, backslash, backspace, formFeed, lineFeed, return_, tab, control]
    rw [form]
    exact readCharacters_hexEscape control fuel text
  · have form : escaped c = [c] := by
      simp [escaped, quote, backslash, backspace, formFeed, lineFeed, return_, tab, control]
    rw [form]
    cases behind : readCharacters fuel text <;>
      simp [readCharacters, quote, backslash, control, behind, bind, Except.bind, Except.map, pure,
        Except.pure]

/-! ## Spellings -/

/-- A spelling of the characters inside quotes that is read back one character at a time. -/
structure IsSpelling (spell : Char → List Char) : Prop where
  /-- Every character is written with one character at least. -/
  some : ∀ c, 1 ≤ (spell c).length
  /-- A character is read as itself, before the characters that follow. -/
  read : ∀ fuel c text, readCharacters (fuel + 1) (spell c ++ text) =
    (readCharacters fuel text).map fun (others, rest) => (c :: others, rest)

/-- The escapes of quoted strings are read back. -/
theorem isSpelling_escaped : IsSpelling escaped where
  some c := by
    unfold escaped
    repeat' split
    all_goals simp [hexEscape]
  read := readCharacters_escaped

namespace IsSpelling

variable {spell : Char → List Char}

/-- Spelled characters up to a closing quote are read as themselves. -/
theorem readCharacters_flatMap (spells : IsSpelling spell) {fuel : Nat} {text : List Char}
    (enough : text.length < fuel) (rest : List Char) :
    readCharacters fuel (text.flatMap spell ++ '"' :: rest) = .ok (text, rest) := by
  induction text generalizing fuel with
  | nil =>
    obtain ⟨fuel, rfl⟩ := Nat.exists_eq_succ_of_ne_zero (Nat.ne_of_gt enough)
    rfl
  | cons c text ih =>
    obtain ⟨fuel, rfl⟩ := Nat.exists_eq_succ_of_ne_zero (Nat.ne_of_gt (Nat.zero_lt_of_lt enough))
    rw [List.flatMap_cons, List.append_assoc, spells.read, ih (Nat.lt_of_succ_lt_succ enough)]
    rfl

/-- A spelled text is no shorter than the text. -/
theorem length_le_flatMap (spells : IsSpelling spell) (text : List Char) :
    text.length ≤ (text.flatMap spell).length := by
  induction text with
  | nil => exact Nat.le_refl _
  | cons c text ih =>
    have one := spells.some c
    rw [List.flatMap_cons, List.length_append, List.length_cons]
    omega

/-- A text between quotes is read as itself, up to its closing quote. -/
theorem readString_flatMap (spells : IsSpelling spell) (text rest : List Char) :
    readString (text.flatMap spell ++ '"' :: rest) = .ok (String.ofList text, rest) := by
  have enough : text.length < (text.flatMap spell ++ '"' :: rest).length + 1 := by
    have least := spells.length_le_flatMap text
    rw [List.length_append]
    omega
  rw [readString, spells.readCharacters_flatMap enough]
  rfl

end IsSpelling

end JsonShape.Text
