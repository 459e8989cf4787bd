import JsonShape.Json.Writer
import JsonShape.Proofs.Quoted
import JsonShape.Text.Reading

/-!
# Written scalars read back

The text of a value without parts is read as that value, up to a text at which a token can end. Of
numbers this is an assumption, `Scalar.ReadsBack`: a double is written with the digits of its
shortest decimal, and nothing is said here about rounding. Words and strings need none, however the
characters of a string are spelled.
-/
namespace JsonShape

namespace Text

/-! ## Blanks -/

/-- Blanks in front of a text are skipped. -/
theorem skipBlanks_append {blanks : List Char} (all : blanks.all isBlank) (text : List Char) :
    skipBlanks (blanks ++ text) = skipBlanks text := by
  refine List.dropWhile_append_of_pos fun c among => ?_
  exact List.all_eq_true.mp all c among

/-- A text that starts with a character that is no blank is left as it is. -/
theorem skipBlanks_of_not {c : Char} (mark : isBlank c = false) (rest : List Char) :
    skipBlanks (c :: rest) = c :: rest := by
  simp [skipBlanks, mark]

/-- Nothing but blanks may follow the value of a text. -/
theorem endText_blanks {blanks : List Char} (all : blanks.all isBlank) :
    endText blanks = .ok () := by
  have nothing : skipBlanks blanks = [] := by
    have skipped := skipBlanks_append all []
    rwa [List.append_nil] at skipped
  simp [endText, nothing]

/-- A token can end where a text starts: with a blank, a comma or a closing bracket, or not at
all. -/
def Ends (rest : List Char) : Prop :=
  ∀ c ∈ rest.head?, isBlank c ∨ c = ',' ∨ c = ']' ∨ c = '\x7d'

/-- A token can end in front of blanks and what it can end in front of. -/
theorem Ends.append {blanks rest : List Char} (all : blanks.all isBlank) (ends : Ends rest) :
    Ends (blanks ++ rest) := by
  cases blanks with
  | nil => exact ends
  | cons first others =>
    intro c first?
    obtain rfl : first = c := Option.some.inj first?
    exact .inl (List.all_eq_true.mp all first List.mem_cons_self)

/-- A token can end at the end of a text. -/
theorem Ends.nil : Ends [] := by
  intro c none
  cases none

/-- A token can end in front of a comma or a closing bracket. -/
theorem Ends.mark {c : Char} (mark : c = ',' ∨ c = ']' ∨ c = '\x7d') (rest : List Char) :
    Ends (c :: rest) := by
  intro first same
  obtain rfl : c = first := Option.some.inj same
  exact .inr mark

/-- A text that starts with none of the characters that stand between values. -/
def Starts (text : List Char) : Prop :=
  ∃ c rest, text = c :: rest ∧ isBlank c = false ∧ c ≠ ']'

/-- A text that starts a value starts one whatever is behind it. -/
theorem Starts.append {text : List Char} (starts : Starts text) (rest : List Char) :
    Starts (text ++ rest) := by
  obtain ⟨c, others, rfl, mark, other⟩ := starts
  exact ⟨c, others ++ rest, rfl, mark, other⟩

/-- A text that starts a value has no blanks in front. -/
theorem Starts.skipBlanks {text : List Char} (starts : Starts text) : skipBlanks text = text := by
  obtain ⟨c, others, rfl, mark, _⟩ := starts
  exact skipBlanks_of_not mark others

/-- A number starts with a minus sign or a digit. -/
theorem readNumber_starts {text rest : List Char} {value : Number}
    (read : readNumber text = .ok (value, rest)) :
    ∃ c others, text = c :: others ∧ (c = '-' ∨ isDigit c) := by
  cases text with
  | nil => simp [readNumber, readNumeral, readWhole, readDigits, fault, bind, Except.bind] at read
  | cons c others =>
    refine ⟨c, others, rfl, ?_⟩
    by_cases minus : c = '-'
    · exact .inl minus
    by_cases digit : isDigit c
    · exact .inr digit
    have zero : c ≠ '0' := by
      rintro rfl
      exact digit (by decide)
    have whole : readWhole (c :: others) = fault .invalidNumber (.firstOf (c :: others)) := by
      simp [readWhole, zero, readDigits, digit]
    simp [readNumber, minus, readNumeral, whole, fault, bind, Except.bind] at read

end Text

open Text

/-- A value without parts that is read as itself. -/
def Scalar.ReadsBack : Scalar → Prop
  | .number value => ∀ rest, Ends rest → readNumber (value.text ++ rest) = .ok (value, rest)
  | _ => True

namespace Scalar

/-- The text of a value without parts, the characters of a string being spelled in some way. -/
def spelled (spell : Char → List Char) : Scalar → List Char
  | .string value => '"' :: (value.toList.flatMap spell ++ ['"'])
  | value => value.text

/-- A value without parts is spelled as it is written. -/
theorem spelled_escaped (value : Scalar) : value.spelled escaped = value.text := by
  cases value <;> rfl

/-- A spelled value starts with a character that starts a value. -/
theorem spelled_starts (spell : Char → List Char) {value : Scalar} (reads : value.ReadsBack) :
    Starts (value.spelled spell) := by
  cases value with
  | null => exact ⟨'n', _, rfl, by decide, by decide⟩
  | bool value =>
    cases value with
    | true => exact ⟨'t', _, rfl, by decide, by decide⟩
    | false => exact ⟨'f', _, rfl, by decide, by decide⟩
  | number value =>
    obtain ⟨c, rest, same, starts⟩ := readNumber_starts (reads [] Ends.nil)
    rw [List.append_nil] at same
    refine ⟨c, rest, same, ?_⟩
    rcases starts with rfl | digit
    · decide
    · constructor
      · cases blank : isBlank c with
        | false => rfl
        | true =>
          simp only [isBlank, Bool.or_eq_true, decide_eq_true_eq] at blank
          rcases blank with ((rfl | rfl) | rfl) | rfl <;> exact absurd digit (by decide)
      · rintro rfl
        exact absurd digit (by decide)
  | string value => exact ⟨'"', _, rfl, by decide, by decide⟩

end Scalar

namespace Text

/-- A literal word is read as its value. -/
theorem readWord_append (value : Scalar) (word rest : List Char) :
    readWord value word (word ++ rest) = .leaf value rest := by
  induction word with
  | nil => cases rest <;> rfl
  | cons letter word ih => simp [readWord, ih]

/-- A value whose first character is there is read from it, at any nesting. -/
theorem readValue_cons (fuel limit : Nat) {c : Char} (mark : isBlank c = false)
    (rest : List Char) :
    ∃ inner, readValue fuel limit (c :: rest) = readStarted fuel inner c rest := by
  cases limit with
  | zero => exact ⟨none, by simp [readValue, skipBlanks_of_not mark]⟩
  | succ limit => exact ⟨some (readValue fuel limit), by simp [readValue, skipBlanks_of_not mark]⟩

/-- A written scalar is read as itself, at any nesting. -/
theorem readValue_scalar {spell : Char → List Char} (spells : IsSpelling spell) {value : Scalar}
    (reads : value.ReadsBack) (fuel limit : Nat) {rest : List Char} (ends : Ends rest) :
    readValue fuel limit (value.spelled spell ++ rest) = .leaf value rest := by
  cases value with
  | null =>
    obtain ⟨inner, started⟩ :=
      readValue_cons fuel limit (show isBlank 'n' = false by decide) (['u', 'l', 'l'] ++ rest)
    exact started.trans (readWord_append .null ['u', 'l', 'l'] rest)
  | bool value =>
    cases value with
    | true =>
      obtain ⟨inner, started⟩ :=
        readValue_cons fuel limit (show isBlank 't' = false by decide) (['r', 'u', 'e'] ++ rest)
      exact started.trans (readWord_append (.bool true) ['r', 'u', 'e'] rest)
    | false =>
      obtain ⟨inner, started⟩ :=
        readValue_cons fuel limit (show isBlank 'f' = false by decide)
          (['a', 'l', 's', 'e'] ++ rest)
      exact started.trans (readWord_append (.bool false) ['a', 'l', 's', 'e'] rest)
  | number value =>
    have read := reads rest ends
    obtain ⟨c, others, same, starts⟩ := readNumber_starts read
    have mark : isBlank c = false := by
      obtain ⟨first, more, text, mark, _⟩ := Scalar.spelled_starts spell reads
      rw [show value.text = first :: more from text] at same
      obtain ⟨rfl, _⟩ := List.cons.inj same
      exact mark
    obtain ⟨inner, started⟩ := readValue_cons fuel limit mark others
    have text : (Scalar.number value).spelled spell ++ rest = c :: others := same
    rw [text, started]
    rw [same] at read
    have letters : c ≠ '[' ∧ c ≠ '\x7b' ∧ c ≠ '"' ∧ c ≠ 'n' ∧ c ≠ 't' ∧ c ≠ 'f' := by
      refine ⟨?_, ?_, ?_, ?_, ?_, ?_⟩ <;> rintro rfl <;> revert starts <;> decide
    obtain ⟨bracket, brace, quote, n, t, f⟩ := letters
    simp [readStarted, bracket, brace, quote, n, t, f, starts, read, leafOf]
  | string value =>
    obtain ⟨inner, started⟩ :=
      readValue_cons fuel limit (show isBlank '"' = false by decide)
        (value.toList.flatMap spell ++ '"' :: rest)
    have text : (Scalar.string value).spelled spell ++ rest =
        '"' :: (value.toList.flatMap spell ++ '"' :: rest) := by
      simp [Scalar.spelled]
    rw [text, started]
    simp [readStarted, spells.readString_flatMap, leafOf, String.ofList_toList]

end Text

end JsonShape
