import JsonShape.Proofs.Documents
import JsonShape.Proofs.Places
import JsonShape.Unicode.WhiteSpace
import Mathlib.Data.List.TakeWhile

/-!
# Written numbers

A number is written with visible characters, the first of which is a minus sign or a digit. A
reader of numbers stops at the first character that continues no number, so what it makes of a text
does not depend on what follows. Whether a number is read as itself is therefore a question of its
text alone.
-/
namespace JsonShape

/-! ## Visible characters -/

/-- What can be tested of each character of a text holds of all. -/
theorem forall_mem_of_all {P : Char → Prop} [DecidablePred P] {text : List Char}
    (all : text.all (P ·)) : ∀ c ∈ text, P c :=
  fun c among => of_decide_eq_true (List.all_eq_true.mp all c among)

/-- A character of ASCII that is neither a control character nor a space. -/
def IsVisible (c : Char) : Prop :=
  33 ≤ c.toNat ∧ c.toNat ≤ 126

instance (c : Char) : Decidable (IsVisible c) :=
  inferInstanceAs (Decidable (_ ∧ _))

/-- Visible characters are no blanks between tokens. -/
theorem IsVisible.isBlank_eq_false {c : Char} (visible : IsVisible c) : Text.isBlank c = false := by
  cases blank : Text.isBlank c with
  | false => rfl
  | true =>
    simp only [Text.isBlank, Bool.or_eq_true, decide_eq_true_eq] at blank
    rcases blank with ((rfl | rfl) | rfl) | rfl <;> exact absurd visible (by decide)

/-- Nor are they white space. -/
theorem IsVisible.isWhiteSpace_eq_false {c : Char} (visible : IsVisible c) :
    Unicode.isWhiteSpace c = false := by
  obtain ⟨above, below⟩ := visible
  simp [Unicode.isWhiteSpace, Unicode.whiteSpaceSingles]
  omega

/-! ## How numbers are written -/

/-- The decimal text of a number has only digits. -/
theorem isDigit_of_mem_toDigits {value : Nat} {c : Char} (among : c ∈ Nat.toDigits 10 value) :
    Text.isDigit c := by
  have digit := Nat.isDigit_of_mem_toDigits (by decide) (by decide) among
  simpa [Char.isDigit, Text.isDigit, Char.le_def] using digit

/-- A number is written with a digit first. -/
theorem toDigits_starts (value : Nat) :
    ∃ c rest, Nat.toDigits 10 value = c :: rest ∧ Text.isDigit c := by
  obtain ⟨c, rest, same⟩ := List.exists_cons_of_ne_nil Nat.toDigits_ne_nil
  exact ⟨c, rest, same, isDigit_of_mem_toDigits (same ▸ List.mem_cons_self)⟩

/-- Digits are visible. -/
theorem IsVisible.of_isDigit {c : Char} (digit : Text.isDigit c) : IsVisible c := by
  simp only [Text.isDigit, decide_eq_true_eq] at digit
  exact ⟨Nat.le_trans (by decide) digit.1, Nat.le_trans digit.2 (by decide)⟩

/-- So is the decimal text of a number. -/
theorem isVisible_toDigits (value : Nat) : ∀ c ∈ Nat.toDigits 10 value, IsVisible c :=
  fun _ among => .of_isDigit (isDigit_of_mem_toDigits among)

namespace DecimalLayout

variable {digits : List Char}

/-- The text of an exponent is visible. -/
theorem isVisible_exponentText (layout : DecimalLayout) (exponent : Int) :
    ∀ c ∈ layout.exponentText exponent, IsVisible c := by
  cases exponent with
  | ofNat power =>
    rw [exponentText, List.forall_mem_append]
    refine ⟨forall_mem_of_all ?_, isVisible_toDigits power⟩
    split <;> decide
  | negSucc less =>
    rw [exponentText, List.forall_mem_cons]
    exact ⟨by decide, isVisible_toDigits (less + 1)⟩

/-- A point among visible digits leaves them visible. -/
theorem isVisible_pointed (each : ∀ c ∈ digits, IsVisible c) (whole : Nat) :
    ∀ c ∈ pointed digits whole, IsVisible c := by
  unfold pointed
  split
  · rw [List.forall_mem_append, List.forall_mem_append]
    refine ⟨⟨each, fun c among => ?_⟩, forall_mem_of_all (by decide)⟩
    rw [List.eq_of_mem_replicate among]
    decide
  · rw [List.forall_mem_append, List.forall_mem_cons]
    exact ⟨fun c among => each c (List.mem_of_mem_take among), by decide,
      fun c among => each c (List.mem_of_mem_drop among)⟩

/-- Digits in a decimal layout are visible. -/
theorem isVisible_magnitudeText (layout : DecimalLayout) (each : ∀ c ∈ digits, IsVisible c)
    (leading : Int) : ∀ c ∈ layout.magnitudeText digits leading, IsVisible c := by
  unfold magnitudeText
  split
  · cases leading with
    | ofNat power => exact isVisible_pointed each (power + 1)
    | negSucc less =>
      rw [List.forall_mem_cons, List.forall_mem_cons, List.forall_mem_append]
      refine ⟨by decide, by decide, fun c among => ?_, each⟩
      rw [List.eq_of_mem_replicate among]
      decide
  · rw [List.forall_mem_append, List.forall_mem_append, List.forall_mem_cons]
    refine ⟨⟨fun c among => each c (List.mem_of_mem_take among), ?_⟩, by decide,
      layout.isVisible_exponentText leading⟩
    split
    · exact fun c none => by cases none
    · rw [List.forall_mem_cons]
      exact ⟨by decide, fun c among => each c (List.mem_of_mem_drop among)⟩

/-- A magnitude starts with its first digit, or with a zero in front of the point. -/
theorem magnitudeText_starts (layout : DecimalLayout) {first : Char} (digit : Text.isDigit first)
    (others : List Char) (leading : Int) :
    ∃ c rest, layout.magnitudeText (first :: others) leading = c :: rest ∧ Text.isDigit c := by
  unfold magnitudeText
  split
  · cases leading with
    | ofNat power =>
      simp only [pointed]
      split
      · exact ⟨first, _, rfl, digit⟩
      · exact ⟨first, _, rfl, digit⟩
    | negSucc less => exact ⟨'0', _, rfl, by decide⟩
  · exact ⟨first, _, rfl, digit⟩

end DecimalLayout

namespace Number

/-- The text of a number has only visible characters. -/
theorem isVisible_text (value : Number) : ∀ c ∈ value.text, IsVisible c := by
  cases value with
  | integer value lower upper =>
    cases value with
    | ofNat value => exact isVisible_toDigits value
    | negSucc less =>
      rw [text, integerText, List.forall_mem_cons]
      exact ⟨by decide, isVisible_toDigits (less + 1)⟩
  | double value =>
    rw [text, DecimalLayout.text, List.forall_mem_append]
    refine ⟨forall_mem_of_all ?_,
      DecimalLayout.isVisible_magnitudeText _ (isVisible_toDigits _) _⟩
    split <;> decide

/-- The text of a number starts with a sign or a digit. -/
theorem text_starts (value : Number) :
    ∃ c rest, value.text = c :: rest ∧ (c = '-' ∨ Text.isDigit c) := by
  cases value with
  | integer value lower upper =>
    cases value with
    | ofNat value =>
      obtain ⟨first, others, same, digit⟩ := toDigits_starts value
      exact ⟨first, others, same, .inr digit⟩
    | negSucc less => exact ⟨'-', _, rfl, .inl rfl⟩
  | double value =>
    obtain ⟨first, others, same, digit⟩ := toDigits_starts value.shortestForm.digits
    obtain ⟨c, rest, starts, alsoDigit⟩ := layout.magnitudeText_starts digit others
      (value.shortestForm.exponent + (first :: others).length - 1)
    rw [text, DecimalLayout.text, same, starts]
    cases value.negative with
    | false => exact ⟨c, rest, rfl, .inr alsoDigit⟩
    | true => exact ⟨'-', c :: rest, rfl, .inl rfl⟩

end Number

/-! ## Reading a number in front of a text -/

namespace Text

/-- A text that continues no number. -/
def StopsNumber (rest : List Char) : Prop :=
  ∀ c ∈ rest.head?, isDigit c = false ∧ c ≠ '.' ∧ c ≠ 'e' ∧ c ≠ 'E'

/-- Where a token can end, a number ends. -/
theorem Ends.stopsNumber {rest : List Char} (ends : Ends rest) : StopsNumber rest := by
  intro c first
  rcases ends c first with blank | mark
  · simp only [isBlank, Bool.or_eq_true, decide_eq_true_eq] at blank
    rcases blank with ((rfl | rfl) | rfl) | rfl <;> decide
  · rcases mark with rfl | rfl | rfl <;> decide

section

variable {text tail rest : List Char}

/-- Digits end where they end in front of a text that continues no number. -/
theorem digits_append (stops : StopsNumber rest) (text : List Char) :
    (text ++ rest).takeWhile isDigit = text.takeWhile isDigit ∧
      (text ++ rest).dropWhile isDigit = text.dropWhile isDigit ++ rest := by
  induction text with
  | nil =>
    cases rest with
    | nil => exact ⟨rfl, rfl⟩
    | cons first behind => simp [(stops first rfl).1]
  | cons c text ih => by_cases digit : isDigit c <;> simp [digit, ih]

/-- Digits are read alike before a text at which numbers stop. -/
theorem readDigits_append {digits : List Char} (stops : StopsNumber rest)
    (read : readDigits text = .ok (digits, tail)) :
    readDigits (text ++ rest) = .ok (digits, tail ++ rest) := by
  cases text with
  | nil => cases read
  | cons c others =>
    obtain ⟨taken, left⟩ := digits_append stops others
    rw [List.cons_append]
    rw [readDigits] at read ⊢
    split at read
    · next digit =>
      obtain ⟨rfl, rfl⟩ := Prod.mk.inj (Except.ok.inj read)
      rw [if_pos digit, taken, left]
    · cases read

/-- The digits before the point are digits of which the first is no zero, unless it stands alone. -/
theorem readWhole_eq_ok_iff {c : Char} {others : List Char} {digits : List Char} :
    readWhole (c :: others) = .ok (digits, tail) ↔
      (c = '0' → ∀ next ∈ others.head?, isDigit next = false) ∧
        readDigits (c :: others) = .ok (digits, tail) := by
  by_cases zero : c = '0'
  · subst zero
    cases others with
    | nil => simp [readWhole]
    | cons next behind =>
      by_cases digit : isDigit next
      · simp [readWhole, digit, fault]
      · simp [readWhole, readDigits, digit, show isDigit '0' = true from rfl]
  · simp [readWhole, zero]

/-- So is a whole part. -/
theorem readWhole_append {digits : List Char} (stops : StopsNumber rest)
    (read : readWhole text = .ok (digits, tail)) :
    readWhole (text ++ rest) = .ok (digits, tail ++ rest) := by
  cases text with
  | nil => cases read
  | cons c others =>
    obtain ⟨alone, found⟩ := readWhole_eq_ok_iff.mp read
    refine readWhole_eq_ok_iff.mpr ⟨fun zero next first => ?_, readDigits_append stops found⟩
    cases others with
    | nil => exact (stops next first).1
    | cons => exact alone zero next first

/-- Without a point there is no fraction. -/
theorem readFraction_of_not {text : List Char} (other : ∀ c ∈ text.head?, c ≠ '.') :
    readFraction text = .ok (none, text) := by
  unfold readFraction
  split
  · exact absurd rfl (other '.' rfl)
  · rfl

/-- So is a fraction, or its absence. -/
theorem readFraction_append {fraction : Option (List Char)} (stops : StopsNumber rest)
    (read : readFraction text = .ok (fraction, tail)) :
    readFraction (text ++ rest) = .ok (fraction, tail ++ rest) := by
  cases text with
  | nil =>
    obtain ⟨rfl, rfl⟩ := Prod.mk.inj (Except.ok.inj read)
    exact readFraction_of_not fun c first => (stops c first).2.1
  | cons c others =>
    by_cases point : c = '.'
    · subst point
      obtain ⟨⟨digits, behind⟩, found, made⟩ := bind_eq_ok.mp read
      obtain ⟨rfl, rfl⟩ := Prod.mk.inj (Except.ok.inj made)
      rw [List.cons_append, readFraction, readDigits_append stops found]
      rfl
    · have other (behind : List Char) : ∀ first ∈ (c :: behind).head?, first ≠ '.' := by
        rintro first ⟨⟩
        exact point
      rw [readFraction_of_not (other others)] at read
      obtain ⟨rfl, rfl⟩ := Prod.mk.inj (Except.ok.inj read)
      exact readFraction_of_not (other (others ++ rest))

/-- The same exponent in front of a text. -/
def Exponent.before (rest : List Char) (exponent : Exponent) : Exponent :=
  { exponent with text := exponent.text ++ rest }

/-- Without its letter there is no exponent. -/
theorem readExponent_of_not {text : List Char} (other : ∀ c ∈ text.head?, c ≠ 'e' ∧ c ≠ 'E') :
    readExponent text = .ok (none, text) := by
  cases text with
  | nil => rfl
  | cons c others =>
    obtain ⟨lower, upper⟩ := other c rfl
    simp [readExponent, lower, upper]

/-- The sign of an exponent, and the text behind it. -/
def exponentSign : List Char → Bool × List Char
  | '+' :: rest => (false, rest)
  | '-' :: rest => (true, rest)
  | rest => (false, rest)

/-- Behind its letter an exponent has a sign, if it likes, and digits. -/
theorem readExponent_cons {c : Char} (letter : c = 'e' ∨ c = 'E') (others : List Char) :
    readExponent (c :: others) = do
      let (digits, behind) ← readDigits (exponentSign others).2
      return (some ⟨(exponentSign others).1, digits, (exponentSign others).2⟩, behind) := by
  unfold readExponent
  exact if_pos letter

/-- The sign of an exponent is read alike before any text. -/
theorem exponentSign_append {text : List Char} (some : text ≠ []) (rest : List Char) :
    exponentSign (text ++ rest) = ((exponentSign text).1, (exponentSign text).2 ++ rest) := by
  cases text with
  | nil => exact absurd rfl some
  | cons c others =>
    by_cases plus : c = '+'
    · subst plus
      rfl
    · by_cases minus : c = '-'
      · subst minus
        rfl
      · simp [exponentSign, plus, minus]

/-- An exponent is read alike, and knows the text behind it. -/
theorem readExponent_append {exponent : Option Exponent} (stops : StopsNumber rest)
    (read : readExponent text = .ok (exponent, tail)) :
    readExponent (text ++ rest) = .ok (exponent.map (.before rest), tail ++ rest) := by
  cases text with
  | nil =>
    obtain ⟨rfl, rfl⟩ := Prod.mk.inj (Except.ok.inj read)
    exact readExponent_of_not fun c first => (stops c first).2.2
  | cons c others =>
    by_cases letter : c = 'e' ∨ c = 'E'
    · rw [readExponent_cons letter] at read
      obtain ⟨⟨digits, behind⟩, found, made⟩ := bind_eq_ok.mp read
      obtain ⟨rfl, rfl⟩ := Prod.mk.inj (Except.ok.inj made)
      have some : others ≠ [] := by
        rintro rfl
        cases found
      rw [List.cons_append, readExponent_cons letter, exponentSign_append some,
        readDigits_append stops found]
      rfl
    · have other (behind : List Char) :
          ∀ first ∈ (c :: behind).head?, first ≠ 'e' ∧ first ≠ 'E' := by
        rintro first ⟨⟩
        exact not_or.mp letter
      rw [readExponent_of_not (other others)] at read
      obtain ⟨rfl, rfl⟩ := Prod.mk.inj (Except.ok.inj read)
      exact readExponent_of_not (other (others ++ rest))

/-- A number is too large to be looked at for the digits of its exponent alone. -/
theorem overflowing?_append (stops : StopsNumber rest) (value : Nat) (text : List Char) :
    overflowing? value (text ++ rest) = (overflowing? value text).map (· ++ rest) := by
  induction text generalizing value with
  | nil =>
    cases rest with
    | nil => rfl
    | cons first behind => simp [overflowing?, (stops first rfl).1]
  | cons c others ih =>
    by_cases digit : isDigit c
    · by_cases large : 2147483647 < 10 * value + (c.toNat - 48)
      · simp [overflowing?, digit, large]
      · simp [overflowing?, digit, large, ih]
    · simp [overflowing?, digit]

namespace Numeral

/-- The same numeral in front of a text. -/
def before (rest : List Char) (numeral : Numeral) : Numeral :=
  { numeral with exponent := numeral.exponent.map (.before rest) }

/-- A numeral is the same integer before a text, or none. -/
theorem integer?_before (rest : List Char) (numeral : Numeral) :
    (numeral.before rest).integer? = numeral.integer? := by
  obtain ⟨negative, whole, fraction, exponent⟩ := numeral
  cases fraction <;> cases exponent <;> rfl

/-- The digits that are kept count the same powers of ten in front of a text. -/
theorem keptScale_before (rest : List Char) (numeral : Numeral) :
    (numeral.before rest).keptScale = numeral.keptScale := by
  obtain ⟨negative, whole, fraction, exponent⟩ := numeral
  cases exponent <;> rfl

/-- A numeral is looked at unless its exponent takes a number other than zero too far up. -/
theorem tooLargeAt?_eq_none_iff {numeral : Numeral} :
    numeral.tooLargeAt? = none ↔ ∀ exponent, numeral.exponent = some exponent →
      overflowing? 0 exponent.text = none ∨ exponent.negative ∨ numeral.digits = 0 := by
  cases present : numeral.exponent with
  | none => simp [tooLargeAt?, present]
  | some exponent =>
    cases large : overflowing? 0 exponent.text with
    | none => simp [tooLargeAt?, present, large]
    | some behind => simp [tooLargeAt?, present, large, Decidable.or_iff_not_imp_left]

/-- A numeral that is not too large is not too large before a text. -/
theorem tooLargeAt?_before (stops : StopsNumber rest) {numeral : Numeral}
    (small : numeral.tooLargeAt? = none) : (numeral.before rest).tooLargeAt? = none := by
  rw [tooLargeAt?_eq_none_iff] at small ⊢
  intro exponent present
  obtain ⟨inner, same, rfl⟩ := Option.map_eq_some_iff.mp present
  have moved := overflowing?_append stops 0 inner.text
  refine (small inner same).imp_left fun fits => ?_
  rwa [fits] at moved

/-- A numeral is read as its integer, else as the double its kept digits round to. -/
theorem number_eq_ok_iff {numeral : Numeral} {value : Number} :
    numeral.number tail = .ok value ↔ numeral.integer? = some value ∨
      numeral.integer? = none ∧ numeral.tooLargeAt? = none ∧ ∃ rounded,
        Double.ofWord? numeral.negative numeral.keptBoth.1 numeral.keptScale = some rounded ∧
          .double rounded = value := by
  cases integral : numeral.integer? with
  | some integer => simp [number, integral]
  | none =>
    cases large : numeral.tooLargeAt? with
    | some place => simp [number, integral, large, fault]
    | none =>
      cases scaled : Double.ofWord? numeral.negative numeral.keptBoth.1 numeral.keptScale with
      | none => simp [number, integral, large, scaled, fault]
      | some rounded => simp [number, integral, large, scaled]

/-- A numeral writes the same number in front of a text. -/
theorem number_before (stops : StopsNumber rest) {numeral : Numeral} {value : Number}
    (made : numeral.number tail = .ok value) (behind : List Char) :
    (numeral.before rest).number behind = .ok value := by
  rw [number_eq_ok_iff] at made ⊢
  rw [integer?_before, keptScale_before]
  exact made.imp_right fun ⟨integral, small, scaled⟩ =>
    ⟨integral, tooLargeAt?_before stops small, scaled⟩

end Numeral

/-- A numeral is read alike before a text at which numbers stop. -/
theorem readNumeral_append {negative : Bool} {numeral : Numeral} (stops : StopsNumber rest)
    (read : readNumeral negative text = .ok (numeral, tail)) :
    readNumeral negative (text ++ rest) = .ok (numeral.before rest, tail ++ rest) := by
  obtain ⟨⟨whole, behindWhole⟩, whole?, read⟩ := bind_eq_ok.mp read
  obtain ⟨⟨fraction, behindFraction⟩, fraction?, read⟩ := bind_eq_ok.mp read
  obtain ⟨⟨exponent, behind⟩, exponent?, made⟩ := bind_eq_ok.mp read
  obtain ⟨rfl, rfl⟩ := Prod.mk.inj (Except.ok.inj made)
  exact bind_eq_ok.mpr ⟨_, readWhole_append stops whole?,
    bind_eq_ok.mpr ⟨_, readFraction_append stops fraction?,
      bind_eq_ok.mpr ⟨_, readExponent_append stops exponent?, rfl⟩⟩⟩

/-- A number without a minus sign is that of its numeral. -/
theorem readNumber_unsigned {c : Char} (minus : c ≠ '-') (others : List Char) :
    readNumber (c :: others) = (do
      let numeral ← readNumeral false (c :: others)
      let number ← numeral.1.number numeral.2
      return (number, numeral.2)) := by
  simp [readNumber, minus]

/-- A number is read alike in front of every text that continues no number. -/
theorem readNumber_append {value : Number} (stops : StopsNumber rest)
    (read : readNumber text = .ok (value, tail)) :
    readNumber (text ++ rest) = .ok (value, tail ++ rest) := by
  have unsigned {negative : Bool} {digits : List Char}
      (found : (do
        let numeral ← readNumeral negative digits
        let number ← numeral.1.number numeral.2
        return (number, numeral.2)) = .ok (value, tail)) :
      (do
        let numeral ← readNumeral negative (digits ++ rest)
        let number ← numeral.1.number numeral.2
        return (number, numeral.2)) = .ok (value, tail ++ rest) := by
    obtain ⟨⟨numeral, behind⟩, numeral?, found⟩ := bind_eq_ok.mp found
    obtain ⟨number, number?, made⟩ := bind_eq_ok.mp found
    obtain ⟨rfl, rfl⟩ := Prod.mk.inj (Except.ok.inj made)
    exact bind_eq_ok.mpr ⟨_, readNumeral_append stops numeral?,
      bind_eq_ok.mpr ⟨_, Numeral.number_before stops number? _, rfl⟩⟩
  cases text with
  | nil => cases read
  | cons c others =>
    by_cases minus : c = '-'
    · subst minus
      exact unsigned read
    · rw [readNumber_unsigned minus] at read
      rw [List.cons_append, readNumber_unsigned minus]
      exact unsigned read

end

/-! ## Numbers that read back -/

/-- The value of a text that starts as a number is that number. -/
theorem ofText_number {text : List Char}
    (starts : ∃ c rest, text = c :: rest ∧ (c = '-' ∨ isDigit c)) :
    Tree.ofText text = leafOf .number (readNumber text) := by
  obtain ⟨c, rest, rfl, first⟩ := starts
  have mark : isBlank c = false := by
    rcases first with rfl | digit
    · rfl
    · exact (IsVisible.of_isDigit digit).isBlank_eq_false
  obtain ⟨inner, started⟩ := readValue_cons (c :: rest).length nestingLimit mark rest
  have letters : c ≠ '[' ∧ c ≠ '\x7b' ∧ c ≠ '"' ∧ c ≠ 'n' ∧ c ≠ 't' ∧ c ≠ 'f' := by
    refine ⟨?_, ?_, ?_, ?_, ?_, ?_⟩ <;> rintro rfl <;> revert first <;> decide
  obtain ⟨bracket, brace, quote, n, t, f⟩ := letters
  rw [Tree.ofText, started]
  simp [readStarted, bracket, brace, quote, n, t, f, first]

end Text

/-- A number is read as itself in front of every text at which a token can end, exactly when it is
read of its text alone. -/
theorem Number.readsBack_iff {value : Number} :
    (Scalar.number value).ReadsBack ↔ Json.ofText value.text = .ok (.number value) := by
  constructor
  · intro reads
    have distinct : (Json.number value).Distinct := trivial
    have found : Json.ofText ((Json.number value).text .compact 0 ++ []) = .ok (.number value) :=
      Json.ofText_text Text.Style.blank_compact distinct (Json.eachScalar_scalar_iff.mpr reads)
        (Nat.zero_le _) rfl
    rwa [List.append_nil] at found
  · intro read rest ends
    obtain ⟨meant, ended⟩ := Text.Reading.ofText_eq_ok_iff.mp (mapError_eq_ok.mp read)
    rw [Text.ofText_number value.text_starts] at meant ended
    cases found : Text.readNumber value.text with
    | error fault =>
      rw [found] at meant
      cases meant
    | ok result =>
      obtain ⟨number, tail⟩ := result
      rw [found] at meant ended
      obtain rfl : number = value := by
        cases meant
        rfl
      -- What is left of visible characters would have to be blank.
      have nothing : tail = [] := by
        cases tail with
        | nil => rfl
        | cons c others =>
          have behind := (Text.readNumber_suffix found).trans (List.tail_suffix _)
          have mark := (number.isVisible_text c (behind.mem List.mem_cons_self)).isBlank_eq_false
          have fails : Text.endText (c :: others) = .ok () := ended
          simp [Text.endText, Text.skipBlanks_of_not mark, Text.fault] at fails
      rw [nothing] at found
      exact Text.readNumber_append ends.stopsNumber found

end JsonShape
