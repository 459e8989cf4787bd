import JsonShape.Proofs.Numerals
import JsonShape.Proofs.Scaling

/-!
# Written numbers read back

The digits of a number, wherever the point and zeros are put between them, are read as a numeral of
the same value. An integer is read as itself. A double is written with digits that the nearest
double to them is; it is read as itself if machine arithmetic rounds these digits once, which it
does when they are few and the point is not far from them.
-/
namespace JsonShape

/-- A decimal whose digits, with the zeros that may stand behind them, have 53 binary digits, and
whose last digit counts a power of ten not far from one. -/
def Decimal.IsNear (form : Decimal) : Prop :=
  form.digits * 10 ^ (form.exponent + 1).toNat < 2 ^ 53 ∧ form.exponent.natAbs ≤ 22

instance (form : Decimal) : Decidable form.IsNear :=
  inferInstanceAs (Decidable (_ ∧ _))

namespace Text

/-! ## Digits -/

/-- One digit or more, and nothing else. -/
structure IsDigits (digits : List Char) : Prop where
  /-- There is a digit. -/
  nonempty : digits ≠ []
  /-- Every character is one. -/
  each : ∀ c ∈ digits, isDigit c

/-- The decimal text of a number is digits, and there is one at least. -/
theorem isDigits_toDigits (value : Nat) : IsDigits (Nat.toDigits 10 value) :=
  ⟨Nat.toDigits_ne_nil, fun _ among => isDigit_of_mem_toDigits among⟩

/-- Zeros are digits. -/
theorem isDigit_zeros (count : Nat) : ∀ c ∈ List.replicate count '0', isDigit c := by
  intro c among
  rw [List.eq_of_mem_replicate among]
  decide

/-- Digits behind other characters that are digits are digits. -/
theorem IsDigits.prepend {digits others : List Char} (is : IsDigits digits)
    (each : ∀ c ∈ others, isDigit c) : IsDigits (others ++ digits) :=
  ⟨List.append_ne_nil_of_right_ne_nil _ is.nonempty, List.forall_mem_append.mpr ⟨each, is.each⟩⟩

/-- Digits in front of other characters that are digits are digits. -/
theorem IsDigits.append {digits others : List Char} (is : IsDigits digits)
    (each : ∀ c ∈ others, isDigit c) : IsDigits (digits ++ others) :=
  ⟨List.append_ne_nil_of_left_ne_nil is.nonempty _, List.forall_mem_append.mpr ⟨is.each, each⟩⟩

/-- The decimal text of a number has the number as its value. -/
theorem digitsValue_toDigits (value : Nat) : digitsValue (Nat.toDigits 10 value) = value :=
  Nat.ofDigitChars_ten_toDigits

/-- Digits in front of others count as many powers of ten as there are others. -/
theorem digitsValue_append (digits others : List Char) :
    digitsValue (digits ++ others) =
      digitsValue digits * 10 ^ others.length + digitsValue others := by
  show Nat.ofDigitChars 10 (digits ++ others) 0 = _
  rw [Nat.ofDigitChars_append, Nat.ofDigitChars_eq_ofDigitChars_zero, Nat.mul_comm]
  rfl

/-- Zeros count nothing. -/
theorem digitsValue_zeros (count : Nat) : digitsValue (List.replicate count '0') = 0 := by
  show Nat.ofDigitChars 10 (List.replicate count '0') 0 = 0
  rw [Nat.ofDigitChars_replicate_zero, Nat.mul_zero]

/-- Digits write less than the power of ten of their count. -/
theorem digitsValue_lt {digits : List Char} (each : ∀ c ∈ digits, isDigit c) :
    digitsValue digits < 10 ^ digits.length := by
  induction digits with
  | nil => decide
  | cons c rest ih =>
    obtain ⟨first, more⟩ := List.forall_mem_cons.mp each
    have one : c.toNat - 48 ≤ 9 := by
      simp only [isDigit, decide_eq_true_eq] at first
      have bound : c.toNat ≤ '9'.toNat := first.2
      exact Nat.sub_le_of_le_add bound
    have lead : digitsValue [c] = c.toNat - 48 := Nat.zero_add _
    calc digitsValue (c :: rest)
      _ = (c.toNat - 48) * 10 ^ rest.length + digitsValue rest := by
        rw [← lead, ← digitsValue_append]
        rfl
      _ < 9 * 10 ^ rest.length + 10 ^ rest.length :=
        Nat.add_lt_add_of_le_of_lt (Nat.mul_le_mul_right _ one) (ih more)
      _ = 10 ^ (c :: rest).length := by rw [List.length_cons, Nat.pow_succ]; omega

/-- The first digit of a number is a zero only if the number is zero. -/
theorem eq_zero_of_head {value : Nat} (zero : (Nat.toDigits 10 value).head? = some '0') :
    value = 0 := by
  cases digits : Nat.toDigits 10 value with
  | nil => exact absurd digits Nat.toDigits_ne_nil
  | cons c rest =>
    rw [digits] at zero
    obtain rfl : c = '0' := Option.some.inj zero
    by_contra nonzero
    have written := digitsValue_toDigits value
    have each := (isDigits_toDigits value).each
    rw [digits] at written each
    have behind : rest ≠ [] := by
      rintro rfl
      exact nonzero written.symm
    -- Without its zero the number would be shorter than it is.
    have below : value < 10 ^ rest.length := by
      have same : digitsValue ('0' :: rest) = digitsValue rest := rfl
      rw [← written, same]
      exact digitsValue_lt fun c among => each c (List.mem_cons_of_mem _ among)
    have short := (Nat.length_toDigits_le_iff (by decide)
      (List.length_pos_iff.mpr behind)).mpr below
    rw [digits, List.length_cons] at short
    omega

/-- Digits behind some of many are digits. -/
theorem IsDigits.drop {digits : List Char} (is : IsDigits digits) {count : Nat}
    (more : count < digits.length) : IsDigits (digits.drop count) := by
  refine ⟨?_, fun c among => is.each c (List.mem_of_mem_drop among)⟩
  rw [ne_eq, List.drop_eq_nil_iff]
  exact Nat.not_le_of_lt more

/-! ## Reading what was put together -/

variable {digits rest : List Char}

/-- Digits are read up to a character that is none. -/
theorem readDigits_of_isDigits (is : IsDigits digits)
    (stops : ∀ c ∈ rest.head?, isDigit c = false) :
    readDigits (digits ++ rest) = .ok (digits, rest) := by
  obtain ⟨nonempty, each⟩ := is
  have ends : rest.takeWhile isDigit = [] ∧ rest.dropWhile isDigit = rest := by
    cases rest with
    | nil => exact ⟨rfl, rfl⟩
    | cons c others => simp [stops c rfl]
  cases digits with
  | nil => exact absurd rfl nonempty
  | cons c others =>
    obtain ⟨first, more⟩ := List.forall_mem_cons.mp each
    rw [List.cons_append, readDigits, if_pos first, List.takeWhile_append_of_pos more,
      List.dropWhile_append_of_pos more, ends.1, ends.2, List.append_nil]

/-- Digits of which the first is no zero, unless it stands alone. -/
structure IsWhole (digits : List Char) : Prop extends IsDigits digits where
  /-- A leading zero is the only digit. -/
  alone : digits.head? = some '0' → digits = ['0']

/-- The decimal text of a number has no zero in front unless it is zero. -/
theorem isWhole_toDigits (value : Nat) : IsWhole (Nat.toDigits 10 value) := by
  refine ⟨isDigits_toDigits value, fun zero => ?_⟩
  rw [eq_zero_of_head zero]
  rfl

/-- What can stand in front of a point can be cut short. -/
theorem IsWhole.take (is : IsWhole digits) {count : Nat} (some : 0 < count) :
    IsWhole (digits.take count) := by
  obtain ⟨⟨nonempty, each⟩, alone⟩ := is
  obtain ⟨fewer, rfl⟩ := Nat.exists_eq_succ_of_ne_zero (Nat.ne_of_gt some)
  cases digits with
  | nil => exact absurd rfl nonempty
  | cons c others =>
    refine ⟨⟨List.cons_ne_nil _ _, fun c among => each c (List.mem_of_mem_take among)⟩, ?_⟩
    intro zero
    rw [alone zero, List.take_succ_cons, List.take_nil]

/-- Zeros can stand behind what can stand in front of a point, but not behind a zero. -/
theorem IsWhole.append_zeros (is : IsWhole digits) {count : Nat}
    (none : digits = ['0'] → count = 0) : IsWhole (digits ++ List.replicate count '0') := by
  refine ⟨is.append (isDigit_zeros count), fun first => ?_⟩
  rw [List.head?_append_of_ne_nil _ is.nonempty] at first
  have alone := is.alone first
  rw [none alone, List.replicate_zero, List.append_nil]
  exact alone

/-- A whole part is read up to where its digits stop. -/
theorem readWhole_of_isWhole (is : IsWhole digits)
    (stops : ∀ c ∈ rest.head?, isDigit c = false) :
    readWhole (digits ++ rest) = .ok (digits, rest) := by
  have read := readDigits_of_isDigits is.toIsDigits stops
  cases digits with
  | nil => exact absurd rfl is.nonempty
  | cons c others =>
    refine readWhole_eq_ok_iff.mpr ⟨fun zero => ?_, read⟩
    obtain ⟨rfl, rfl⟩ := List.cons.inj (is.alone (congrArg some zero))
    exact stops

/-- The point and the digits behind it, if there are any. -/
def fractionText : Option (List Char) → List Char
  | none => []
  | some digits => '.' :: digits

/-- The digits behind the first are written behind a point, if there are any. -/
theorem IsDigits.exists_fraction (is : IsDigits digits) :
    ∃ fraction, (if digits.length ≤ 1 then [] else '.' :: digits.drop 1) = fractionText fraction ∧
      (∀ others ∈ fraction, IsDigits others) ∧ digits.take 1 ++ fraction.getD [] = digits := by
  split
  · rename_i single
    refine ⟨none, rfl, (fun _ nothing => by cases nothing), ?_⟩
    rw [Option.getD_none, List.append_nil, List.take_of_length_le single]
  · rename_i several
    refine ⟨some (digits.drop 1), rfl, fun others same => ?_, List.take_append_drop 1 digits⟩
    obtain rfl := Option.some.inj same
    exact is.drop (Nat.lt_of_not_le several)

/-- A fraction is read back with its digits, and a missing one as missing. -/
theorem readFraction_fractionText {fraction : Option (List Char)}
    (each : ∀ digits ∈ fraction, IsDigits digits)
    (stops : ∀ c ∈ rest.head?, isDigit c = false ∧ c ≠ '.') :
    readFraction (fractionText fraction ++ rest) = .ok (fraction, rest) := by
  cases fraction with
  | none => exact readFraction_of_not fun c first => (stops c first).2
  | some digits =>
    have read := readDigits_of_isDigits (each digits rfl) fun c first => (stops c first).1
    rw [fractionText, List.cons_append, readFraction, read]
    rfl

/-- Digits, the digits behind a point and an exponent are read as the parts of a numeral. -/
theorem readNumeral_of_parts {fraction : Option (List Char)} {exponent : Option Exponent}
    (is : IsWhole digits) (each : ∀ digits ∈ fraction, IsDigits digits)
    (stops : ∀ c ∈ rest.head?, isDigit c = false ∧ c ≠ '.')
    (read : readExponent rest = .ok (exponent, [])) (negative : Bool) :
    readNumeral negative (digits ++ (fractionText fraction ++ rest)) =
      .ok (⟨negative, digits, fraction, exponent⟩, []) := by
  have ends : ∀ c ∈ (fractionText fraction ++ rest).head?, isDigit c = false := by
    cases fraction with
    | none => exact fun c first => (stops c first).1
    | some digits =>
      rintro c ⟨⟩
      decide
  rw [readNumeral, readWhole_of_isWhole is ends]
  show (readFraction (fractionText fraction ++ rest) >>= _) = _
  rw [readFraction_fractionText each stops]
  show (readExponent rest >>= _) = _
  rw [read]
  rfl

/-- Digits have no sign in front of them. -/
theorem exponentSign_of_isDigits (is : IsDigits digits) :
    exponentSign digits = (false, digits) := by
  cases digits with
  | nil => rfl
  | cons c others =>
    have digit := is.each c List.mem_cons_self
    have plus : c ≠ '+' := by
      rintro rfl
      cases digit
    have minus : c ≠ '-' := by
      rintro rfl
      cases digit
    simp [exponentSign, plus, minus]

/-- The exponent of a power of ten. -/
def Exponent.ofInt (power : Int) : Exponent :=
  ⟨power < 0, Nat.toDigits 10 power.natAbs, Nat.toDigits 10 power.natAbs⟩

/-- The exponent made of a power counts that power. -/
theorem Exponent.value_ofInt (power : Int) : (Exponent.ofInt power).value = power := by
  rw [value, ofInt, digitsValue_toDigits]
  cases power with
  | ofNat power => simp
  | negSucc less => simp; omega

/-- A written exponent is read as the power of ten that it was written for. -/
theorem readExponent_exponentText (layout : DecimalLayout) (power : Int) :
    readExponent ('e' :: layout.exponentText power) = .ok (some (.ofInt power), []) := by
  have is := isDigits_toDigits power.natAbs
  have read : readDigits (Nat.toDigits 10 power.natAbs ++ []) =
      .ok (Nat.toDigits 10 power.natAbs, []) :=
    readDigits_of_isDigits is fun c none => by cases none
  rw [List.append_nil] at read
  have sign : exponentSign (layout.exponentText power) =
      (decide (power < 0), Nat.toDigits 10 power.natAbs) := by
    cases power with
    | ofNat power =>
      rw [DecimalLayout.exponentText]
      split
      · rfl
      · exact exponentSign_of_isDigits is
    | negSucc less =>
      rw [decide_eq_true (Int.negSucc_lt_zero less)]
      rfl
  rw [readExponent_cons (.inl rfl), sign, read]
  rfl

/-- Digits behind a number write no smaller one. -/
theorem le_ofDigitChars (digits : List Char) (value : Nat) :
    value ≤ Nat.ofDigitChars 10 digits value := by
  rw [Nat.ofDigitChars_eq_ofDigitChars_zero]
  exact Nat.le_add_right_of_le (Nat.le_mul_of_pos_left _ (Nat.pow_pos (by decide)))

/-- Digits of a small number are looked at to the end. -/
theorem overflowing?_eq_none {value : Nat} (each : ∀ c ∈ digits, isDigit c)
    (small : Nat.ofDigitChars 10 digits value ≤ 2147483647) :
    overflowing? value digits = none := by
  induction digits generalizing value with
  | nil => rfl
  | cons c others ih =>
    obtain ⟨first, more⟩ := List.forall_mem_cons.mp each
    have next : Nat.ofDigitChars 10 others (10 * value + (c.toNat - 48)) ≤ 2147483647 := small
    have least : 10 * value + (c.toNat - 48) ≤ 2147483647 :=
      Nat.le_trans (le_ofDigitChars others _) next
    rw [overflowing?, if_pos first, if_neg (Nat.not_lt_of_le least), ih more next]

/-- Digits that fit a 64-bit word are all kept. -/
theorem kept_of_lt {word : Nat} (fits : Nat.ofDigitChars 10 digits word < 2 ^ 64) :
    kept word digits = (Nat.ofDigitChars 10 digits word, 0) := by
  induction digits generalizing word with
  | nil => rfl
  | cons c others ih =>
    have more : Nat.ofDigitChars 10 others (10 * word + (c.toNat - 48)) < 2 ^ 64 := fits
    have least : 10 * word + (c.toNat - 48) < 2 ^ 64 :=
      Nat.lt_of_le_of_lt (le_ofDigitChars others _) more
    calc kept word (c :: others)
      _ = kept (10 * word + (c.toNat - 48)) others := if_pos least
      _ = (Nat.ofDigitChars 10 (c :: others) word, 0) := ih more

/-- A numeral whose digits fit a 64-bit word keeps them all, and the power of ten that the last one
counts. -/
theorem Numeral.kept_of_lt {numeral : Numeral} (fits : numeral.digits < 2 ^ 64) :
    numeral.keptBoth.1 = numeral.digits ∧ numeral.keptScale = numeral.scale := by
  have both : Nat.ofDigitChars 10 (numeral.fraction.getD []) (digitsValue numeral.whole) =
      numeral.digits := (Nat.ofDigitChars_append ..).symm
  have whole : numeral.keptWhole = (digitsValue numeral.whole, 0) := by
    refine Text.kept_of_lt (Nat.lt_of_le_of_lt ?_ fits)
    rw [← both]
    exact le_ofDigitChars _ _
  have all : numeral.keptBoth = (numeral.digits, 0) := by
    rw [keptBoth, whole, ← both]
    exact Text.kept_of_lt (both.symm ▸ fits)
  simp [keptScale, whole, all]

/-- Digits alone are an integer, but for the negative zero. -/
theorem Numeral.integer?_toDigits (negative : Bool) (magnitude : Nat) :
    Numeral.integer? ⟨negative, Nat.toDigits 10 magnitude, none, none⟩ =
      if negative then if magnitude = 0 then none else Number.ofInt? (-(magnitude : Int))
      else Number.ofInt? magnitude := by
  simp [Numeral.integer?, Numeral.digits, digitsValue_toDigits]

/-! ## Decimals -/

/-- A numeral with a fraction or an exponent that has the value of a decimal. -/
structure Numeral.Spells (numeral : Numeral) (form : Decimal) : Prop where
  /-- It is no integer. -/
  fractional : numeral.fraction ≠ none ∨ numeral.exponent ≠ none
  /-- Its exponent is looked at. -/
  near : numeral.tooLargeAt? = none
  /-- There may be zeros behind the digits of the decimal, one of them behind the point. -/
  zeros : ∃ zeros : Nat, numeral.digits = form.digits * 10 ^ zeros ∧
    numeral.scale = form.exponent - zeros ∧ zeros ≤ (form.exponent + 1).toNat

/-- A numeral of a near decimal that reads back as a double writes the double. -/
theorem Numeral.Spells.number {numeral : Numeral} {form : Decimal} {value : Double}
    (spells : numeral.Spells form) (reads : value.ReadsBack form) (few : form.IsNear)
    (sign : numeral.negative = value.negative) (behind : List Char) :
    numeral.number behind = .ok (.double value) := by
  obtain ⟨fractional, near, zeros, digits, scale, bound⟩ := spells
  have integral : numeral.integer? = none := by
    unfold Numeral.integer?
    split
    · rename_i none also
      exact absurd fractional (by simp [none, also])
    · rfl
  have short : numeral.digits < 2 ^ 53 := by
    rw [digits]
    exact Nat.lt_of_le_of_lt
      (Nat.mul_le_mul_left _ (Nat.pow_le_pow_right (by decide) bound)) few.1
  have inside : numeral.scale.natAbs ≤ 22 := by
    have exponent := few.2
    omega
  obtain ⟨word, power⟩ := numeral.kept_of_lt (Nat.lt_trans short (by decide))
  have rounded : Double.ofWord? numeral.negative numeral.keptBoth.1 numeral.keptScale =
      some value := by
    rw [word, power, Double.ofWord?_eq_ofDecimal? short inside, sign, digits, scale,
      Double.ofDecimal?_shift, Int.sub_add_cancel]
    exact reads
  exact Numeral.number_eq_ok_iff.mpr (.inr ⟨integral, near, value, rounded, rfl⟩)

end Text

open Text

/-- The power of ten that the first digit of a decimal counts. -/
def Decimal.leading (form : Decimal) : Int :=
  form.exponent + (Nat.toDigits 10 form.digits).length - 1

/-- A text that is read to its end as a numeral of a decimal, whatever its sign. -/
def Decimal.IsReadOf (form : Decimal) (text : List Char) : Prop :=
  ∀ negative, ∃ numeral, readNumeral negative text = .ok (numeral, []) ∧
    numeral.negative = negative ∧ numeral.Spells form

namespace Decimal

variable {form : Decimal} {whole : List Char} {zeros : Nat}

/-- Digits on both sides of a point are read as a decimal if they are its digits and zeros. -/
theorem isReadOf_fraction {fraction : List Char} (is : IsWhole whole) (behind : IsDigits fraction)
    (digits : digitsValue (whole ++ fraction) = form.digits * 10 ^ zeros)
    (scale : form.exponent + fraction.length = zeros)
    (bound : zeros ≤ (form.exponent + 1).toNat) : form.IsReadOf (whole ++ '.' :: fraction) := by
  intro negative
  have read : readNumeral negative (whole ++ (fractionText (some fraction) ++ [])) =
      .ok (⟨negative, whole, some fraction, none⟩, []) :=
    readNumeral_of_parts is (fun _ same => Option.some.inj same ▸ behind)
      (fun _ none => by cases none) rfl negative
  rw [List.append_nil] at read
  refine ⟨_, read, rfl, .inl (Option.some_ne_none _), ?_, zeros, digits, ?_, bound⟩
  · exact Numeral.tooLargeAt?_eq_none_iff.mpr fun exponent none => by cases none
  · show (0 : Int) - fraction.length = form.exponent - zeros
    omega

/-- A digit, the others behind a point and the exponent of the first are read as a decimal. -/
theorem isReadOf_exponent (layout : DecimalLayout) (near : form.leading ≤ 2147483647)
    {fraction : Option (List Char)} (is : IsWhole whole)
    (behind : ∀ digits ∈ fraction, IsDigits digits)
    (digits : whole ++ fraction.getD [] = Nat.toDigits 10 form.digits) (first : whole.length = 1) :
    form.IsReadOf
      (whole ++ (fractionText fraction ++ 'e' :: layout.exponentText form.leading)) := by
  intro negative
  have written : digitsValue (whole ++ fraction.getD []) = form.digits := by
    rw [digits, digitsValue_toDigits]
  have count : 1 + (fraction.getD []).length = (Nat.toDigits 10 form.digits).length := by
    rw [← digits, List.length_append, first]
  have read := readNumeral_of_parts is behind (by rintro c ⟨⟩; decide)
    (readExponent_exponentText layout form.leading) negative
  refine ⟨_, read, rfl, .inr (Option.some_ne_none _), ?_, 0, ?_, ?_, Nat.zero_le _⟩
  · refine Numeral.tooLargeAt?_eq_none_iff.mpr fun exponent same => ?_
    obtain rfl := Option.some.inj same
    -- No exponent with a minus sign is too large to be looked at.
    by_cases down : form.leading < 0
    · exact .inr (.inl (decide_eq_true down))
    · refine .inl (overflowing?_eq_none (isDigits_toDigits _).each ?_)
      show digitsValue (Nat.toDigits 10 form.leading.natAbs) ≤ 2147483647
      rw [digitsValue_toDigits]
      omega
  · rw [Nat.pow_zero, Nat.mul_one]
    exact written
  · show (Exponent.ofInt form.leading).value - ((fraction.getD []).length : Int) = _
    rw [Exponent.value_ofInt, leading, ← count]
    omega

/-- Digits with zeros behind them and an idle zero behind the point are read as their decimal. -/
theorem isReadOf_padded (zero : form.digits = 0 → form.exponent = 0)
    (exponent : form.exponent = zeros) :
    form.IsReadOf (Nat.toDigits 10 form.digits ++ List.replicate zeros '0' ++ ['.', '0']) := by
  have written := digitsValue_toDigits form.digits
  have whole : IsWhole (Nat.toDigits 10 form.digits ++ List.replicate zeros '0') := by
    refine (isWhole_toDigits form.digits).append_zeros fun alone => ?_
    have nothing : form.exponent = 0 := zero (by rw [← written, alone]; rfl)
    omega
  refine isReadOf_fraction whole (isDigits_toDigits 0) ?_
    (show form.exponent + 1 = (zeros + 1 : Nat) by omega) (by omega)
  show digitsValue (Nat.toDigits 10 form.digits ++ List.replicate zeros '0' ++ ['0']) = _
  rw [List.append_assoc, digitsValue_append, written, List.length_append, List.length_replicate,
    digitsValue_append, digitsValue_zeros, Nat.zero_mul]
  rfl

/-- Digits with a point among them are read as their decimal. -/
theorem isReadOf_parted {power : Nat} (leading : form.leading = power)
    (more : power + 1 < (Nat.toDigits 10 form.digits).length) :
    form.IsReadOf ((Nat.toDigits 10 form.digits).take (power + 1) ++
      '.' :: (Nat.toDigits 10 form.digits).drop (power + 1)) := by
  have is := isWhole_toDigits form.digits
  have value : digitsValue ((Nat.toDigits 10 form.digits).take (power + 1) ++
      (Nat.toDigits 10 form.digits).drop (power + 1)) = form.digits * 10 ^ 0 := by
    rw [List.take_append_drop, digitsValue_toDigits, Nat.pow_zero, Nat.mul_one]
  refine isReadOf_fraction (is.take (Nat.succ_pos power)) (is.drop more) value ?_ (Nat.zero_le _)
  rw [List.length_drop]
  rw [Decimal.leading] at leading
  omega

/-- Digits with a point among them, or behind them and zeros, are read as their decimal. -/
theorem isReadOf_pointed (zero : form.digits = 0 → form.exponent = 0) {power : Nat}
    (leading : form.leading = power) :
    form.IsReadOf (DecimalLayout.pointed (Nat.toDigits 10 form.digits) (power + 1)) := by
  unfold DecimalLayout.pointed
  split
  · rename_i few
    have exponent : form.exponent = (power + 1 - (Nat.toDigits 10 form.digits).length : Nat) := by
      rw [Decimal.leading] at leading
      omega
    exact isReadOf_padded zero exponent
  · rename_i many
    exact isReadOf_parted leading (Nat.lt_of_not_le many)

/-- Digits behind the point and zeros are read as their decimal. -/
theorem isReadOf_small {less : Nat} (leading : form.leading = .negSucc less) :
    form.IsReadOf ('0' :: '.' :: (List.replicate less '0' ++ Nat.toDigits 10 form.digits)) := by
  have behind : IsDigits (List.replicate less '0' ++ Nat.toDigits 10 form.digits) :=
    (isDigits_toDigits form.digits).prepend (isDigit_zeros less)
  have value : digitsValue (['0'] ++ (List.replicate less '0' ++ Nat.toDigits 10 form.digits)) =
      form.digits * 10 ^ 0 := by
    have nothing : digitsValue (['0'] ++ List.replicate less '0') = 0 :=
      digitsValue_zeros (less + 1)
    rw [← List.append_assoc, digitsValue_append, nothing, digitsValue_toDigits, Nat.zero_mul,
      Nat.zero_add, Nat.pow_zero, Nat.mul_one]
  refine isReadOf_fraction (isWhole_toDigits 0) behind value ?_ (Nat.zero_le _)
  rw [List.length_append, List.length_replicate]
  rw [Decimal.leading] at leading
  omega

/-- The text of a magnitude is read as its decimal, if its exponent is not too large. -/
theorem isReadOf_magnitudeText (layout : DecimalLayout)
    (zero : form.digits = 0 → form.exponent = 0) (near : form.leading ≤ 2147483647) :
    form.IsReadOf (layout.magnitudeText (Nat.toDigits 10 form.digits) form.leading) := by
  have is := isWhole_toDigits form.digits
  unfold DecimalLayout.magnitudeText
  split
  · cases leading : form.leading with
    | ofNat power => exact isReadOf_pointed zero leading
    | negSucc less => exact isReadOf_small leading
  · have first : ((Nat.toDigits 10 form.digits).take 1).length = 1 := by
      rw [List.length_take]
      exact Nat.min_eq_left (List.length_pos_iff.mpr is.nonempty)
    obtain ⟨fraction, text, behind, whole⟩ := is.exists_fraction
    rw [List.append_assoc, text]
    exact isReadOf_exponent layout near (is.take Nat.one_pos) behind whole first

end Decimal

/-! ## Doubles -/

namespace Double

variable {value : Double} {form : Decimal}

/-- Only zero reads back from no digits. -/
theorem ReadsBack.quanta_eq_zero (reads : value.ReadsBack form) (none : form.digits = 0) :
    value.quanta = 0 := by
  have found : some (zero value.negative) = some value := by
    rwa [ReadsBack, ofDecimal?.eq_def, if_pos none] at reads
  rw [← Option.some.inj found]
  rfl

/-- The first digit of a double that is not zero counts less than the 309th power of ten. -/
theorem ReadsBack.leading_lt (reads : value.ReadsBack form) (nonzero : form.digits ≠ 0) :
    form.leading < 309 := by
  by_contra large
  let count := (Nat.toDigits 10 form.digits).length
  let up := form.exponent.toNat
  let down := (-form.exponent).toNat
  have some : 0 < count := List.length_pos_iff.mpr Nat.toDigits_ne_nil
  have least : 10 ^ (count - 1) ≤ form.digits := by
    by_contra less
    rcases Nat.eq_zero_or_pos (count - 1) with single | several
    · rw [single] at less
      exact less (Nat.pos_of_ne_zero nonzero)
    · have short : count ≤ count - 1 :=
        (Nat.length_toDigits_le_iff (by decide) several).mpr (Nat.lt_of_not_le less)
      omega
  -- As a ratio the decimal is at least the power of ten of its first digit, which is past all
  -- doubles, so nothing could read back from it.
  have powers : form.leading.toNat + down = count - 1 + up := by
    simp only [Decimal.leading] at large ⊢
    omega
  have past : 2 ^ wholeBits * 10 ^ down ≤ form.digits * 10 ^ up := by
    calc 2 ^ wholeBits * 10 ^ down
      _ ≤ 10 ^ form.leading.toNat * 10 ^ down :=
        Nat.mul_le_mul_right _ (two_pow_wholeBits_le (by omega))
      _ = 10 ^ (count - 1) * 10 ^ up := by rw [← Nat.pow_add, powers, Nat.pow_add]
      _ ≤ form.digits * 10 ^ up := Nat.mul_le_mul_right _ least
  rw [ReadsBack, ofDecimal?_eq_ofRatio?,
    ofRatio?_eq_none_of_le (Nat.pow_pos (by decide)) past] at reads
  cases reads

/-- Zero is written without exponent. -/
theorem exponent_shortestForm (none : value.shortestForm.digits = 0) :
    value.shortestForm.exponent = 0 := by
  have zero := (readsBack_shortestForm value).quanta_eq_zero none
  rw [shortestForm, if_pos zero]

/-- The exponents of doubles are small. -/
theorem leading_shortestForm_lt (value : Double) : value.shortestForm.leading < 309 := by
  by_cases none : value.shortestForm.digits = 0
  · rw [Decimal.leading, exponent_shortestForm none, none]
    decide
  · exact (readsBack_shortestForm value).leading_lt none

/-- A double of a near form is read from its magnitude and its sign, however it is laid out. -/
theorem readNumeral_shortestForm (layout : DecimalLayout) (few : value.shortestForm.IsNear) :
    ∃ numeral, readNumeral value.negative (layout.magnitudeText
        (Nat.toDigits 10 value.shortestForm.digits) value.shortestForm.leading) =
      .ok (numeral, []) ∧ numeral.number [] = .ok (.double value) := by
  have near : value.shortestForm.leading ≤ 2147483647 :=
    Int.le_trans (Int.le_of_lt value.leading_shortestForm_lt) (by decide)
  obtain ⟨numeral, read, sign, spells⟩ :=
    Decimal.isReadOf_magnitudeText layout exponent_shortestForm near value.negative
  exact ⟨numeral, read, spells.number (readsBack_shortestForm value) few sign []⟩

end Double

/-! ## Numbers -/

/-- A sign and a magnitude that starts with a digit are read as one number. -/
theorem Text.readNumber_signed {negative : Bool} {text : List Char} {numeral : Numeral}
    {value : Number} (starts : ∃ c rest, text = c :: rest ∧ isDigit c)
    (read : readNumeral negative text = .ok (numeral, []))
    (made : numeral.number [] = .ok value) :
    readNumber ((if negative then ['-'] else []) ++ text) = .ok (value, []) := by
  cases negative with
  | true => exact bind_eq_ok.mpr ⟨_, read, bind_eq_ok.mpr ⟨value, made, rfl⟩⟩
  | false =>
    obtain ⟨c, rest, rfl, digit⟩ := starts
    have minus : c ≠ '-' := by
      rintro rfl
      cases digit
    rw [if_neg Bool.false_ne_true, List.nil_append, readNumber_unsigned minus]
    exact bind_eq_ok.mpr ⟨_, read, bind_eq_ok.mpr ⟨value, made, rfl⟩⟩

namespace Number

/-- An integer is read as itself. -/
theorem readNumber_integerText {value : Int} {number : Number} (made : ofInt? value = some number) :
    readNumber (integerText value) = .ok (number, []) := by
  have parts (negative : Bool) (magnitude : Nat) :
      readNumeral negative (Nat.toDigits 10 magnitude ++ (fractionText none ++ [])) =
        .ok (⟨negative, Nat.toDigits 10 magnitude, none, none⟩, []) :=
    readNumeral_of_parts (isWhole_toDigits magnitude) (fun _ nothing => by cases nothing)
      (fun _ nothing => by cases nothing) rfl negative
  simp only [fractionText, List.append_nil] at parts
  cases value with
  | ofNat magnitude =>
    have integral := Numeral.integer?_toDigits false magnitude
    rw [if_neg Bool.false_ne_true] at integral
    exact readNumber_signed (toDigits_starts magnitude) (parts false magnitude)
      (Numeral.number_eq_ok_iff.mpr (.inl (integral.trans made)))
  | negSucc less =>
    have integral := Numeral.integer?_toDigits true (less + 1)
    rw [if_pos rfl, if_neg (Nat.succ_ne_zero less)] at integral
    exact readNumber_signed (toDigits_starts (less + 1)) (parts true (less + 1))
      (Numeral.number_eq_ok_iff.mpr (.inl (integral.trans made)))

/-- An integer, or a double whose shortest form is near. -/
def IsNear : Number → Prop
  | .integer _ _ _ => True
  | .double value => value.shortestForm.IsNear

instance : (value : Number) → Decidable value.IsNear
  | .integer _ _ _ => isTrue trivial
  | .double value => inferInstanceAs (Decidable value.shortestForm.IsNear)

/-- A near number is read as itself. -/
theorem readNumber_text {value : Number} (near : value.IsNear) :
    readNumber value.text = .ok (value, []) := by
  cases value with
  | integer value lower upper => exact readNumber_integerText (dif_pos ⟨lower, upper⟩)
  | double value =>
    obtain ⟨numeral, read, made⟩ := Double.readNumeral_shortestForm layout near
    obtain ⟨first, others, digits, digit⟩ := toDigits_starts value.shortestForm.digits
    refine readNumber_signed ?_ read made
    rw [digits]
    exact layout.magnitudeText_starts digit others _

/-- A near number is read as itself in front of every text at which a token can end. -/
theorem readsBack_of_isNear {value : Number} (near : value.IsNear) :
    (Scalar.number value).ReadsBack :=
  fun _ ends => readNumber_append ends.stopsNumber (readNumber_text near)

end Number

/-- If a value without parts is a number, its text alone is read as the number. -/
def Scalar.Rereads : Scalar → Prop
  | .number value => Json.ofText value.text = .ok (.number value)
  | _ => True

/-- A number is read as itself alone if it is in front of every text at which a token can end. -/
theorem Scalar.rereads_iff {value : Scalar} : value.Rereads ↔ value.ReadsBack := by
  cases value with
  | number value => exact Number.readsBack_iff.symm
  | _ => exact Iff.rfl

/-- The text of a near number is read as the number. -/
theorem Number.rereads_of_isNear {value : Number} (near : value.IsNear) :
    (Scalar.number value).Rereads :=
  Scalar.rereads_iff.mpr (readsBack_of_isNear near)

/-- What a writer writes of a document within the nesting limit is read as the document, if the
texts of its numbers are read as the numbers. -/
theorem Json.ofText_write {style : Style} {spell : Char → List Char}
    {write : Nat → Json → List Char} (writes : IsWriter style spell write) {document : Json}
    (distinct : document.Distinct) (fits : document.depth ≤ nestingLimit)
    (rereads : document.EachScalar Scalar.Rereads) :
    Json.ofText (write 0 document) = .ok document := by
  have same : Scalar.Rereads = Scalar.ReadsBack :=
    funext fun _ => propext Scalar.rereads_iff
  have read := Json.ofText_written writes distinct (same ▸ rereads) fits
    (show ([] : List Char).all isBlank from rfl)
  rwa [List.append_nil] at read

/-- So is its compact text. -/
theorem Json.ofText_compact {document : Json} (distinct : document.Distinct)
    (fits : document.depth ≤ nestingLimit) (rereads : document.EachScalar Scalar.Rereads) :
    Json.ofText (document.text .compact 0) = .ok document :=
  ofText_write (isWriter_text Style.blank_compact) distinct fits rereads

end JsonShape
