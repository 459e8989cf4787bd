import JsonShape.Double.Scaling
import JsonShape.Proofs.Rounding

/-!
# Decimals that machine arithmetic rounds once

A decimal is made a double in up to three steps that round. A word of digits below 2⁵³ is a double
as it stands, and so is a power of ten up to 10²². Where both are, the product or the quotient is
the only step that rounds, and what it rounds is the decimal: the result is the nearest double.
-/
namespace JsonShape

namespace Double

/-! ## Whole numbers that are doubles -/

/-- A number of 53 binary digits times a power of two is nearest to itself. -/
theorem nearest_whole {digits : Nat} (short : digits < 2 ^ 53) (shift : Nat) :
    nearest (digits * 2 ^ shift) 1 = digits * 2 ^ shift * quantaOfOne := by
  have quanta : digits * 2 ^ (shift + quantumBits) = digits * 2 ^ shift * quantaOfOne := by
    rw [Nat.pow_add, ← Nat.mul_assoc]
    rfl
  have precise := rounded_precise digits 1 (shift + quantumBits) (by rwa [Nat.div_one])
  rw [roundHalfEven_of_dvd Nat.one_pos (Nat.one_dvd digits), Nat.div_one, Nat.pow_eq, quanta]
    at precise
  calc nearest (digits * 2 ^ shift) 1
    _ = nearest (digits * 2 ^ shift * quantaOfOne) (1 * quantaOfOne) :=
      (nearest_mul quantaOfOne_pos _ _).symm
    _ = digits * 2 ^ shift * quantaOfOne := by rw [Nat.one_mul, nearest_of_precise precise]

/-- A word of 53 binary digits is nearest to itself. -/
theorem nearest_word {word : Nat} (short : word < 2 ^ 53) :
    nearest word 1 = word * quantaOfOne := by
  have whole := nearest_whole short 0
  rwa [Nat.pow_zero, Nat.mul_one] at whole

/-- A power of ten up to the twenty-second is nearest to itself: its fives fit 53 binary digits. -/
theorem nearest_ten_pow {power : Nat} (near : power ≤ 22) :
    nearest (10 ^ power) 1 = 10 ^ power * quantaOfOne := by
  have fives : 5 ^ power < 2 ^ 53 := by
    calc 5 ^ power
      _ ≤ 5 ^ 22 := Nat.pow_le_pow_right (by decide) near
      _ < 2 ^ 53 := by decide
  have parts : 10 ^ power = 5 ^ power * 2 ^ power := Nat.mul_pow 5 2 power
  rw [parts]
  exact nearest_whole fives power

/-- A whole number of a hundred binary digits that is nearest to itself is a double. -/
theorem exists_ofRatio_whole {num : Nat} (exact : nearest num 1 = num * quantaOfOne)
    (small : num < 2 ^ 100) :
    ∃ value : Double, Extended.ofRatio false num 1 = .finite value ∧ value.negative = false ∧
      value.quanta = num * quantaOfOne := by
  have finite : nearest num 1 < 2 ^ magnitudeBits := by
    have parts : 100 + quantumBits ≤ magnitudeBits := by
      unfold magnitudeBits quantumBits
      decide
    calc nearest num 1
      _ = num * quantaOfOne := exact
      _ < 2 ^ 100 * quantaOfOne := Nat.mul_lt_mul_of_pos_right small quantaOfOne_pos
      _ = 2 ^ (100 + quantumBits) := (Nat.pow_add ..).symm
      _ ≤ 2 ^ magnitudeBits := Nat.pow_le_pow_right (by decide) parts
  obtain ⟨value, found⟩ := exists_ofRatio? finite false
  obtain ⟨sign, quanta⟩ := ofRatio?_eq_some_iff.mp found
  exact ⟨value, by rw [Extended.ofRatio, found, Option.elim], sign, quanta.trans exact⟩

/-- So is a word of 53 binary digits. -/
theorem exists_ofRatio_word {word : Nat} (short : word < 2 ^ 53) :
    ∃ value : Double, Extended.ofRatio false word 1 = .finite value ∧ value.negative = false ∧
      value.quanta = word * quantaOfOne :=
  exists_ofRatio_whole (nearest_word short) (Nat.lt_trans short (by decide))

/-- And so is a power of ten up to the twenty-second. -/
theorem exists_ten {power : Nat} (near : power ≤ 22) :
    ∃ value : Double, Extended.ten power = .finite value ∧ value.negative = false ∧
      value.quanta = 10 ^ power * quantaOfOne := by
  have small : 10 ^ power < 2 ^ 100 := by
    calc 10 ^ power
      _ ≤ 10 ^ 22 := Nat.pow_le_pow_right (by decide) near
      _ < 2 ^ 100 := by decide
  exact exists_ofRatio_whole (nearest_ten_pow near) small

end Double

/-! ## One product, one quotient -/

namespace Extended

/-- Ratios with the same nearest quanta are rounded alike. -/
theorem ofRatio_congr {num den other also : Nat}
    (same : Double.nearest num den = Double.nearest other also) (negative : Bool) :
    ofRatio negative num den = ofRatio negative other also := by
  rw [ofRatio, ofRatio, Double.ofRatio?_congr same]

variable {word power : Nat}

/-- A short word times a near power of ten is rounded once. -/
theorem mul_ten (short : word < 2 ^ 53) (near : power ≤ 22) :
    (ofRatio false word 1).mul (ten power) = ofRatio false (word * 10 ^ power) 1 := by
  obtain ⟨left, word?, sign, quanta⟩ := Double.exists_ofRatio_word short
  obtain ⟨right, ten?, also, quanta'⟩ := Double.exists_ten near
  have product : word * quantaOfOne * (10 ^ power * quantaOfOne) =
      word * 10 ^ power * (quantaOfOne * quantaOfOne) := by ring
  rw [word?, ten?, mul]
  simp only [isNegative, sign, also, quanta, quanta', product]
  -- The product has the quanta of one twice, and they are reduced before anything is rounded.
  refine ofRatio_congr ?_ false
  have factor := Nat.mul_pos Double.quantaOfOne_pos Double.quantaOfOne_pos
  have reduced := Double.nearest_mul factor (word * 10 ^ power) 1
  rwa [Nat.one_mul] at reduced

/-- A short word divided by a near power of ten is rounded once. -/
theorem div_ten (short : word < 2 ^ 53) (near : power ≤ 22) :
    (ofRatio false word 1).div (ten power) = ofRatio false word (10 ^ power) := by
  obtain ⟨left, word?, sign, quanta⟩ := Double.exists_ofRatio_word short
  obtain ⟨right, ten?, also, quanta'⟩ := Double.exists_ten near
  have nonzero : 10 ^ power * quantaOfOne ≠ 0 :=
    Nat.ne_of_gt (Nat.mul_pos (Nat.pow_pos (by decide)) Double.quantaOfOne_pos)
  rw [word?, ten?, div]
  simp only [isNegative, sign, also, quanta, quanta', if_neg nonzero]
  exact ofRatio_congr (Double.nearest_mul Double.quantaOfOne_pos word (10 ^ power)) false

/-- A short word times a near power of ten, up or down, is rounded once. -/
theorem scaled_eq_ofRatio (short : word < 2 ^ 53) {exponent : Int} (near : exponent.natAbs ≤ 22) :
    (ofRatio false word 1).scaled exponent =
      ofRatio false (word * 10 ^ exponent.toNat) (10 ^ (-exponent).toNat) := by
  cases exponent with
  | ofNat power =>
    have up : power ≤ 22 := near
    have inside : power ≤ 308 := Nat.le_trans up (by decide)
    have none : (-Int.ofNat power).toNat = 0 := by simp
    rw [scaled, if_pos inside, mul_ten short up, none]
    rfl
  | negSucc less =>
    have down : less + 1 ≤ 22 := near
    -- A number this near is divided once, not first by the largest power of ten.
    have once : less / 308 = 0 := Nat.div_eq_of_lt (by omega)
    have rest : less % 308 = less := Nat.mod_eq_of_lt (by omega)
    have whole : word * 10 ^ (Int.negSucc less).toNat = word := Nat.mul_one _
    rw [scaled, once, rest, lowered, div_ten short down, whole]
    rfl

end Extended

namespace Double

/-- The sign of a rounded ratio is what it is given. -/
theorem ofRatio?_sign (negative : Bool) (num den : Nat) :
    ofRatio? negative num den =
      (ofRatio? false num den).map fun value => { value with negative := negative } := by
  simp only [ofRatio?]
  split <;> rfl

/-- A short word with a near exponent becomes the double nearest to the decimal. -/
theorem ofWord?_eq_ofDecimal? {word : Nat} (short : word < 2 ^ 53) {exponent : Int}
    (near : exponent.natAbs ≤ 22) (negative : Bool) :
    ofWord? negative word exponent = ofDecimal? negative word exponent := by
  rw [ofDecimal?_eq_ofRatio?, ofRatio?_sign, ofWord?, Extended.scaled_eq_ofRatio short near,
    Extended.ofRatio]
  cases ofRatio? false (word * 10 ^ exponent.toNat) (10 ^ (-exponent).toNat) <;> rfl

end Double

end JsonShape
