/-!
# Finite doubles

A finite double is a sign and a whole number of *quanta*, the quantum being the least positive
double 2⁻¹⁰⁷⁴. Reading a ratio rounds it to the nearest double, a tie going to the even
neighbour; a ratio past the largest double has none. Powers are written by the function on natural
numbers, which means the same wherever a definition is read.
-/
namespace JsonShape

/-- The least whole number of `unit`s nearest to `amount`, a half going to the even number. -/
def roundHalfEven (amount unit : Nat) : Nat :=
  let whole := amount / unit
  let twice := 2 * (amount % unit)
  if twice < unit ∨ (twice = unit ∧ whole % 2 = 0) then whole else whole + 1

/-- A quantum is two to the power of minus this. -/
@[irreducible] def quantumBits : Nat := 1074

/-- Finite magnitudes have at most so many binary digits, in quanta. -/
@[irreducible] def magnitudeBits : Nat := 2098

/-- The quanta of one. -/
def quantaOfOne : Nat := Nat.pow 2 quantumBits

/-- A finite IEEE double, zero having two signs. -/
structure Double where
  /-- The sign, kept for zero too. -/
  negative : Bool
  /-- The magnitude in units of 2⁻¹⁰⁷⁴. -/
  quanta : Nat
  /-- The magnitude is below 2¹⁰²⁴. -/
  finite : quanta < Nat.pow 2 magnitudeBits
  /-- At most 53 binary digits are significant. -/
  precise : quanta % Nat.pow 2 (quanta.log2 - 52) = 0
deriving DecidableEq

namespace Double

/-- Zero of a sign. -/
def zero (negative : Bool) : Double :=
  ⟨negative, 0, Nat.two_pow_pos _, by decide⟩

/-- The same magnitude with the other sign. -/
def negate (value : Double) : Double :=
  { value with negative := !value.negative }

/-- The same magnitude without sign. -/
def abs (value : Double) : Double :=
  { value with negative := false }

/-- The value in quanta, with its sign. -/
def signedQuanta (value : Double) : Int :=
  if value.negative then -(value.quanta : Int) else value.quanta

/-- Rounding goes up by at most one unit. -/
theorem roundHalfEven_le (amount unit : Nat) : roundHalfEven amount unit ≤ amount / unit + 1 := by
  unfold roundHalfEven
  dsimp only
  split <;> omega

/-- Rounding to 53 binary digits leaves 53 significant digits. -/
theorem rounded_precise (amount unit shift : Nat) (small : amount / unit < Nat.pow 2 53) :
    (roundHalfEven amount unit * Nat.pow 2 shift) %
      Nat.pow 2 ((roundHalfEven amount unit * Nat.pow 2 shift).log2 - 52) = 0 := by
  simp only [Nat.pow_eq] at *
  have bound : roundHalfEven amount unit ≤ 2 ^ 53 :=
    Nat.le_trans (roundHalfEven_le amount unit) small
  generalize roundHalfEven amount unit = significand at bound
  apply Nat.mod_eq_zero_of_dvd
  rcases Nat.lt_or_eq_of_le bound with below | same
  · have short : (significand * 2 ^ shift).log2 - 52 ≤ shift := by
      by_cases zero : significand * 2 ^ shift = 0
      · simp [zero]
      · have width : (significand * 2 ^ shift).log2 < 53 + shift := by
          rw [Nat.log2_lt zero, Nat.pow_add]
          exact Nat.mul_lt_mul_of_pos_right below (Nat.two_pow_pos shift)
        omega
    exact Nat.dvd_trans (Nat.pow_dvd_pow 2 short) (Nat.dvd_mul_left _ _)
  · subst same
    rw [← Nat.pow_add, Nat.log2_two_pow]
    exact Nat.pow_dvd_pow 2 (by omega)

/-- A magnitude below 2⁵³ times its unit is cut to its 53 leading digits. -/
theorem leading_lt (scaled den : Nat) :
    scaled / (den * Nat.pow 2 ((scaled / den).log2 - 52)) < Nat.pow 2 53 := by
  simp only [Nat.pow_eq]
  rw [← Nat.div_div_eq_div_mul]
  rw [Nat.div_lt_iff_lt_mul (Nat.two_pow_pos _)]
  have width : scaled / den < 2 ^ ((scaled / den).log2 + 1) := Nat.lt_log2_self
  refine Nat.lt_of_lt_of_le width ?_
  rw [← Nat.pow_add]
  exact Nat.pow_le_pow_right (by decide) (by omega)

/-- The double nearest to a ratio, with a sign; none when it would be 2¹⁰²⁴ or more. -/
def ofRatio? (negative : Bool) (num den : Nat) : Option Double :=
  let scaled := num * quantaOfOne
  let shift := (scaled / den).log2 - 52
  let quanta := roundHalfEven scaled (den * Nat.pow 2 shift) * Nat.pow 2 shift
  if h : quanta < Nat.pow 2 magnitudeBits then
    some ⟨negative, quanta, h, rounded_precise _ _ _ (leading_lt scaled den)⟩
  else none

/-- The double nearest to `digits · 10 ^ exponent`, with a sign. No power of ten past the range
of doubles is formed: from 10³⁰⁹ on nothing is finite, and what is below half a quantum is zero. -/
def ofDecimal? (negative : Bool) (digits : Nat) (exponent : Int) : Option Double :=
  if digits = 0 then some (zero negative)
  else match exponent with
    | .ofNat scale =>
      if 309 ≤ scale then none else ofRatio? negative (digits * Nat.pow 10 scale) 1
    | .negSucc less =>
      if digits.log2 + 1076 ≤ 3 * (less + 1) then some (zero negative)
      else ofRatio? negative digits (Nat.pow 10 (less + 1))

/-- The double nearest to an integer. -/
def ofInt? (value : Int) : Option Double :=
  ofRatio? (value < 0) value.natAbs 1

/-- Order by value; zeros of both signs are equal. -/
def compare (left right : Double) : Ordering :=
  Ord.compare left.signedQuanta right.signedQuanta

end Double

end JsonShape
