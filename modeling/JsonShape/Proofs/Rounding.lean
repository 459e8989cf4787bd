import JsonShape.Double.Shortest
import Mathlib.Data.Nat.Log
import Mathlib.Tactic.Ring

/-!
# Rounding a decimal

The double nearest to a ratio depends on the ratio and not on how it is written, and the cases in
which a decimal is rounded without forming its power of ten give what the ratio gives. So decimals
of one value are read as one double. All digits of a double are its exact value, which rounding
leaves as it is, and the shortest form is one that was tried and read back.
-/
namespace JsonShape

/-! ## Rounding to a whole number -/

/-- A common factor changes no rounding. -/
theorem roundHalfEven_mul {factor : Nat} (positive : 0 < factor) (amount unit : Nat) :
    roundHalfEven (amount * factor) (unit * factor) = roundHalfEven amount unit := by
  have less : 2 * (amount % unit * factor) < unit * factor ↔ 2 * (amount % unit) < unit := by
    rw [← Nat.mul_assoc]
    exact Nat.mul_lt_mul_right positive
  have same : 2 * (amount % unit * factor) = unit * factor ↔ 2 * (amount % unit) = unit := by
    rw [← Nat.mul_assoc]
    exact Nat.mul_left_inj (Nat.ne_of_gt positive)
  simp only [roundHalfEven, Nat.mul_div_mul_right _ _ positive, Nat.mul_mod_mul_right, less, same]

/-- A whole number of units is rounded to itself. -/
theorem roundHalfEven_of_dvd {amount unit : Nat} (positive : 0 < unit) (whole : unit ∣ amount) :
    roundHalfEven amount unit = amount / unit := by
  simp [roundHalfEven, Nat.mod_eq_zero_of_dvd whole, positive]

/-- Less than half a unit is rounded to zero. -/
theorem roundHalfEven_eq_zero {amount unit : Nat} (small : 2 * amount < unit) :
    roundHalfEven amount unit = 0 := by
  have below : amount < unit := by omega
  simp [roundHalfEven, Nat.div_eq_of_lt below, Nat.mod_eq_of_lt below, small]

/-- Rounding never goes below the whole units. -/
theorem le_roundHalfEven (amount unit : Nat) : amount / unit ≤ roundHalfEven amount unit := by
  simp only [roundHalfEven]
  split <;> omega

namespace Double

/-! ## Rounding a ratio -/

/-- One is some quanta. -/
theorem quantaOfOne_pos : 0 < quantaOfOne :=
  Nat.two_pow_pos _

/-- The quanta of the double nearest to a ratio, whether or not they are finite. -/
def nearest (num den : Nat) : Nat :=
  let scaled := num * quantaOfOne
  let shift := (scaled / den).log2 - 52
  roundHalfEven scaled (den * 2 ^ shift) * 2 ^ shift

/-- A ratio gives the double of its sign and of the nearest quanta. -/
theorem ofRatio?_eq_some_iff {negative : Bool} {num den : Nat} {value : Double} :
    ofRatio? negative num den = some value ↔
      value.negative = negative ∧ value.quanta = nearest num den := by
  obtain ⟨sign, quanta, finite, precise⟩ := value
  rw [ofRatio?]
  constructor
  · intro found
    split at found
    · cases found
      exact ⟨rfl, rfl⟩
    · cases found
  · rintro ⟨rfl, rfl⟩
    exact dif_pos finite

/-- There is a double when the nearest quanta are finite. -/
theorem exists_ofRatio? {num den : Nat} (finite : nearest num den < 2 ^ magnitudeBits)
    (negative : Bool) : ∃ value, ofRatio? negative num den = some value := by
  rw [ofRatio?]
  exact ⟨_, dif_pos finite⟩

/-- There is no double when the nearest quanta are too many. -/
theorem ofRatio?_eq_none {num den : Nat} (large : 2 ^ magnitudeBits ≤ nearest num den)
    (negative : Bool) : ofRatio? negative num den = none := by
  cases found : ofRatio? negative num den with
  | none => rfl
  | some value =>
    have finite : value.quanta < 2 ^ magnitudeBits := value.finite
    rw [(ofRatio?_eq_some_iff.mp found).2] at finite
    exact absurd large (Nat.not_le_of_gt finite)

/-- Ratios with the same nearest quanta give the same double. -/
theorem ofRatio?_congr {num den other also : Nat} (same : nearest num den = nearest other also)
    (negative : Bool) : ofRatio? negative num den = ofRatio? negative other also := by
  refine Option.ext fun value => ?_
  rw [ofRatio?_eq_some_iff, ofRatio?_eq_some_iff, same]

/-- A common factor changes no nearest quanta. -/
theorem nearest_mul {factor : Nat} (positive : 0 < factor) (num den : Nat) :
    nearest (num * factor) (den * factor) = nearest num den := by
  have scaled : num * factor * quantaOfOne = num * quantaOfOne * factor := by ring
  have cut : num * quantaOfOne * factor / (den * factor) = num * quantaOfOne / den :=
    Nat.mul_div_mul_right _ _ positive
  have unit (shift : Nat) : den * factor * 2 ^ shift = den * 2 ^ shift * factor := by ring
  simp only [nearest, scaled, cut, unit, roundHalfEven_mul positive]

/-- The double nearest to less than half a quantum is zero. -/
theorem nearest_eq_zero {num den : Nat} (small : 2 * (num * quantaOfOne) < den) :
    nearest num den = 0 := by
  have below : num * quantaOfOne / den = 0 := Nat.div_eq_of_lt (by omega)
  have none : Nat.log2 0 = 0 := by decide
  simp [nearest, below, none, roundHalfEven_eq_zero small]

/-- The quanta nearest to a great number of quanta are as many at least. -/
theorem le_nearest {num den bits : Nat} (positive : 0 < den)
    (large : 2 ^ bits * den ≤ num * quantaOfOne) : 2 ^ bits ≤ nearest num den := by
  let scaled := num * quantaOfOne
  let width := (scaled / den).log2
  have many : 2 ^ bits ≤ scaled / den := (Nat.le_div_iff_mul_le positive).mpr large
  have nonzero : scaled / den ≠ 0 := Nat.ne_of_gt (Nat.lt_of_lt_of_le (Nat.two_pow_pos _) many)
  have wide : bits ≤ width := (Nat.le_log2 nonzero).mpr many
  have leading : 2 ^ (width - (width - 52)) ≤ scaled / (den * 2 ^ (width - 52)) := by
    rw [← Nat.div_div_eq_div_mul, Nat.le_div_iff_mul_le (Nat.two_pow_pos _), ← Nat.pow_add,
      Nat.sub_add_cancel (Nat.sub_le _ _)]
    exact Nat.log2_self_le nonzero
  calc 2 ^ bits
    _ ≤ 2 ^ width := Nat.pow_le_pow_right (by decide) wide
    _ = 2 ^ (width - (width - 52)) * 2 ^ (width - 52) := by
      rw [← Nat.pow_add, Nat.sub_add_cancel (Nat.sub_le _ _)]
    _ ≤ roundHalfEven scaled (den * 2 ^ (width - 52)) * 2 ^ (width - 52) :=
      Nat.mul_le_mul_right _ (Nat.le_trans leading (le_roundHalfEven _ _))

/-- Quanta of which 53 binary digits at most are significant are nearest to themselves. -/
theorem nearest_of_precise {quanta : Nat} (precise : quanta % 2 ^ (quanta.log2 - 52) = 0) :
    nearest quanta quantaOfOne = quanta := by
  have whole : quanta * quantaOfOne / quantaOfOne = quanta :=
    Nat.mul_div_cancel _ quantaOfOne_pos
  let unit := 2 ^ (quanta.log2 - 52)
  have divides : unit ∣ quanta := Nat.dvd_of_mod_eq_zero precise
  have positive : 0 < unit := Nat.two_pow_pos _
  calc nearest quanta quantaOfOne
    _ = roundHalfEven (quanta * quantaOfOne) (quantaOfOne * unit) * unit := by
      simp only [nearest, whole, unit]
    _ = roundHalfEven (quanta * quantaOfOne) (unit * quantaOfOne) * unit := by
      rw [Nat.mul_comm quantaOfOne]
    _ = quanta / unit * unit := by
      rw [roundHalfEven_mul quantaOfOne_pos, roundHalfEven_of_dvd positive divides]
    _ = quanta := Nat.div_mul_cancel divides

/-! ## Rounding a decimal -/

/-- The binary digits of a magnitude before the point. -/
def wholeBits : Nat := magnitudeBits - quantumBits

/-- A ratio with more binary digits before the point gives no double. -/
theorem ofRatio?_eq_none_of_le {num den : Nat} (positive : 0 < den)
    (large : 2 ^ wholeBits * den ≤ num) (negative : Bool) :
    ofRatio? negative num den = none := by
  refine ofRatio?_eq_none (le_nearest positive ?_) negative
  have bits : magnitudeBits = wholeBits + quantumBits := by
    unfold wholeBits magnitudeBits quantumBits
    rfl
  calc 2 ^ magnitudeBits * den
    _ = 2 ^ wholeBits * den * quantaOfOne := by
      rw [bits, Nat.pow_add, Nat.mul_right_comm]
      rfl
    _ ≤ num * quantaOfOne := Nat.mul_le_mul_right _ large

/-- Less than half a quantum gives zero. -/
theorem ofRatio?_eq_zero {num den : Nat} (small : 2 * (num * quantaOfOne) < den)
    (negative : Bool) : ofRatio? negative num den = some (zero negative) :=
  ofRatio?_eq_some_iff.mpr ⟨rfl, (nearest_eq_zero small).symm⟩

/-- Twenty-eight decimal digits hold more than ninety-three binary ones. -/
theorem two_pow_le_ten_pow {times scale : Nat} (enough : 28 * times + 1 ≤ scale) :
    2 ^ (93 * times + 1) ≤ 10 ^ scale := by
  have small : 2 ^ 93 ≤ 10 ^ 28 := by decide
  calc 2 ^ (93 * times + 1)
    _ = (2 ^ 93) ^ times * 2 := by rw [Nat.pow_succ, Nat.pow_mul]
    _ ≤ (10 ^ 28) ^ times * 10 := Nat.mul_le_mul (Nat.pow_le_pow_left small times) (by decide)
    _ = 10 ^ (28 * times + 1) := by rw [← Nat.pow_mul, ← Nat.pow_succ]
    _ ≤ 10 ^ scale := Nat.pow_le_pow_right (by decide) enough

/-- From 309 decimal digits behind the first on, no number is a double. -/
theorem two_pow_wholeBits_le {scale : Nat} (far : 309 ≤ scale) : 2 ^ wholeBits ≤ 10 ^ scale := by
  have bits : wholeBits = 93 * 11 + 1 := by
    unfold wholeBits magnitudeBits quantumBits
    rfl
  have enough : 28 * 11 + 1 ≤ scale := far
  rw [bits]
  exact two_pow_le_ten_pow enough

/-- Digits that stay so far behind the point are less than half a quantum. -/
theorem lt_half_quantum {digits places : Nat} (far : digits.log2 + 1076 ≤ 3 * places) :
    2 * (digits * quantaOfOne) < 10 ^ places := by
  have bits : digits.log2 + 1 + (quantumBits + 1) ≤ 3 * places := by
    unfold quantumBits
    omega
  calc 2 * (digits * quantaOfOne)
    _ = digits * 2 ^ (quantumBits + 1) := by
      rw [Nat.pow_succ, Nat.mul_comm 2, Nat.mul_assoc]
      rfl
    _ < 2 ^ (digits.log2 + 1) * 2 ^ (quantumBits + 1) :=
      Nat.mul_lt_mul_of_pos_right Nat.lt_log2_self (Nat.two_pow_pos _)
    _ = 2 ^ (digits.log2 + 1 + (quantumBits + 1)) := (Nat.pow_add ..).symm
    _ ≤ 2 ^ (3 * places) := Nat.pow_le_pow_right (by decide) bits
    _ = 8 ^ places := by rw [Nat.pow_mul]
    _ ≤ 10 ^ places := Nat.pow_le_pow_left (by decide) _

/-- A decimal is rounded as the ratio that it is, whether or not its power of ten is formed. -/
theorem ofDecimal?_eq_ofRatio? (negative : Bool) (digits : Nat) (exponent : Int) :
    ofDecimal? negative digits exponent =
      ofRatio? negative (digits * 10 ^ exponent.toNat) (10 ^ (-exponent).toNat) := by
  unfold ofDecimal?
  split
  · rename_i none
    rw [none]
    refine (ofRatio?_eq_zero ?_ negative).symm
    rw [Nat.zero_mul, Nat.zero_mul, Nat.mul_zero]
    exact Nat.pow_pos (by decide)
  · rename_i nonzero
    cases exponent with
    | ofNat scale =>
      have whole : (-Int.ofNat scale).toNat = 0 := by simp
      rw [whole, Nat.pow_zero]
      show (if 309 ≤ scale then none else ofRatio? negative (digits * 10 ^ scale) 1) =
        ofRatio? negative (digits * 10 ^ scale) 1
      split
      · rename_i far
        refine (ofRatio?_eq_none_of_le Nat.one_pos ?_ negative).symm
        calc 2 ^ wholeBits * 1
          _ = 2 ^ wholeBits := Nat.mul_one _
          _ ≤ 10 ^ scale := two_pow_wholeBits_le far
          _ ≤ digits * 10 ^ scale := Nat.le_mul_of_pos_left _ (Nat.pos_of_ne_zero nonzero)
      · rfl
    | negSucc less =>
      have whole : digits * 10 ^ (Int.negSucc less).toNat = digits := Nat.mul_one _
      rw [whole]
      show (if digits.log2 + 1076 ≤ 3 * (less + 1) then some (zero negative)
        else ofRatio? negative digits (10 ^ (less + 1))) =
          ofRatio? negative digits (10 ^ (less + 1))
      split
      · rename_i far
        exact (ofRatio?_eq_zero (lt_half_quantum far) negative).symm
      · rfl

/-- Decimals of one value are read as one double: zeros behind the digits count as powers of ten. -/
theorem ofDecimal?_shift (negative : Bool) (digits zeros : Nat) (exponent : Int) :
    ofDecimal? negative (digits * 10 ^ zeros) exponent =
      ofDecimal? negative digits (exponent + zeros) := by
  have ten (power : Nat) : 0 < 10 ^ power := Nat.pow_pos (by decide)
  rw [ofDecimal?_eq_ofRatio?, ofDecimal?_eq_ofRatio?]
  refine ofRatio?_congr ?_ negative
  -- Both ratios become equal when each is extended by the other's power of ten.
  rw [← nearest_mul (ten (-(exponent + zeros)).toNat) (digits * 10 ^ zeros * 10 ^ exponent.toNat),
    ← nearest_mul (ten (-exponent).toNat) (digits * 10 ^ (exponent + zeros).toNat)]
  have powers : zeros + exponent.toNat + (-(exponent + zeros)).toNat =
      (exponent + zeros).toNat + (-exponent).toNat := by omega
  have nums : digits * 10 ^ zeros * 10 ^ exponent.toNat * 10 ^ (-(exponent + zeros)).toNat =
      digits * 10 ^ (exponent + zeros).toNat * 10 ^ (-exponent).toNat := by
    calc digits * 10 ^ zeros * 10 ^ exponent.toNat * 10 ^ (-(exponent + zeros)).toNat
      _ = digits * 10 ^ (zeros + exponent.toNat + (-(exponent + zeros)).toNat) := by
        rw [Nat.pow_add, Nat.pow_add]; ring
      _ = digits * 10 ^ (exponent + zeros).toNat * 10 ^ (-exponent).toNat := by
        rw [powers, Nat.pow_add]; ring
  rw [nums, Nat.mul_comm (10 ^ (-exponent).toNat)]

/-! ## Forms that read back -/

variable {value : Double}

/-- All digits of a double read back. -/
theorem readsBack_exactForm (value : Double) : value.ReadsBack value.exactForm := by
  have five : 0 < 5 ^ quantumBits := Nat.pow_pos (by decide)
  have ten : 10 ^ quantumBits = quantaOfOne * 5 ^ quantumBits := Nat.mul_pow 2 5 quantumBits
  have none : (-(quantumBits : Int)).toNat = 0 := by omega
  have all : (-(-(quantumBits : Int))).toNat = quantumBits := by omega
  rw [ReadsBack, exactForm, ofDecimal?_eq_ofRatio?, none, all, Nat.pow_zero, Nat.mul_one]
  refine ofRatio?_eq_some_iff.mpr ⟨rfl, ?_⟩
  calc value.quanta
    _ = nearest value.quanta quantaOfOne := (nearest_of_precise value.precise).symm
    _ = nearest (value.quanta * 5 ^ quantumBits) (10 ^ quantumBits) := by
      rw [ten, nearest_mul five]

/-- Zeros can be dropped from the end of a form. -/
theorem ReadsBack.trimmed {form : Decimal} (reads : value.ReadsBack form) (fuel : Nat) :
    value.ReadsBack (form.trimmed fuel) := by
  induction fuel generalizing form with
  | zero => exact reads
  | succ fuel ih =>
    rw [Decimal.trimmed]
    split
    · rename_i zero
      refine ih ?_
      have digits : form.digits / 10 * 10 ^ 1 = form.digits := by omega
      have shifted := ofDecimal?_shift value.negative (form.digits / 10) 1 form.exponent
      rw [digits] at shifted
      exact shifted.symm.trans reads
    · exact reads

/-- The first of three candidates to have a property has it. -/
theorem holds_of_first {α : Type} {P : α → Prop} [DecidablePred P] {first second third found : α}
    (same : (if P first then some first else if P second then some second
      else if P third then some third else none) = some found) : P found := by
  split at same
  · rename_i holds
    exact Option.some.inj same ▸ holds
  · split at same
    · rename_i holds
      exact Option.some.inj same ▸ holds
    · split at same
      · rename_i holds
        exact Option.some.inj same ▸ holds
      · cases same

/-- A form of some length is one that reads back. -/
theorem readsBack_of_formOfLength? {leading : Int} {count : Nat} {form : Decimal}
    (found : value.formOfLength? leading count = some form) : value.ReadsBack form :=
  holds_of_first found

/-- The search ends with a form that reads back. -/
theorem readsBack_searchForm (value : Double) (leading : Int) (remaining count : Nat) :
    value.ReadsBack (value.searchForm leading remaining count) := by
  induction remaining generalizing count with
  | zero => exact readsBack_exactForm value
  | succ remaining ih =>
    rw [searchForm]
    split
    · rename_i form found
      exact readsBack_of_formOfLength? found
    · exact ih (count + 1)

/-- The shortest form of a double reads back. -/
theorem readsBack_shortestForm (value : Double) : value.ReadsBack value.shortestForm := by
  rw [shortestForm]
  split
  · rename_i none
    obtain ⟨negative, quanta, finite, precise⟩ := value
    obtain rfl : quanta = 0 := none
    rfl
  · exact (readsBack_searchForm value _ 17 1).trimmed 1100

end Double

end JsonShape
