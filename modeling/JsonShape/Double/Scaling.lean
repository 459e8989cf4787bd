import JsonShape.Double.Extended

/-!
# Decimals in machine arithmetic

A decimal whose digits fit a 64-bit word is made a double in steps, each of which rounds: the word
becomes a double, and the double is multiplied by a power of ten or divided by one. Powers of ten
are doubles up to 10³⁰⁸, so a value that is to be far smaller is divided more than once. The result
can be a neighbour of the double nearest to the decimal.
-/
namespace JsonShape

namespace Extended

/-- The double nearest to a power of ten. -/
def ten (power : Nat) : Extended :=
  ofRatio false (Nat.pow 10 power) 1

/-- Divide by 10³⁰⁸ so many times, but no further than to zero. -/
def lowered : Nat → Extended → Extended
  | 0, value => value
  | times + 1, value => if value.isZero then value else lowered times (value.div (ten 308))

/-- A value times a power of ten. One that is not zero is infinite past 10³⁰⁸. -/
def scaled (value : Extended) : Int → Extended
  | .ofNat power =>
    if power ≤ 308 then value.mul (ten power)
    else if value.isZero then value else .infinite value.isNegative
  | .negSucc less => (lowered (less / 308) value).div (ten (less % 308 + 1))

end Extended

/-- The double that a word of digits times a power of ten becomes step by step, with a sign; none
when a step leads past the largest double. -/
def Double.ofWord? (negative : Bool) (word : Nat) (exponent : Int) : Option Double :=
  let magnitude := (Extended.ofRatio false word 1).scaled exponent
  magnitude.finite?.map fun value => { value with negative := negative }

end JsonShape
