import JsonShape.Double.Shortest

/-!
# Numbers of JSON documents

A number without fraction and exponent that fits a 64-bit word, signed or unsigned, stays an
exact integer; every other number is the nearest double.
-/
namespace JsonShape

/-- A JSON number. -/
inductive Number where
  /-- An integer that fits a signed or an unsigned 64-bit word. -/
  | integer (value : Int) (lower : -0x8000000000000000 ≤ value)
      (upper : value < 0x10000000000000000)
  /-- A finite double. -/
  | double (value : Double)
deriving DecidableEq

namespace Number

/-- An integer as a number, if it fits a 64-bit word. -/
def ofInt? (value : Int) : Option Number :=
  if h : -0x8000000000000000 ≤ value ∧ value < 0x10000000000000000 then
    some (.integer value h.1 h.2)
  else none

/-- Doubles are written plainly while the leading digit counts from 10⁻⁵ to 10¹⁵; other
exponents always have a sign. -/
def layout : DecimalLayout := ⟨-5, 15, true⟩

/-- The text of an integer. -/
def integerText : Int → List Char
  | .ofNat value => Nat.toDigits 10 value
  | .negSucc less => '-' :: Nat.toDigits 10 (less + 1)

/-- The text of a number. -/
def text : Number → List Char
  | .integer value _ _ => integerText value
  | .double value => layout.text value

end Number

end JsonShape
