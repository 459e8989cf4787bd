import JsonShape.Double

/-!
# Shortest decimal digits

The decimal form of a double is the one of fewest significant digits that reads back as the
double; of two such forms the nearer one, a tie going to the even last digit. A layout then
says from where to where a form is written with a plain point and how an exponent looks.
-/
namespace JsonShape

/-- Decimal digits times a power of ten. -/
structure Decimal where
  /-- The digits, as one number. -/
  digits : Nat
  /-- The power of ten that the last digit counts. -/
  exponent : Int
deriving DecidableEq

namespace Decimal

/-- Drop zeros at the end, at most `fuel` of them. -/
def trimmed (fuel : Nat) (form : Decimal) : Decimal :=
  match fuel with
  | 0 => form
  | fuel + 1 =>
    if form.digits ≠ 0 ∧ form.digits % 10 = 0 then
      trimmed fuel ⟨form.digits / 10, form.exponent + 1⟩
    else form

end Decimal

namespace Double

/-- A form reads back as a magnitude. -/
def ReadsBack (value : Double) (form : Decimal) : Prop :=
  ofDecimal? value.negative form.digits form.exponent = some value

instance (value : Double) (form : Decimal) : Decidable (value.ReadsBack form) :=
  inferInstanceAs (Decidable (_ = _))

/-- All digits of a double: a quantum is 5¹⁰⁷⁴ · 10⁻¹⁰⁷⁴. -/
def exactForm (value : Double) : Decimal :=
  ⟨value.quanta * Nat.pow 5 quantumBits, -quantumBits⟩

/-- Whether the magnitude is at least a power of ten. -/
def reaches (value : Double) : Int → Bool
  | .ofNat power => quantaOfOne * Nat.pow 10 power ≤ value.quanta
  | .negSucc less => quantaOfOne ≤ value.quanta * Nat.pow 10 (less + 1)

/-- Raise a lower bound of the decimal exponent to the exponent itself, in `fuel` steps. -/
def raiseExponent (value : Double) : Nat → Int → Int
  | 0, low => low
  | fuel + 1, low => if value.reaches (low + 1) then value.raiseExponent fuel (low + 1) else low

/-- The power of ten of the leading digit: an estimate from below by the binary exponent, times
1233/4096 for the logarithm of two, and then raised. -/
def leadingExponent (value : Double) : Int :=
  value.raiseExponent 4 (((value.quanta.log2 : Int) - 1074) * 1233 / 4096 - 2)

/-- Numerator and denominator of the magnitude in units of a power of ten. -/
def inUnitsOf (value : Double) : Int → Nat × Nat
  | .ofNat power => (value.quanta, quantaOfOne * Nat.pow 10 power)
  | .negSucc less => (value.quanta * Nat.pow 10 (less + 1), quantaOfOne)

/-- The form with `count` digits that reads back, if there is one: of the two neighbours on that
grid the one that reads back, of two such the nearer, at a tie the even one. -/
def formOfLength? (value : Double) (leading : Int) (count : Nat) : Option Decimal :=
  let unit : Int := leading - (count : Int) + 1
  let (num, den) := value.inUnitsOf unit
  let below : Decimal := ⟨num / den, unit⟩
  let above : Decimal := ⟨num / den + 1, unit⟩
  let nearest := if roundHalfEven num den = num / den then below else above
  if value.ReadsBack nearest then some nearest
  else if value.ReadsBack below then some below
  else if value.ReadsBack above then some above
  else none

/-- Try `remaining` digit counts upward from `count`; behind them all digits are taken. -/
def searchForm (value : Double) (leading : Int) : Nat → Nat → Decimal
  | 0, _ => value.exactForm
  | remaining + 1, count =>
    match value.formOfLength? leading count with
    | some form => form
    | none => value.searchForm leading remaining (count + 1)

/-- The shortest form of a double; seventeen digits always suffice. -/
def shortestForm (value : Double) : Decimal :=
  if value.quanta = 0 then ⟨0, 0⟩
  else (value.searchForm value.leadingExponent 17 1).trimmed 1100

end Double

/-- How the decimal form of a double is written. -/
structure DecimalLayout where
  /-- The least power of ten of the leading digit that is written without exponent. -/
  plainFrom : Int
  /-- The greatest such power. -/
  plainTo : Int
  /-- Whether an exponent that is not negative has a plus sign. -/
  plusSign : Bool

namespace DecimalLayout

/-- The text of an exponent. -/
def exponentText (layout : DecimalLayout) : Int → List Char
  | .ofNat power => (if layout.plusSign then ['+'] else []) ++ Nat.toDigits 10 power
  | .negSucc less => '-' :: Nat.toDigits 10 (less + 1)

/-- Digits with the point behind the first `whole` of them; a text has a digit on each side of
the point. -/
def pointed (digits : List Char) (whole : Nat) : List Char :=
  if digits.length ≤ whole then
    digits ++ List.replicate (whole - digits.length) '0' ++ ['.', '0']
  else digits.take whole ++ '.' :: digits.drop whole

/-- The text of a magnitude whose digits are given with the power of ten of the first one. -/
def magnitudeText (layout : DecimalLayout) (digits : List Char) (leading : Int) : List Char :=
  if layout.plainFrom ≤ leading ∧ leading ≤ layout.plainTo then
    match leading with
    | .ofNat power => pointed digits (power + 1)
    | .negSucc less => '0' :: '.' :: (List.replicate less '0' ++ digits)
  else
    digits.take 1 ++ (if digits.length ≤ 1 then [] else '.' :: digits.drop 1) ++
      'e' :: layout.exponentText leading

/-- The text of a double in its shortest form. -/
def text (layout : DecimalLayout) (value : Double) : List Char :=
  let form := value.shortestForm
  let digits := Nat.toDigits 10 form.digits
  (if value.negative then ['-'] else []) ++
    layout.magnitudeText digits (form.exponent + digits.length - 1)

end DecimalLayout

end JsonShape
