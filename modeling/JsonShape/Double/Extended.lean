import JsonShape.Double.Shortest

/-!
# Arithmetic of doubles

Doubles with the infinities and not-a-number. Each operation rounds the exact result once, to the
nearest double; past the largest double it is infinite.
-/
namespace JsonShape

/-- A double, an infinity, or not a number. -/
inductive Extended where
  /-- The result of an operation that has none. -/
  | nan
  /-- An infinity of a sign. -/
  | infinite (negative : Bool)
  /-- A finite double. -/
  | finite (value : Double)
deriving DecidableEq

namespace Extended

/-- A rounded ratio; infinite when it is past the largest double. -/
def ofRatio (negative : Bool) (num den : Nat) : Extended :=
  (Double.ofRatio? negative num den).elim (.infinite negative) .finite

/-- The double nearest to an integer. -/
def ofInt (value : Int) : Extended :=
  ofRatio (value < 0) value.natAbs 1

/-- The same magnitude with the other sign. -/
def negate : Extended → Extended
  | .nan => .nan
  | .infinite negative => .infinite !negative
  | .finite value => .finite value.negate

/-- The same magnitude without sign. -/
def abs : Extended → Extended
  | .nan => .nan
  | .infinite _ => .infinite false
  | .finite value => .finite value.abs

/-- The rounded sum. A sum of zero is negative only if both parts are. -/
def add : Extended → Extended → Extended
  | .nan, _ => .nan
  | _, .nan => .nan
  | .infinite left, .infinite right => if left = right then .infinite left else .nan
  | .infinite left, .finite _ => .infinite left
  | .finite _, .infinite right => .infinite right
  | .finite left, .finite right =>
    let sum := left.signedQuanta + right.signedQuanta
    if sum = 0 then .finite (.zero (left.negative && right.negative))
    else ofRatio (sum < 0) sum.natAbs quantaOfOne

/-- The rounded difference. -/
def sub (left right : Extended) : Extended :=
  left.add right.negate

/-- The finite double that a value is. -/
def finite? : Extended → Option Double
  | .finite value => some value
  | _ => none

/-- Whether a value is zero of either sign. -/
def isZero : Extended → Bool
  | .finite value => value.quanta = 0
  | _ => false

/-- Whether a value has the negative sign. -/
def isNegative : Extended → Bool
  | .nan => false
  | .infinite negative => negative
  | .finite value => value.negative

/-- The rounded product. -/
def mul (left right : Extended) : Extended :=
  let negative := left.isNegative != right.isNegative
  match left, right with
  | .nan, _ => .nan
  | _, .nan => .nan
  | .finite left, .finite right =>
    ofRatio negative (left.quanta * right.quanta) (quantaOfOne * quantaOfOne)
  | left, right => if left.isZero || right.isZero then .nan else .infinite negative

/-- The rounded quotient. -/
def div (left right : Extended) : Extended :=
  let negative := left.isNegative != right.isNegative
  match left, right with
  | .nan, _ => .nan
  | _, .nan => .nan
  | .infinite _, .infinite _ => .nan
  | .infinite _, .finite _ => .infinite negative
  | .finite _, .infinite _ => .finite (.zero negative)
  | .finite left, .finite right =>
    if right.quanta = 0 then if left.quanta = 0 then .nan else .infinite negative
    else ofRatio negative left.quanta right.quanta

/-- The remainder of the quotient cut to an integer; it has the sign of the dividend. -/
def rem : Extended → Extended → Extended
  | .finite left, .finite right =>
    if right.quanta = 0 then .nan
    else ofRatio left.negative (left.quanta % right.quanta) quantaOfOne
  | .finite left, .infinite _ => .finite left
  | _, _ => .nan

/-- Order by value. Not-a-number is less than everything; on the left it is less than itself. -/
def compare : Extended → Extended → Ordering
  | .nan, _ => .lt
  | _, .nan => .gt
  | .infinite left, .infinite right => if left = right then .eq else if left then .lt else .gt
  | .infinite left, .finite _ => if left then .lt else .gt
  | .finite _, .infinite right => if right then .gt else .lt
  | .finite left, .finite right => left.compare right

end Extended

end JsonShape
