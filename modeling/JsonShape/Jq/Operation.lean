import JsonShape.Jq.Value

/-!
# Operations of jq filters

What filters do with single values. A failing operation gives the value that a handler sees, a
message.
-/
namespace JsonShape.Jq

/-- Arithmetic operators. -/
inductive Arithmetic where
  /-- Sum, and joining of strings, arrays and objects. -/
  | add
  /-- Difference, and removal of elements. -/
  | sub
  /-- Product, repetition of strings, and deep joining of objects. -/
  | mul
  /-- Quotient, and splitting of strings. -/
  | div
  /-- Remainder. -/
  | rem
deriving DecidableEq

/-- The sign of an operator. -/
def Arithmetic.sign : Arithmetic → String
  | .add => "+"
  | .sub => "-"
  | .mul => "*"
  | .div => "/"
  | .rem => "%"

/-- Comparison operators. -/
inductive Comparison where
  /-- Equal. -/
  | eq
  /-- Not equal. -/
  | ne
  /-- Less. -/
  | lt
  /-- Less or equal. -/
  | le
  /-- Greater. -/
  | gt
  /-- Greater or equal. -/
  | ge
deriving DecidableEq

/-- Whether a comparison holds of an order. -/
def Comparison.holds : Comparison → Ordering → Bool
  | .eq, order => order == .eq
  | .ne, order => order != .eq
  | .lt, order => order == .lt
  | .le, order => order != .gt
  | .gt, order => order == .gt
  | .ge, order => order != .lt

/-- The result of an operation: a value, or the value thrown. -/
abbrev Outcome := Except Value Value

namespace Value

/-- Throw a message. -/
def refuse {α : Type} (message : String) : Except Value α :=
  .error (.string message)

/-- Throw because a value has the wrong type. -/
def wrongType {α : Type} (value : Value) (expected : String) : Except Value α :=
  refuse ("cannot use " ++ value.display ++ " as " ++ expected)

/-- Throw because a value has no such part. -/
def noIndex {α : Type} (value index : Value) : Except Value α :=
  refuse ("cannot index " ++ value.display ++ " with " ++ index.display)

/-- Join fields of objects deeply: where both have an object, their fields are joined again, to a
depth of `fuel`. -/
def mergeWithin : Nat → List (String × Value) → List (String × Value) → List (String × Value)
  | 0, left, right => Fields.insertAll left right
  | fuel + 1, left, right =>
    right.foldl (fun merged field =>
      match Fields.get? field.1 merged, field.2 with
      | some (.object inner), .object others =>
        Fields.insert field.1 (.object (mergeWithin fuel inner others)) merged
      | _, value => Fields.insert field.1 value merged) left

/-- Cut a text at every occurrence of a separator, which is not empty; `fuel` bounds the length
of the text. -/
def splitAt (separator : List Char) : Nat → List Char → List Char → List (List Char)
  | 0, part, _ => [part.reverse]
  | _ + 1, part, [] => [part.reverse]
  | fuel + 1, part, c :: rest =>
    if separator.isPrefixOf (c :: rest) then
      part.reverse :: splitAt separator fuel [] ((c :: rest).drop separator.length)
    else splitAt separator fuel (c :: part) rest

/-- The parts of a string between separators; an empty separator cuts between all characters. -/
def split (text separator : String) : List Value :=
  let characters := text.toList
  if characters.isEmpty then []
  else if separator.isEmpty then characters.map fun c => .string (String.ofList [c])
  else (splitAt separator.toList (characters.length + 1) [] characters).map
    fun part => .string (String.ofList part)

/-- A string a number of times; none for a number that is not positive. -/
def repeated (text : String) (count : Int) : Value :=
  if count ≤ 0 then .null else .string (String.join (List.replicate count.toNat text))

/-- Arithmetic on integers. A quotient is a double. -/
def integers (op : Arithmetic) (left right : Int) : Outcome :=
  match op with
  | .add => .ok (wrapped (left + right))
  | .sub => .ok (wrapped (left - right))
  | .mul => .ok (wrapped (left * right))
  | .div => .ok (.double ((Extended.ofInt left).div (.ofInt right)))
  | .rem =>
    if right = 0 then
      refuse ("cannot calculate " ++ (integer left).display ++ " % " ++ (integer right).display)
    else .ok (wrapped (left.tmod right))

/-- Arithmetic on doubles. -/
def doubles : Arithmetic → Extended → Extended → Extended
  | .add => .add
  | .sub => .sub
  | .mul => .mul
  | .div => .div
  | .rem => .rem

/-- A value as it is computed with: a number that is kept as it was written becomes a double. -/
def computed : Value → Value
  | .decimal text => .double (doubleOfText text)
  | value => value

/-- An arithmetic operator on two values. -/
def calculate (op : Arithmetic) (left right : Value) : Outcome :=
  match op, left, right with
  | .add, .null, right => .ok right
  | .add, left, .null => .ok left
  | .add, .string left, .string right => .ok (.string (left ++ right))
  | .add, .array left, .array right => .ok (.array (left ++ right))
  | .add, .object left, .object right => .ok (.object (Fields.insertAll left right))
  | .sub, .array left, .array right =>
    .ok (.array (left.filter fun item => !right.any item.equal))
  | .mul, .string text, .integer count => .ok (repeated text count)
  | .mul, .integer count, .string text => .ok (repeated text count)
  | .mul, .object left, .object right =>
    .ok (.object (mergeWithin (fieldsDepth left + 1) left right))
  | .div, .string text, .string separator => .ok (.array (split text separator))
  | op, .integer left, .integer right => integers op left right
  | op, left, right =>
    match left.toDouble?, right.toDouble? with
    | some left, some right => .ok (.double (doubles op left right))
    | _, _ =>
      refuse ("cannot calculate " ++ left.computed.display ++ " " ++ op.sign ++ " " ++
        right.computed.display)

/-- The value with the other sign. -/
def negated : Value → Outcome
  | .integer value => .ok (wrapped (-value))
  | .double value => .ok (.double value.negate)
  | .decimal text => .ok (.double (doubleOfText text).negate)
  | value => wrongType value "number"

/-- The elements of an array or the values of an object. -/
def children : Value → Except Value (List Value)
  | .array items => .ok items
  | .object fields => .ok (fields.map Prod.snd)
  | value => wrongType value "iterable (array or object)"

/-- The element at a position; a negative one counts from the end. -/
def element (items : List Value) (position : Int) : Value :=
  let position := if position < 0 then position + items.length else position
  if position < 0 then .null else (items[position.toNat]?).getD .null

/-- The part of a value at an index; null when there is none. -/
def index : Value → Value → Outcome
  | .array items, .integer position => .ok (element items position)
  | .object fields, .string name => .ok ((Fields.get? name fields).getD .null)
  | .array items, part => noIndex (.array items) part
  | .object fields, part => noIndex (.object fields) part
  | value, _ => wrongType value "iterable (array or object)"

/-- A bound of a slice, counted from the start. -/
def bound (length : Nat) (absent : Nat) : Option Value → Except Value Nat
  | none => .ok absent
  | some (.integer position) =>
    .ok (min length (if position < 0 then position + length else position).toNat)
  | some value => wrongType value "integer"

/-- The part of a list between two bounds. -/
def between {α : Type} (items : List α) (first last : Option Value) : Except Value (List α) := do
  let start ← bound items.length 0 first
  let stop ← bound items.length items.length last
  return (items.take stop).drop start

/-- The part of an array or a string between two bounds. -/
def slice (first last : Option Value) : Value → Outcome
  | .array items => (between items first last).map .array
  | .string text => (between text.toList first last).map fun part => .string (String.ofList part)
  | value => wrongType value "rangeable (array or string)"

/-- The size of a value. -/
def length : Value → Outcome
  | .null => .ok (.integer 0)
  | .bool value => refuse ((bool value).display ++ " has no length")
  | .integer value => .ok (wrapped value.natAbs)
  | .double value => .ok (.double value.abs)
  | .decimal text => .ok (.double (doubleOfText text).abs)
  | .string text => .ok (.integer text.length)
  | .array items => .ok (.integer items.length)
  | .object fields => .ok (.integer fields.length)

/-- The indices of a value: positions, or sorted names. -/
def keys : Value → Outcome
  | .array items =>
    .ok (.array ((List.range items.length).map fun (position : Nat) => .integer position))
  | .object fields => .ok (.array ((sortedNames fields).map .string))
  | value => wrongType value "iterable (array or object)"

/-- Whether a value has a part at an index. -/
def has (value part : Value) : Outcome :=
  match value, part with
  | .array items, .integer position =>
    if position < 0 then noIndex value part else .ok (.bool (position < items.length))
  | .object fields, .string name => .ok (.bool (Fields.get? name fields).isSome)
  | value, part => noIndex value part

/-- The integers from zero up to a number. -/
def rangeTo : Value → List Value
  | .integer count => (List.range count.toNat).map fun (position : Nat) => .integer position
  | .double (.finite value) => fromZero value
  | .decimal text =>
    match doubleOfText text with
    | .finite value => fromZero value
    | _ => []
  | _ => []
where
  /-- The integers below a double. -/
  fromZero (value : Double) : List Value :=
    if value.negative then []
    else (List.range ((value.quanta + quantaOfOne - 1) / quantaOfOne)).map
      fun (position : Nat) => .integer position

/-- A string itself, any other value as its text. -/
def toText : Value → Value
  | .string text => .string text
  | value => .string value.display

end Value

end JsonShape.Jq
