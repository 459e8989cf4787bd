import JsonShape.Double.Extended
import JsonShape.Json.Reader
import JsonShape.Json.Writer

/-!
# Values of jq filters

A filter computes with integers of 64 bits, which wrap around, and with doubles. A number that is
no such integer stays the text it was written as until something computes with it, so a document
passes through a filter unchanged.
-/
namespace JsonShape.Jq

/-- A value of a filter. -/
inductive Value where
  /-- The null value. -/
  | null
  /-- A truth value. -/
  | bool (value : Bool)
  /-- A signed 64-bit integer. -/
  | integer (value : Int)
  /-- A computed double. -/
  | double (value : Extended)
  /-- A number as it was written. -/
  | decimal (text : List Char)
  /-- A string. -/
  | string (value : String)
  /-- Elements in order. -/
  | array (items : List Value)
  /-- Fields in order. -/
  | object (fields : List (String × Value))

namespace Value

instance : Inhabited Value := ⟨null⟩

/-- The integer of 64 bits that an integer wraps around to. -/
def wrapped (value : Int) : Value := .integer (value.bmod 0x10000000000000000)

/-- A number of a document: an integer if 64 bits with sign hold it. -/
def ofNumber : Number → Value
  | .integer value lower upper =>
    if value < 0x8000000000000000 then .integer value
    else .decimal (Number.text (.integer value lower upper))
  | .double value => .decimal (Number.text (.double value))

/-- A part of a document without parts of its own. -/
def ofScalar : Scalar → Value
  | .null => .null
  | .bool value => .bool value
  | .number value => ofNumber value
  | .string value => .string value

mutual

/-- A document as a value. -/
def ofJson : Json → Value
  | .scalar value => ofScalar value
  | .array items => .array (ofItems items)
  | .object members => .object (ofMembers members)

/-- Elements of a document. -/
def ofItems : List Json → List Value
  | [] => []
  | item :: rest => ofJson item :: ofItems rest

/-- Members of a document. -/
def ofMembers : List (String × Json) → List (String × Value)
  | [] => []
  | (name, value) :: rest => (name, ofJson value) :: ofMembers rest

end

/-! ## Text -/

/-- Computed doubles are written plainly while the leading digit counts from 10⁻⁴ to 10¹⁵. -/
def layout : DecimalLayout := ⟨-4, 15, false⟩

/-- A character of a string. Control characters below the blank without a letter of their own are
written by four hexadecimal digits. -/
def escaped (c : Char) : List Char :=
  if c = '"' then ['\\', '"']
  else if c = '\\' then ['\\', '\\']
  else if c = '\n' then ['\\', 'n']
  else if c = '\r' then ['\\', 'r']
  else if c = '\t' then ['\\', 't']
  else if c.toNat < 32 then Text.hexEscape c
  else [c]

/-- A string between quotes. -/
def quoted (text : List Char) : List Char :=
  '"' :: (text.flatMap escaped ++ ['"'])

/-- The text of a computed double; what is not finite is written as null. -/
def doubleText : Extended → List Char
  | .finite value => layout.text value
  | _ => ['n', 'u', 'l', 'l']

mutual

/-- The text of a value without blanks. -/
def text : Value → List Char
  | .null => ['n', 'u', 'l', 'l']
  | .bool true => ['t', 'r', 'u', 'e']
  | .bool false => ['f', 'a', 'l', 's', 'e']
  | .integer value => Number.integerText value
  | .double value => doubleText value
  | .decimal text => text
  | .string value => quoted value.toList
  | .array items => '[' :: (Text.separated [] (itemTexts items) ++ [']'])
  | .object fields => '\x7b' :: (Text.separated [] (fieldTexts fields) ++ ['\x7d'])

/-- The texts of elements. -/
def itemTexts : List Value → List (List Char)
  | [] => []
  | item :: rest => text item :: itemTexts rest

/-- The texts of fields. -/
def fieldTexts : List (String × Value) → List (List Char)
  | [] => []
  | (name, value) :: rest => (quoted name.toList ++ ':' :: text value) :: fieldTexts rest

end

/-- The text of a value as a string. -/
def display (value : Value) : String := String.ofList value.text

/-- The parts of a number whose sign is read already, which may start with zeros. -/
def numeralOfText (negative : Bool) (text : List Char) : Except Text.FaultAt Text.Numeral := do
  let (whole, rest) ← Text.readDigits text
  let (fraction, rest) ← Text.readFraction rest
  let (exponent, _) ← Text.readExponent rest
  return ⟨negative, whole, fraction, exponent⟩

/-- The double nearest to the number that a text writes; past the largest double it is infinite. -/
def doubleOfText (text : List Char) : Extended :=
  let (negative, magnitude) := match text with
    | '-' :: rest => (true, rest)
    | rest => (false, rest)
  match numeralOfText negative magnitude with
  | .error _ => .infinite negative
  | .ok numeral =>
    match Double.ofDecimal? negative numeral.digits numeral.scale with
    | some value => .finite value
    | none => .infinite negative

/-- A number as a double. -/
def toDouble? : Value → Option Extended
  | .integer value => some (.ofInt value)
  | .double value => some value
  | .decimal text => some (doubleOfText text)
  | _ => none

/-- Everything but false and null counts as true. -/
def isTrue : Value → Bool
  | .null => false
  | .bool value => value
  | _ => true

/-- The name of the type of a value. -/
def typeName : Value → String
  | .null => "null"
  | .bool _ => "boolean"
  | .integer _ => "number"
  | .double _ => "number"
  | .decimal _ => "number"
  | .string _ => "string"
  | .array _ => "array"
  | .object _ => "object"

/-! ## Order -/

/-- The place of a type in the order of all values. -/
def rank : Value → Nat
  | .null => 0
  | .bool false => 1
  | .bool true => 2
  | .integer _ => 3
  | .double _ => 3
  | .decimal _ => 3
  | .string _ => 4
  | .array _ => 5
  | .object _ => 6

/-- Order of two numbers. -/
def compareNumbers : Value → Value → Ordering
  | .integer left, .integer right => Ord.compare left right
  | left, right =>
    match left.toDouble?, right.toDouble? with
    | some left, some right => left.compare right
    | _, _ => .eq

/-- Strings are ordered by code points. -/
def compareStrings (left right : String) : Ordering :=
  if left < right then .lt else if left = right then .eq else .gt

/-- Order of lists: the first difference counts, then the length. -/
def compareLists {α : Type} (order : α → α → Ordering) : List α → List α → Ordering
  | [], [] => .eq
  | [], _ => .lt
  | _, [] => .gt
  | left :: rest, right :: others => (order left right).then (compareLists order rest others)

/-- The names of fields in order of their code points. -/
def sortedNames (fields : List (String × Value)) : List String :=
  (Fields.names fields).mergeSort fun left right => compareStrings left right != .gt

/-- Order of all values, arrays and objects being compared to a depth of `fuel`: null, false,
true, numbers, strings, arrays, objects. Objects are compared by their sorted names first and
then by their values in the order of these names. -/
def compareWithin : Nat → Value → Value → Ordering
  | 0, _, _ => .eq
  | fuel + 1, left, right =>
    (Ord.compare left.rank right.rank).then <|
      match left, right with
      | .string left, .string right => compareStrings left right
      | .array left, .array right => compareLists (compareWithin fuel) left right
      | .object left, .object right =>
        let names := sortedNames left
        (compareLists compareStrings names (sortedNames right)).then <|
          compareLists (compareWithin fuel) (names.filterMap (Fields.get? · left))
            (names.filterMap (Fields.get? · right))
      | left, right => if left.rank = 3 then compareNumbers left right else .eq

mutual

/-- How many arrays and objects are nested in each other at most. -/
def depth : Value → Nat
  | .array items => itemsDepth items + 1
  | .object fields => fieldsDepth fields + 1
  | _ => 0

/-- The greatest depth of the elements. -/
def itemsDepth : List Value → Nat
  | [] => 0
  | item :: rest => max item.depth (itemsDepth rest)

/-- The greatest depth of the fields. -/
def fieldsDepth : List (String × Value) → Nat
  | [] => 0
  | (_, value) :: rest => max value.depth (fieldsDepth rest)

end

/-- Order of all values. -/
def compare (left right : Value) : Ordering :=
  compareWithin (left.depth + 1) left right

/-- Equality; the order of fields does not count. -/
def equal (left right : Value) : Bool :=
  left.compare right == .eq

mutual

/-- A value and everything inside it, outer parts first. -/
def descendants : Value → List Value
  | .array items => .array items :: itemsDescendants items
  | .object fields => .object fields :: fieldsDescendants fields
  | value => [value]

/-- Everything inside elements. -/
def itemsDescendants : List Value → List Value
  | [] => []
  | item :: rest => descendants item ++ itemsDescendants rest

/-- Everything inside fields. -/
def fieldsDescendants : List (String × Value) → List Value
  | [] => []
  | (_, value) :: rest => descendants value ++ fieldsDescendants rest

end

end Value

end JsonShape.Jq
