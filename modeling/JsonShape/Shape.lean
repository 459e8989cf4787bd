import JsonShape.Kind

/-!
# Shapes

A shape says what a slot of a document has to look like. Objects declare fields, and fields that
are not declared do not matter; a union asks for one of its alternatives. A shape is well formed
when every union has two alternatives or more and no object declares a field twice.
-/
namespace JsonShape

/-- What a slot has to look like. -/
inductive Shape where
  /-- A slot of a kind. -/
  | ofKind (kind : Kind)
  /-- Null, or no value. -/
  | null
  /-- An object with the declared fields, in the order they are checked. -/
  | object (fields : List (String × Shape))
  /-- An array, whatever its elements. -/
  | anyArray
  /-- An array of elements of one shape. -/
  | array (element : Shape)
  /-- One of several shapes. -/
  | union (alternatives : List Shape)

namespace Shape

/-- A string. -/
abbrev string : Shape := .ofKind .string

/-- A number. -/
abbrev number : Shape := .ofKind .number

/-- A truth value. -/
abbrev boolean : Shape := .ofKind .boolean

instance : Inhabited Shape := ⟨null⟩

mutual

/-- Every union has two alternatives or more, and no object declares a field twice. -/
def WellFormed : Shape → Prop
  | .ofKind _ => True
  | .null => True
  | .anyArray => True
  | .array element => element.WellFormed
  | .object fields => Fields.Distinct fields ∧ WellFormedFields fields
  | .union alternatives => 2 ≤ alternatives.length ∧ WellFormedAlternatives alternatives

/-- Every field has a well-formed shape. -/
def WellFormedFields : List (String × Shape) → Prop
  | [] => True
  | (_, field) :: rest => field.WellFormed ∧ WellFormedFields rest

/-- Every alternative is well formed. -/
def WellFormedAlternatives : List Shape → Prop
  | [] => True
  | alternative :: rest => alternative.WellFormed ∧ WellFormedAlternatives rest

end

/-! ## Building shapes -/

/-- The object shape of declared fields; a repeated name keeps its first place and takes its last
shape. -/
def ofFields (fields : List (String × Shape)) : Shape :=
  .object (Fields.ofEntries fields)

/-- One of two shapes. -/
def either (first second : Shape) : Shape :=
  .union [first, second]

/-- The alternatives of a union; any other shape has none. -/
def alternatives : Shape → List Shape
  | .union alternatives => alternatives
  | _ => []

/-- What a sequence of shapes stands for: any array, an array of the one shape, or one of
several. -/
def ofSequence : List Shape → Shape
  | [] => .anyArray
  | [element] => .array element
  | alternatives => .union alternatives

/-! ## Equality up to the order of fields -/

mutual

/-- Equal, when the order in which fields are declared does not count. The order of alternatives
counts. -/
def same : Shape → Shape → Bool
  | .ofKind left, .ofKind right => left = right
  | .null, .null => true
  | .anyArray, .anyArray => true
  | .array left, .array right => same left right
  | .object left, .object right => left.length = right.length && sameFields left right
  | .union left, .union right => sameAlternatives left right
  | _, _ => false

/-- Every field has a counterpart of the same name. -/
def sameFields : List (String × Shape) → List (String × Shape) → Bool
  | [], _ => true
  | (name, shape) :: rest, fields =>
    (match Fields.get? name fields with
      | some other => same shape other
      | none => false) && sameFields rest fields

/-- The alternatives agree one by one. -/
def sameAlternatives : List Shape → List Shape → Bool
  | [], [] => true
  | left :: rest, right :: others => same left right && sameAlternatives rest others
  | _, _ => false

end

end Shape

end JsonShape
