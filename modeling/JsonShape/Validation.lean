import JsonShape.Json.Writer
import JsonShape.Mismatch
import JsonShape.Shape

/-!
# Validation

Checking a slot against a shape lists every failure: those of an object in the order of its
declared fields, those of an array in the order of its elements. A union that no alternative
satisfies is one failure.
-/
namespace JsonShape

/-- A mismatch of the checked slot itself. -/
def failHere (mismatch : Mismatch) : List Failure :=
  [⟨[], mismatch⟩]

/-- The failures of elements, the first of which has an index. -/
def itemFailures (check : Json → List Failure) (index : Nat) : List Json → List Failure
  | [] => []
  | item :: rest =>
    (check item).map (Failure.under (.index index)) ++ itemFailures check (index + 1) rest

namespace Shape

mutual

/-- Every failure of a slot against a shape; none when it conforms. -/
def check : Shape → Slot → List Failure
  | .ofKind kind, slot =>
    if Kind.ofSlot slot = kind then [] else failHere (.notOfKind kind (Slot.render slot))
  | .null, slot =>
    match slot with
    | none => []
    | some .null => []
    | slot => failHere (.notNull (Slot.render slot))
  | .object fields, slot =>
    match slot with
    | some (.object members) => checkFields fields members
    | slot => failHere (.notObject (Slot.render slot))
  | .anyArray, slot =>
    match slot with
    | some (.array _) => []
    | slot => failHere (.notArray (Slot.render slot))
  | .array element, slot =>
    match slot with
    | some (.array items) => itemFailures (fun item => element.check (some item)) 0 items
    | slot => failHere (.notArray (Slot.render slot))
  | .union alternatives, slot =>
    match checkAlternatives alternatives slot with
    | none => []
    | some failures => failHere (.noAlternative failures)

/-- The failures of the declared fields of an object. -/
def checkFields : List (String × Shape) → List (String × Json) → List Failure
  | [], _ => []
  | (name, shape) :: rest, members =>
    (shape.check (Fields.get? name members)).map (Failure.under (.field name)) ++
      checkFields rest members

/-- The failures of all alternatives, or none when one of them has no failure. -/
def checkAlternatives : List Shape → Slot → Option (List Failure)
  | [], _ => some []
  | shape :: rest, slot =>
    match shape.check slot with
    | [] => none
    | failures => (checkAlternatives rest slot).map (failures ++ ·)

end

/-- Every failure of a value. -/
def validate (shape : Shape) (value : Json) : List Failure :=
  shape.check (some value)

/-- Whether a value has no failure. -/
def accepts (shape : Shape) (value : Json) : Bool :=
  (shape.validate value).isEmpty

end Shape

end JsonShape
