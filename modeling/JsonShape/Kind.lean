import JsonShape.Json

/-!
# Kinds of values

A kind is a coarse sort of a slot, told without a look inside: objects, arrays and
null are all of kind object, and only a slot without a value is undefined.
-/
namespace JsonShape

/-- What a shape can ask of a value without looking inside. -/
inductive Kind where
  /-- Strings. -/
  | string
  /-- Numbers. -/
  | number
  /-- Truth values. -/
  | boolean
  /-- Objects, arrays and null alike. -/
  | object
  /-- The absence of a value; null is a value. -/
  | undefined
deriving DecidableEq

namespace Kind

/-- The name of a kind. -/
def name : Kind → String
  | .string => "string"
  | .number => "number"
  | .boolean => "boolean"
  | .object => "object"
  | .undefined => "undefined"

/-- The kind of a name. -/
def ofName? (name : String) : Option Kind :=
  if name = "string" then some .string
  else if name = "number" then some .number
  else if name = "boolean" then some .boolean
  else if name = "object" then some .object
  else if name = "undefined" then some .undefined
  else none

/-- The wording for a name that no kind has. -/
def unknownMessage (name : String) : String :=
  "unknown kind `" ++ name ++
    "`, expected \"string\", \"number\", \"boolean\", \"object\" or \"undefined\""

/-- The kind of a value without parts. -/
def ofScalar : Scalar → Kind
  | .null => .object
  | .bool _ => .boolean
  | .number _ => .number
  | .string _ => .string

/-- The kind of a slot. -/
def ofSlot : Slot → Kind
  | none => .undefined
  | some (.scalar value) => ofScalar value
  | some (.array _) => .object
  | some (.object _) => .object

/-- A kind has its own name and no other kind has it. -/
theorem ofName?_eq_some_iff {name : String} {kind : Kind} :
    ofName? name = some kind ↔ name = kind.name := by
  constructor
  · intro found
    unfold ofName? at found
    repeat' split at found
    all_goals simp_all
    all_goals subst found; rfl
  · rintro rfl
    cases kind <;> rfl

/-- The name of a kind names it. -/
@[simp] theorem ofName?_name (kind : Kind) : ofName? kind.name = some kind :=
  ofName?_eq_some_iff.mpr rfl

end Kind

end JsonShape
