import JsonShape.Fields
import JsonShape.Number

/-!
# JSON values

A value is a scalar, an array or an object. An object keeps its members in order; `Json.Distinct`
says that no object at any depth has two members of one name, which holds of every value that
was read from a text. A slot is a place in a document where a value may be absent.
-/
namespace JsonShape

/-- A value without parts. -/
inductive Scalar where
  /-- The null value. -/
  | null
  /-- A truth value. -/
  | bool (value : Bool)
  /-- A number. -/
  | number (value : Number)
  /-- A string. -/
  | string (value : String)
deriving DecidableEq

/-- A JSON value. -/
inductive Json where
  /-- A value without parts. -/
  | scalar (value : Scalar)
  /-- Elements in order. -/
  | array (items : List Json)
  /-- Members in order. -/
  | object (members : List (String × Json))

/-- A value, or none where a document has nothing. -/
abbrev Slot := Option Json

namespace Json

/-- The null value. -/
@[match_pattern] abbrev null : Json := .scalar .null

/-- A truth value. -/
@[match_pattern] abbrev bool (value : Bool) : Json := .scalar (.bool value)

/-- A number. -/
@[match_pattern] abbrev number (value : Number) : Json := .scalar (.number value)

/-- A string. -/
@[match_pattern] abbrev string (value : String) : Json := .scalar (.string value)

instance : Inhabited Json := ⟨null⟩

mutual

/-- No object inside has two members of one name. -/
def Distinct : Json → Prop
  | .scalar _ => True
  | .array items => DistinctItems items
  | .object members => Fields.Distinct members ∧ DistinctMembers members

/-- No object inside any element has two members of one name. -/
def DistinctItems : List Json → Prop
  | [] => True
  | item :: rest => item.Distinct ∧ DistinctItems rest

/-- No object inside any member has two members of one name. -/
def DistinctMembers : List (String × Json) → Prop
  | [] => True
  | (_, value) :: rest => value.Distinct ∧ DistinctMembers rest

end

mutual

/-- How many arrays and objects are nested in each other at most. -/
def depth : Json → Nat
  | .scalar _ => 0
  | .array items => itemsDepth items + 1
  | .object members => membersDepth members + 1

/-- The greatest depth of the elements. -/
def itemsDepth : List Json → Nat
  | [] => 0
  | item :: rest => max item.depth (itemsDepth rest)

/-- The greatest depth of the members. -/
def membersDepth : List (String × Json) → Nat
  | [] => 0
  | (_, value) :: rest => max value.depth (membersDepth rest)

end

end Json

end JsonShape
