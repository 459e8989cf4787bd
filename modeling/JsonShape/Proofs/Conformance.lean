import JsonShape.Proofs.Trees
import JsonShape.Validation

/-!
# Conformance

A slot conforms to a shape by rules that speak of neither failures nor paths: an object asks for
every declared field, an array for every element and a union for one alternative. The check lists
failures instead, part by part, and stops at the first alternative that has none. Checking finds
no failure exactly when the slot conforms.
-/
namespace JsonShape

/-- The slots of a kind. Null, arrays and objects are of kind object; only absence is undefined. -/
inductive Kind.Describes : Kind → Slot → Prop where
  /-- A string. -/
  | string (value : String) : Describes .string (some (.string value))
  /-- A number. -/
  | number (value : Number) : Describes .number (some (.number value))
  /-- A truth value. -/
  | boolean (value : Bool) : Describes .boolean (some (.bool value))
  /-- The null value. -/
  | null : Describes .object (some .null)
  /-- An array. -/
  | array (items : List Json) : Describes .object (some (.array items))
  /-- An object. -/
  | object (members : List (String × Json)) : Describes .object (some (.object members))
  /-- No value. -/
  | absent : Describes .undefined none

/-- The slots that conform to a shape. -/
inductive Conforms : Shape → Slot → Prop where
  /-- A slot of the kind. -/
  | ofKind {kind : Kind} {slot : Slot} : kind.Describes slot → Conforms (.ofKind kind) slot
  /-- No value where null is due. -/
  | absent : Conforms .null none
  /-- Null where null is due. -/
  | null : Conforms .null (some .null)
  /-- An object, every declared field of which conforms; other members do not matter. -/
  | object {fields : List (String × Shape)} {members : List (String × Json)} :
      (∀ field ∈ fields, Conforms field.2 (Fields.get? field.1 members)) →
      Conforms (.object fields) (some (.object members))
  /-- An array of anything. -/
  | anyArray (items : List Json) : Conforms .anyArray (some (.array items))
  /-- An array, every element of which conforms. -/
  | array {element : Shape} {items : List Json} :
      (∀ item ∈ items, Conforms element (some item)) →
      Conforms (.array element) (some (.array items))
  /-- A slot that conforms to an alternative. -/
  | union {alternatives : List Shape} {alternative : Shape} {slot : Slot} :
      alternative ∈ alternatives → Conforms alternative slot →
      Conforms (.union alternatives) slot

/-- The kind of a slot is the one that describes it. -/
theorem Kind.ofSlot_eq_iff {slot : Slot} {kind : Kind} :
    Kind.ofSlot slot = kind ↔ kind.Describes slot := by
  constructor
  · rintro rfl
    cases slot with
    | none => exact .absent
    | some value =>
      cases value with
      | scalar value =>
        cases value with
        | null => exact .null
        | bool value => exact .boolean value
        | number value => exact .number value
        | string value => exact .string value
      | array items => exact .array items
      | object members => exact .object members
  · intro described
    cases described <;> rfl

/-! ## Checking part by part -/

/-- The failures of elements are those of each element under its index. -/
theorem itemFailures_eq_flatMap (check : Json → List Failure) (index : Nat) (items : List Json) :
    itemFailures check index items =
      (items.zipIdx index).flatMap fun (item, position) =>
        (check item).map (Failure.under (.index position)) := by
  induction items generalizing index with
  | nil => rfl
  | cons item rest ih => simp [itemFailures, ih]

namespace Shape

/-- The failures of an object are those of each declared field under its name. -/
theorem checkFields_eq_flatMap (fields : List (String × Shape)) (members : List (String × Json)) :
    checkFields fields members =
      fields.flatMap fun field =>
        (field.2.check (Fields.get? field.1 members)).map (Failure.under (.field field.1)) := by
  induction fields with
  | nil => rfl
  | cons field rest ih => simp [checkFields, ih]

/-- Alternatives stop at one that has no failure, and there only. -/
theorem checkAlternatives_eq_none_iff {alternatives : List Shape} {slot : Slot} :
    checkAlternatives alternatives slot = none ↔
      ∃ alternative ∈ alternatives, alternative.check slot = [] := by
  induction alternatives with
  | nil => simp [checkAlternatives]
  | cons alternative rest ih =>
    cases first : alternative.check slot with
    | nil => simp [checkAlternatives, first]
    | cons failure others => simp [checkAlternatives, first, ih]

/-- When every alternative fails, the failures are theirs in order. -/
theorem checkAlternatives_eq_some {alternatives : List Shape} {slot : Slot}
    (failed : ∀ alternative ∈ alternatives, alternative.check slot ≠ []) :
    checkAlternatives alternatives slot = some (alternatives.flatMap (·.check slot)) := by
  induction alternatives with
  | nil => rfl
  | cons alternative rest ih =>
    have others := ih fun other among => failed other (List.mem_cons_of_mem _ among)
    cases first : alternative.check slot with
    | nil => exact absurd first (failed alternative List.mem_cons_self)
    | cons failure more => simp [checkAlternatives, first, others]

/-! ## The check decides conformance -/

/-- An object is free of failures when every declared field is. -/
theorem checkFields_eq_nil_iff {fields : List (String × Shape)} {members : List (String × Json)} :
    checkFields fields members = [] ↔
      ∀ field ∈ fields, field.2.check (Fields.get? field.1 members) = [] := by
  rw [checkFields_eq_flatMap, List.flatMap_eq_nil_iff]
  simp only [List.map_eq_nil_iff]

end Shape

/-- Elements are free of failures when every one is. -/
theorem itemFailures_eq_nil_iff {check : Json → List Failure} {index : Nat} {items : List Json} :
    itemFailures check index items = [] ↔ ∀ item ∈ items, check item = [] := by
  induction items generalizing index with
  | nil => simp [itemFailures]
  | cons item rest ih => simp [itemFailures, ih]

namespace Shape

/-- A slot without failures conforms. -/
theorem conforms_of_check {shape : Shape} {slot : Slot} (free : shape.check slot = []) :
    Conforms shape slot := by
  induction shape generalizing slot with
  | ofKind kind =>
    by_cases same : Kind.ofSlot slot = kind
    · exact .ofKind (Kind.ofSlot_eq_iff.mp same)
    · simp [check, same, failHere] at free
  | null =>
    unfold check at free
    split at free
    · exact .absent
    · exact .null
    · simp [failHere] at free
  | object fields ih =>
    unfold check at free
    split at free
    · rename_i members
      rw [checkFields_eq_nil_iff] at free
      exact .object fun field among => ih field among (free field among)
    · simp [failHere] at free
  | anyArray =>
    unfold check at free
    split at free
    · exact .anyArray _
    · simp [failHere] at free
  | array element ih =>
    unfold check at free
    split at free
    · rename_i items
      rw [itemFailures_eq_nil_iff] at free
      exact .array fun item among => ih (free item among)
    · simp [failHere] at free
  | union alternatives ih =>
    unfold check at free
    split at free
    · rename_i passed
      obtain ⟨alternative, among, passes⟩ := checkAlternatives_eq_none_iff.mp passed
      exact .union among (ih alternative among passes)
    · simp [failHere] at free

/-- A slot that conforms has no failure. -/
theorem check_of_conforms {shape : Shape} {slot : Slot} (conforms : Conforms shape slot) :
    shape.check slot = [] := by
  induction conforms with
  | ofKind described => simp [check, Kind.ofSlot_eq_iff.mpr described]
  | absent => rfl
  | null => rfl
  | object _ ih => exact checkFields_eq_nil_iff.mpr ih
  | anyArray items => rfl
  | array _ ih => exact itemFailures_eq_nil_iff.mpr ih
  | union among _ ih =>
    simp [check, checkAlternatives_eq_none_iff.mpr ⟨_, among, ih⟩]

/-- Checking a slot, absent or present, finds no failure exactly when the slot conforms. -/
theorem check_eq_nil_iff_conforms (shape : Shape) (slot : Slot) :
    shape.check slot = [] ↔ Conforms shape slot :=
  ⟨conforms_of_check, check_of_conforms⟩

end Shape

end JsonShape
