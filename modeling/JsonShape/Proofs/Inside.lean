import JsonShape.Proofs.Trees
import Mathlib.Algebra.BigOperators.Group.List.Basic

/-!
# Shapes inside a shape

What holds of a shape at every depth holds of every shape inside it: of the shape itself, of its
fields, elements and alternatives, and of what is inside those. A shape is plural when every union
inside it has two alternatives or more, and flat when no union inside it has a union as one of its
alternatives.
-/
namespace JsonShape

/-- Parts of which each contributes something contribute no fewer together. -/
theorem length_le_flatMap {α β : Type} {parts : List α} {f : α → List β}
    (each : ∀ part ∈ parts, f part ≠ []) : parts.length ≤ (parts.flatMap f).length := by
  have positive : ∀ count ∈ parts.map fun part => (f part).length, 1 ≤ count :=
    List.forall_mem_map.mpr fun part among => List.length_pos_iff.mpr (each part among)
  have counted := List.length_le_sum_of_one_le _ positive
  rwa [List.length_map, ← List.length_flatMap] at counted

namespace Shape

/-- The shapes that a shape is made of, itself included. -/
inductive Inside (inner : Shape) : Shape → Prop where
  /-- The shape itself. -/
  | self : Inside inner inner
  /-- What is inside the shape of a field. -/
  | field {fields : List (String × Shape)} {field : String × Shape} : field ∈ fields →
      Inside inner field.2 → Inside inner (.object fields)
  /-- What is inside the shape of the elements. -/
  | element {element : Shape} : Inside inner element → Inside inner (.array element)
  /-- What is inside an alternative. -/
  | alternative {alternatives : List Shape} {alternative : Shape} : alternative ∈ alternatives →
      Inside inner alternative → Inside inner (.union alternatives)

/-- Whether a shape is a union. -/
def IsUnion (shape : Shape) : Prop :=
  ∃ alternatives, shape = .union alternatives

/-- Every union inside has two alternatives or more. -/
def Plural (shape : Shape) : Prop :=
  ∀ inner : Shape, inner.Inside shape → inner.IsUnion → 2 ≤ inner.alternatives.length

/-- No union inside has a union as one of its alternatives. -/
def Flat (shape : Shape) : Prop :=
  ∀ inner : Shape, inner.Inside shape → ∀ alternative ∈ inner.alternatives, ¬ alternative.IsUnion

section

variable {P : Shape → Prop} {element : Shape} {fields : List (String × Shape)}
  {alternatives : List Shape}

/-- Inside an object shape are the shape itself and what is inside its fields. -/
theorem forall_inside_object_iff :
    (∀ inner : Shape, inner.Inside (.object fields) → P inner) ↔
      P (.object fields) ∧
        ∀ field ∈ fields, ∀ inner : Shape, inner.Inside field.2 → P inner := by
  constructor
  · exact fun each => ⟨each _ .self, fun _ among inner inside => each inner (.field among inside)⟩
  · rintro ⟨here, each⟩ inner inside
    cases inside with
    | self => exact here
    | field among inside => exact each _ among inner inside

/-- Inside an array shape are the shape itself and what is inside its elements. -/
theorem forall_inside_array_iff :
    (∀ inner : Shape, inner.Inside (.array element) → P inner) ↔
      P (.array element) ∧ ∀ inner : Shape, inner.Inside element → P inner := by
  constructor
  · exact fun each => ⟨each _ .self, fun inner inside => each inner (.element inside)⟩
  · rintro ⟨here, each⟩ inner inside
    cases inside with
    | self => exact here
    | element inside => exact each inner inside

/-- Inside a union are the union itself and what is inside its alternatives. -/
theorem forall_inside_union_iff :
    (∀ inner : Shape, inner.Inside (.union alternatives) → P inner) ↔
      P (.union alternatives) ∧
        ∀ alternative ∈ alternatives, ∀ inner : Shape, inner.Inside alternative → P inner := by
  constructor
  · exact fun each =>
      ⟨each _ .self, fun _ among inner inside => each inner (.alternative among inside)⟩
  · rintro ⟨here, each⟩ inner inside
    cases inside with
    | self => exact here
    | alternative among inside => exact each _ among inner inside

/-- A kind is plural, as it has no union inside. -/
theorem plural_ofKind (kind : Kind) : (Shape.ofKind kind).Plural := by
  rintro _ ⟨⟩ ⟨_, ⟨⟩⟩

/-- Null is plural for the same reason. -/
theorem plural_null : Shape.null.Plural := by
  rintro _ ⟨⟩ ⟨_, ⟨⟩⟩

/-- So is the shape of all arrays. -/
theorem plural_anyArray : anyArray.Plural := by
  rintro _ ⟨⟩ ⟨_, ⟨⟩⟩

/-- A union is plural when it has two alternatives or more and they are plural. -/
theorem plural_union_iff : (Shape.union alternatives).Plural ↔
    2 ≤ alternatives.length ∧ ∀ alternative ∈ alternatives, alternative.Plural :=
  forall_inside_union_iff.trans
    (and_congr_left' ⟨fun several => several ⟨alternatives, rfl⟩, fun several _ => several⟩)

/-- An object shape is plural when its fields are. -/
theorem plural_object_iff : (Shape.object fields).Plural ↔ ∀ field ∈ fields, field.2.Plural :=
  forall_inside_object_iff.trans (and_iff_right (by rintro ⟨_, ⟨⟩⟩))

/-- An array shape is plural when its element is. -/
theorem plural_array_iff : (Shape.array element).Plural ↔ element.Plural :=
  forall_inside_array_iff.trans (and_iff_right (by rintro ⟨_, ⟨⟩⟩))

/-- A union is flat when its alternatives are, and none of them is a union. -/
theorem flat_union_iff : (Shape.union alternatives).Flat ↔
    (∀ alternative ∈ alternatives, ¬ alternative.IsUnion) ∧
      ∀ alternative ∈ alternatives, alternative.Flat :=
  forall_inside_union_iff

/-- An object shape is flat when its fields are. -/
theorem flat_object_iff : (Shape.object fields).Flat ↔ ∀ field ∈ fields, field.2.Flat :=
  forall_inside_object_iff.trans (and_iff_right (by rintro _ ⟨⟩))

/-- An array shape is flat when its element is. -/
theorem flat_array_iff : (Shape.array element).Flat ↔ element.Flat :=
  forall_inside_array_iff.trans (and_iff_right (by rintro _ ⟨⟩))

end

/-- Well-formed shapes are plural. -/
theorem WellFormed.plural {shape : Shape} (wellFormed : shape.WellFormed) : shape.Plural := by
  induction shape with
  | ofKind kind => exact plural_ofKind kind
  | null => exact plural_null
  | anyArray => exact plural_anyArray
  | array element ih => exact plural_array_iff.mpr (ih wellFormed)
  | object fields ih =>
    obtain ⟨_, each⟩ := wellFormed_object_iff.mp wellFormed
    exact plural_object_iff.mpr fun field among => ih field among (each field among)
  | union alternatives ih =>
    obtain ⟨several, each⟩ := wellFormed_union_iff.mp wellFormed
    exact plural_union_iff.mpr
      ⟨several, fun alternative among => ih alternative among (each alternative among)⟩

end Shape

end JsonShape
