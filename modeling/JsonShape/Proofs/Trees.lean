import JsonShape.Evidence
import JsonShape.Shape

/-!
# Induction over trees with lists of parts

Values, shapes and evidence hold their parts in lists, under names or inside options. Each has one
induction principle here, with the hypothesis for every part that is a member of such a list, so
that a proof has one case for each way to build the tree. What is asked of a whole tree is restated
as something asked of every member.
-/
namespace JsonShape

/-- A list of named trees is larger than each of the trees. -/
theorem sizeOf_named_lt {κ α : Type} [SizeOf κ] [SizeOf α] {fields : List (κ × α)} {field : κ × α}
    (there : field ∈ fields) : sizeOf field.2 < sizeOf fields := by
  have whole := List.sizeOf_lt_of_mem there
  have part : sizeOf field = 1 + sizeOf field.1 + sizeOf field.2 := rfl
  omega

/-- Induction over a value: the hypothesis holds of every element and every member. -/
@[elab_as_elim, induction_eliminator]
theorem Json.induction {motive : Json → Prop}
    (scalar : ∀ value, motive (.scalar value))
    (array : ∀ items, (∀ item ∈ items, motive item) → motive (.array items))
    (object : ∀ members, (∀ member ∈ members, motive member.2) → motive (.object members)) :
    ∀ value, motive value
  | .scalar value => scalar value
  | .array items => array items fun item _ => Json.induction scalar array object item
  | .object members =>
    object members fun member _ => Json.induction scalar array object member.2
termination_by value => sizeOf value
decreasing_by
  · decreasing_tactic
  · have smaller := sizeOf_named_lt ‹_ ∈ _›
    rw [Json.object.sizeOf_spec]
    omega

/-- Induction over a shape: the hypothesis holds of every field, the element and every
alternative. -/
@[elab_as_elim, induction_eliminator]
theorem Shape.induction {motive : Shape → Prop}
    (ofKind : ∀ kind, motive (.ofKind kind))
    (null : motive .null)
    (object : ∀ fields, (∀ field ∈ fields, motive field.2) → motive (.object fields))
    (anyArray : motive .anyArray)
    (array : ∀ element, motive element → motive (.array element))
    (union : ∀ alternatives, (∀ alternative ∈ alternatives, motive alternative) →
      motive (.union alternatives)) :
    ∀ shape, motive shape
  | .ofKind kind => ofKind kind
  | .null => null
  | .object fields =>
    object fields fun field _ =>
      Shape.induction ofKind null object anyArray array union field.2
  | .anyArray => anyArray
  | .array element =>
    array element (Shape.induction ofKind null object anyArray array union element)
  | .union alternatives =>
    union alternatives fun alternative _ =>
      Shape.induction ofKind null object anyArray array union alternative
termination_by shape => sizeOf shape
decreasing_by
  · have smaller := sizeOf_named_lt ‹_ ∈ _›
    rw [Shape.object.sizeOf_spec]
    omega
  all_goals decreasing_tactic

/-- Induction over evidence: the hypothesis holds of the evidence of the elements and of every
field. -/
@[elab_as_elim]
theorem Evidence.induction {motive : Evidence → Prop}
    (intro : ∀ evidence : Evidence,
      (∀ items, evidence.items = some items → motive items) →
      (∀ objects, evidence.objects = some objects →
        ∀ field ∈ objects.fields, motive field.2.evidence) →
      motive evidence) :
    ∀ evidence, motive evidence
  | ⟨nullable, bool, number, string, items, objects⟩ => by
    refine intro _ (fun inner there => ?_) (fun inner there field among => ?_)
    · have same : items = some inner := there
      exact Evidence.induction intro inner
    · have same : objects = some inner := there
      exact Evidence.induction intro field.2.evidence
termination_by evidence => sizeOf evidence
decreasing_by
  · subst same
    simp only [Evidence.mk.sizeOf_spec, Option.some.sizeOf_spec]
    omega
  · subst same
    obtain ⟨seen, fields⟩ := inner
    have whole : sizeOf field.2 < sizeOf fields := sizeOf_named_lt among
    have part : sizeOf field.2 = 1 + sizeOf field.2.count + sizeOf field.2.evidence := rfl
    simp only [Evidence.mk.sizeOf_spec, Option.some.sizeOf_spec, Objects.mk.sizeOf_spec]
    omega

/-! ## Well-formed trees -/

namespace Json

/-- An array has unique names when every element has. -/
theorem distinct_array_iff {items : List Json} :
    (Json.array items).Distinct ↔ ∀ item ∈ items, item.Distinct := by
  rw [Distinct]
  induction items with
  | nil => simp [DistinctItems]
  | cons item rest ih => simp [DistinctItems, ih]

/-- An object has unique names when its own are and every member has. -/
theorem distinct_object_iff {members : List (String × Json)} :
    (Json.object members).Distinct ↔
      Fields.Distinct members ∧ ∀ member ∈ members, member.2.Distinct := by
  rw [Distinct]
  refine and_congr Iff.rfl ?_
  induction members with
  | nil => simp [DistinctMembers]
  | cons member rest ih => simp [DistinctMembers, ih]

/-- Elements are nested no deeper than a limit when each of them is not. -/
theorem itemsDepth_le_iff {items : List Json} {limit : Nat} :
    itemsDepth items ≤ limit ↔ ∀ item ∈ items, item.depth ≤ limit := by
  induction items with
  | nil => simp [itemsDepth]
  | cons item rest ih => rw [itemsDepth, Nat.max_le, ih, List.forall_mem_cons]

/-- Members are nested no deeper than a limit when each of them is not. -/
theorem membersDepth_le_iff {members : List (String × Json)} {limit : Nat} :
    membersDepth members ≤ limit ↔ ∀ member ∈ members, member.2.depth ≤ limit := by
  induction members with
  | nil => simp [membersDepth]
  | cons member rest ih => rw [membersDepth, Nat.max_le, ih, List.forall_mem_cons]

end Json

namespace Shape

/-- An object shape is well formed when its names are unique and every field is well formed. -/
theorem wellFormed_object_iff {fields : List (String × Shape)} :
    (Shape.object fields).WellFormed ↔
      Fields.Distinct fields ∧ ∀ field ∈ fields, field.2.WellFormed := by
  rw [WellFormed]
  refine and_congr Iff.rfl ?_
  induction fields with
  | nil => simp [WellFormedFields]
  | cons field rest ih => simp [WellFormedFields, ih]

/-- A union is well formed when it has two alternatives or more and every one is well formed. -/
theorem wellFormed_union_iff {alternatives : List Shape} :
    (Shape.union alternatives).WellFormed ↔
      2 ≤ alternatives.length ∧ ∀ alternative ∈ alternatives, alternative.WellFormed := by
  rw [WellFormed]
  refine and_congr Iff.rfl ?_
  induction alternatives with
  | nil => simp [WellFormedAlternatives]
  | cons alternative rest ih => simp [WellFormedAlternatives, ih]

end Shape

end JsonShape
