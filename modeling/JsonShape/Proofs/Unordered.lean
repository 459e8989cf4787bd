import JsonShape.Json
import JsonShape.Proofs.Associativity
import JsonShape.Proofs.Lowering
import Mathlib.Data.List.Forall2
import Mathlib.Data.List.Nodup
import Mathlib.Data.List.Perm.Subperm

/-!
# Fields whose order does not count

Values and shapes are compared without regard to the order of their fields. Where no name has two
fields, that is the same as asking what each name has, and the comparison of a tree comes down to
those of its parts.
-/
namespace JsonShape

/-- Related options are both nothing, or related things. -/
theorem optionRel_iff {α β : Type} {R : α → β → Prop} {option : Option α} {other : Option β} :
    Option.Rel R option other ↔ (option = none ∧ other = none) ∨
      ∃ one two, option = some one ∧ other = some two ∧ R one two := by
  constructor
  · rintro (related | _)
    · exact .inr ⟨_, _, rfl, rfl, related⟩
    · exact .inl ⟨rfl, rfl⟩
  · rintro (⟨rfl, rfl⟩ | ⟨one, two, rfl, rfl, related⟩)
    · exact .none
    · exact .some related

namespace Fields

variable {α β : Type} {R : α → β → Prop} {fields : List (String × α)} {others : List (String × β)}

/-- Each name has related values in two lists, or a value in neither. -/
def Matched (R : α → β → Prop) (fields : List (String × α)) (others : List (String × β)) : Prop :=
  ∀ name, Option.Rel R (get? name fields) (get? name others)

/-- Matched fields have the same names. -/
theorem Matched.mem_names_iff (matched : Matched R fields others) (name : String) :
    name ∈ names fields ↔ name ∈ names others := by
  rw [← get?_isSome_iff, ← get?_isSome_iff]
  rcases optionRel_iff.mp (matched name) with ⟨none, also⟩ | ⟨value, other, found, also, _⟩
  · rw [none, also]
    exact Iff.rfl
  · rw [found, also]
    exact Iff.rfl

/-- Matched lists are equally long when no name has two fields. -/
theorem Matched.length_eq (matched : Matched R fields others) (distinct : Distinct fields)
    (otherDistinct : Distinct others) : fields.length = others.length := by
  have permuted : (names fields).Perm (names others) :=
    (List.perm_ext_iff_of_nodup distinct otherDistinct).mpr matched.mem_names_iff
  have lengths := permuted.length_eq
  rw [names, names, List.length_map, List.length_map] at lengths
  exact lengths

/-- When no name has two fields, lists are matched exactly when they are equally long and each field
of the first has a counterpart in the second. -/
theorem matched_iff (distinct : Distinct fields) (otherDistinct : Distinct others) :
    Matched R fields others ↔ fields.length = others.length ∧
      ∀ field ∈ fields, ∃ other, get? field.1 others = some other ∧ R field.2 other := by
  constructor
  · intro matched
    refine ⟨matched.length_eq distinct otherDistinct, fun field among => ?_⟩
    have there := get?_of_mem distinct among
    rcases optionRel_iff.mp (matched field.1) with ⟨none, _⟩ | ⟨value, other, found, also, related⟩
    · cases there.symm.trans none
    · obtain rfl : field.2 = value := Option.some.inj (there.symm.trans found)
      exact ⟨other, also, related⟩
  · rintro ⟨length, counterparts⟩ name
    have included : names fields ⊆ names others := by
      intro key there
      obtain ⟨field, among, rfl⟩ := List.mem_map.mp there
      obtain ⟨other, found, _⟩ := counterparts field among
      exact get?_isSome_iff.mp (Option.isSome_of_mem found)
    -- As many names of the second list are those of the first, so it has no others.
    have permuted : (names fields).Perm (names others) := by
      apply (List.subperm_of_subset distinct included).perm_of_length_le
      rw [names, names, List.length_map, List.length_map]
      exact Nat.le_of_eq length.symm
    cases found : get? name fields with
    | none =>
      have missing : name ∉ names others :=
        fun there => get?_eq_none_iff.mp found (permuted.mem_iff.mpr there)
      rw [get?_eq_none_iff.mpr missing]
      exact .none
    | some value =>
      obtain ⟨other, also, related⟩ := counterparts (name, value) (mem_of_get? found)
      rw [also]
      exact .some related

end Fields

/-! ## Values up to the order of members -/

/-- Whether two numbers are equal, as the zeros of both signs are. -/
def Number.same : Number → Number → Bool
  | .integer value _ _, .integer other _ _ => value = other
  | .double value, .double other => value.signedQuanta = other.signedQuanta
  | _, _ => false

/-- Whether two values without parts are equal. -/
def Scalar.same : Scalar → Scalar → Bool
  | .null, .null => true
  | .bool value, .bool other => value = other
  | .number value, .number other => value.same other
  | .string value, .string other => value = other
  | _, _ => false

namespace Json

mutual

/-- Equal, when the order of members does not count. -/
def same : Json → Json → Bool
  | .scalar value, .scalar other => value.same other
  | .array items, .array others => sameItems items others
  | .object members, .object others =>
    members.length = others.length && sameMembers members others
  | _, _ => false

/-- The elements agree one by one. -/
def sameItems : List Json → List Json → Bool
  | [], [] => true
  | item :: rest, other :: others => same item other && sameItems rest others
  | _, _ => false

/-- Every member has a counterpart of the same name. -/
def sameMembers : List (String × Json) → List (String × Json) → Bool
  | [], _ => true
  | (name, value) :: rest, members =>
    (match Fields.get? name members with
      | some other => same value other
      | none => false) && sameMembers rest members

end

/-- Equal values are of one kind. -/
theorem kind_of_same {value other : Json} (same : value.same other) :
    Kind.ofSlot (some value) = Kind.ofSlot (some other) := by
  unfold Json.same at same
  split at same
  · rename_i first second
    cases first <;> cases second <;> first | rfl | cases same
  · rfl
  · rfl
  · cases same

/-- Arrays are equal when their elements are, one by one. -/
theorem same_array_iff {items others : List Json} :
    (Json.array items).same (.array others) ↔
      List.Forall₂ (fun item other => item.same other) items others := by
  rw [same]
  induction items generalizing others with
  | nil => cases others <;> simp [sameItems]
  | cons item rest ih => cases others <;> simp [sameItems, ih]

/-- Objects are equal when each name has equal values in both, or a value in neither. -/
theorem same_object_iff {members others : List (String × Json)}
    (distinct : Fields.Distinct members) (otherDistinct : Fields.Distinct others) :
    (Json.object members).same (.object others) ↔
      Fields.Matched (fun value other => value.same other) members others := by
  have each (members : List (String × Json)) : sameMembers members others ↔
      ∀ member ∈ members, ∃ other, Fields.get? member.1 others = some other ∧
        member.2.same other := by
    induction members with
    | nil => simp [sameMembers]
    | cons member rest ih =>
      cases found : Fields.get? member.1 others <;> simp [sameMembers, found, ih]
  rw [Fields.matched_iff distinct otherDistinct, ← each]
  simp [same]

end Json

/-! ## Shapes up to the order of fields -/

namespace Shape

/-- No object shape inside declares a field twice. -/
inductive Distinct : Shape → Prop where
  /-- A kind declares nothing. -/
  | ofKind (kind : Kind) : Distinct (.ofKind kind)
  /-- Null declares nothing. -/
  | null : Distinct .null
  /-- Fields of different names. -/
  | object {fields : List (String × Shape)} : Fields.Distinct fields →
      (∀ field ∈ fields, Distinct field.2) → Distinct (.object fields)
  /-- Any array declares nothing. -/
  | anyArray : Distinct .anyArray
  /-- What the element declares. -/
  | array {element : Shape} : Distinct element → Distinct (.array element)
  /-- What the alternatives declare, however many there are. -/
  | union {alternatives : List Shape} : (∀ alternative ∈ alternatives, Distinct alternative) →
      Distinct (.union alternatives)

/-- A well-formed shape declares no field twice. -/
theorem WellFormed.distinct {shape : Shape} (wellFormed : shape.WellFormed) : shape.Distinct := by
  induction shape with
  | ofKind kind => exact .ofKind kind
  | null => exact .null
  | anyArray => exact .anyArray
  | array element ih => exact .array (ih wellFormed)
  | object fields ih =>
    obtain ⟨names, each⟩ := wellFormed_object_iff.mp wellFormed
    exact .object names fun field among => ih field among (each field among)
  | union alternatives ih =>
    have each := (wellFormed_union_iff.mp wellFormed).2
    exact .union fun alternative among => ih alternative among (each alternative among)

/-- Unions are equal when their alternatives are, one by one. -/
theorem same_union_iff {alternatives others : List Shape} :
    (Shape.union alternatives).same (.union others) ↔
      List.Forall₂ (fun alternative other => alternative.same other) alternatives others := by
  rw [same]
  induction alternatives generalizing others with
  | nil => cases others <;> simp [sameAlternatives]
  | cons alternative rest ih => cases others <;> simp [sameAlternatives, ih]

/-- Object shapes are equal when each name has equal shapes in both, or a shape in neither. -/
theorem same_object_iff {fields others : List (String × Shape)}
    (distinct : Fields.Distinct fields) (otherDistinct : Fields.Distinct others) :
    (Shape.object fields).same (.object others) ↔
      Fields.Matched (fun shape other => shape.same other) fields others := by
  have each (fields : List (String × Shape)) : sameFields fields others ↔
      ∀ field ∈ fields, ∃ other, Fields.get? field.1 others = some other ∧
        field.2.same other := by
    induction fields with
    | nil => simp [sameFields]
    | cons field rest ih =>
      cases found : Fields.get? field.1 others <;> simp [sameFields, found, ih]
  rw [Fields.matched_iff distinct otherDistinct, ← each]
  simp [same]

end Shape

/-! ## Evidence up to the order of fields -/

namespace Evidence

/-- Evidence is equal when its six parts are. -/
theorem same_iff {left right : Evidence} :
    left.same right ↔
      (left.nullable = right.nullable ∧ left.bool = right.bool ∧ left.number = right.number ∧
        left.string = right.string) ∧
      sameItems left.items right.items ∧ sameObjects left.objects right.objects := by
  cases left
  simp [same, and_assoc]

/-- Objects are equal when they are equally many and each name has equal occurrences in both, or
none in either. -/
theorem sameObjects_iff {objects others : Objects Evidence}
    (distinct : Fields.Distinct objects.fields) (otherDistinct : Fields.Distinct others.fields) :
    sameObjects (some objects) (some others) ↔ objects.seen = others.seen ∧
      Fields.Matched
        (fun occurrence other => occurrence.count = other.count ∧
          occurrence.evidence.same other.evidence)
        objects.fields others.fields := by
  have each (fields : List (String × Occurrence Evidence)) : sameFields fields others.fields ↔
      ∀ field ∈ fields, ∃ other, Fields.get? field.1 others.fields = some other ∧
        field.2.count = other.count ∧ field.2.evidence.same other.evidence := by
    induction fields with
    | nil => simp [sameFields]
    | cons field rest ih =>
      cases found : Fields.get? field.1 others.fields <;> simp [sameFields, found, ih]
  obtain ⟨seen, fields⟩ := objects
  rw [Fields.matched_iff distinct otherDistinct, ← each]
  simp [sameObjects, and_assoc]

end Evidence

/-! ## Lowered evidence up to the order of fields -/

namespace Evidence

variable {shape other : Option Shape}

/-- Fields have equal shapes when what they were lowered from has equal shapes, or none. -/
theorem same_getD (shapes : Option.Rel (fun shape other => shape.same other) shape other) :
    (shape.getD .null).same (other.getD .null) := by
  cases shapes with
  | none => rfl
  | some same => exact same

/-- Objects have equal shapes when they have the same fields, counted alike, whose evidence has
equal shapes. -/
theorem same_fieldShapes {seen : UInt64} {fields others : List (String × Occurrence Evidence)}
    (distinct : Fields.Distinct fields) (otherDistinct : Fields.Distinct others)
    (matched : Fields.Matched
      (fun before after => before.count = after.count ∧ ∀ optional,
        Option.Rel (fun shape other => shape.same other) (before.evidence.shape? optional)
          (after.evidence.shape? optional))
      fields others) :
    (Shape.object (fieldShapes seen fields)).same (.object (fieldShapes seen others)) := by
  have lowered (name : String) (fields : List (String × Occurrence Evidence)) :
      Fields.get? name (fieldShapes seen fields) = (Fields.get? name fields).map fun occurrence =>
        (occurrence.evidence.shape? (occurrence.count < seen)).getD .null := by
    rw [fieldShapes_eq_map]
    exact Fields.get?_map (fun _ (occurrence : Occurrence Evidence) =>
      (occurrence.evidence.shape? (occurrence.count < seen)).getD .null) name fields
  rw [Shape.same_object_iff (by rwa [Fields.Distinct, names_fieldShapes])
    (by rwa [Fields.Distinct, names_fieldShapes])]
  intro name
  rw [lowered, lowered]
  rcases optionRel_iff.mp (matched name) with
    ⟨none, also⟩ | ⟨before, after, found, also, counts, shapes⟩
  · rw [none, also]
    exact .none
  · rw [found, also, Option.map_some, Option.map_some, ← counts]
    exact .some (same_getD (shapes (before.count < seen)))

/-- Arrays have equal shapes when their elements have, or had none. -/
theorem same_arrayShape {items others : Evidence}
    (shapes : Option.Rel (fun shape other => shape.same other) (items.shape? false)
      (others.shape? false)) : (arrayShape items).same (arrayShape others) := by
  rcases optionRel_iff.mp shapes with ⟨none, also⟩ | ⟨_, _, found, also, same⟩
  · rw [arrayShape, arrayShape, none, also]
    rfl
  · rw [arrayShape, arrayShape, found, also]
    exact same

/-- An arm agrees with itself, whether or not it is there. -/
theorem same_arm {present : Bool} {shape : Shape} (self : shape.same shape) :
    List.Forall₂ (fun arm other => arm.same other) (arm present shape) (arm present shape) := by
  cases present with
  | false => exact .nil
  | true => exact .cons self .nil

/-- Arms that agree one by one make shapes that are equal, or no shape. -/
theorem same_shapeOfArms {arms others : List Shape}
    (agree : List.Forall₂ (fun arm other => arm.same other) arms others) :
    Option.Rel (fun shape other => shape.same other) (shapeOfArms arms) (shapeOfArms others) := by
  match agree with
  | .nil => exact .none
  | .cons only .nil => exact .some only
  | .cons first (.cons second rest) =>
    exact .some (Shape.same_union_iff.mpr (.cons first (.cons second rest)))

/-- Evidence of the same kinds of scalars makes shapes that are equal, or no shape, when its
alternatives for objects and arrays agree. -/
theorem same_shapeOfKinds (string number bool null : Bool)
    {objects otherObjects arrays otherArrays : List Shape}
    (objectArms : List.Forall₂ (fun arm other => arm.same other) objects otherObjects)
    (arrayArms : List.Forall₂ (fun arm other => arm.same other) arrays otherArrays) :
    Option.Rel (fun shape other => shape.same other)
      (shapeOfArms (arm string .string ++ arm number .number ++ arm bool .boolean ++ objects ++
        arrays ++ arm null .null))
      (shapeOfArms (arm string .string ++ arm number .number ++ arm bool .boolean ++ otherObjects ++
        otherArrays ++ arm null .null)) := by
  have scalars : List.Forall₂ (fun arm other => arm.same other)
      (arm string .string ++ arm number .number ++ arm bool .boolean)
      (arm string .string ++ arm number .number ++ arm bool .boolean) :=
    List.rel_append (List.rel_append (same_arm rfl) (same_arm rfl)) (same_arm rfl)
  have nulls : List.Forall₂ (fun arm other => arm.same other) (arm null .null) (arm null .null) :=
    same_arm rfl
  exact same_shapeOfArms
    (List.rel_append (List.rel_append (List.rel_append scalars objectArms) arrayArms) nulls)

end Evidence

end JsonShape
