import JsonShape.Proofs.Coverage
import JsonShape.Proofs.Notation

/-!
# Inferred shapes are well formed, and how deep their notation gets

Evidence that names no field twice is lowered to a well-formed shape. Its notation is nested at
most twice as deep as the evidence, and once more: each array or object of a sample adds a level of
its own, and a union around it adds another.
-/
namespace JsonShape

namespace Evidence

/-! ## Names -/

/-- No object evidence at any position has two fields of one name. -/
def Named (evidence : Evidence) : Prop :=
  Everywhere (fun objects => Fields.Distinct objects.fields) evidence

/-- Joining repeats no name that neither side repeats. -/
theorem Named.join {left right : Evidence} (namedLeft : left.Named) (namedRight : right.Named) :
    (left.join right).Named :=
  Everywhere.join (J := fun _ _ => True) (fun _ => id) (fun _ => id)
    (fun _ _ first second _ => distinct_joinedObjects first second) namedLeft namedRight
    (Paired.trivial (fun _ _ => True.intro) left right)

/-- Nor does observing further values, if what each of them gives repeats none. -/
theorem Named.joinAll {start : Evidence} {items : List Json} (named : start.Named)
    (each : ∀ item ∈ items, (ofJson item).Named) : (start.joinAll items).Named := by
  induction items generalizing start with
  | nil => exact named
  | cons item rest ih =>
    exact ih (named.join (each item List.mem_cons_self))
      fun other among => each other (List.mem_cons_of_mem _ among)

/-- What a value gives repeats no name that the value does not repeat. -/
theorem named_ofJson {value : Json} (distinct : value.Distinct) : (ofJson value).Named := by
  induction value with
  | scalar value => exact everywhere_ofScalar value
  | array items ih =>
    have parts := Json.distinct_array_iff.mp distinct
    exact everywhere_ofArray
      (Named.joinAll Everywhere.empty fun item among => ih item among (parts item among))
  | object members ih =>
    obtain ⟨names, parts⟩ := Json.distinct_object_iff.mp distinct
    refine everywhere_ofObject ?_ fun member among => ih member among (parts member among)
    rwa [Fields.Distinct, names_ofMembers]

/-! ## Well-formedness -/

/-- The shape of well-formed arms is well formed. -/
theorem wellFormed_shapeOfArms {arms : List Shape} {shape : Shape}
    (each : ∀ arm ∈ arms, arm.WellFormed) (made : shapeOfArms arms = some shape) :
    shape.WellFormed := by
  match arms with
  | [only] =>
    cases made
    exact each _ List.mem_cons_self
  | first :: second :: rest =>
    cases made
    exact Shape.wellFormed_union_iff.mpr ⟨Nat.le_add_left 2 rest.length, each⟩

/-- Evidence that names no field twice is lowered to a well-formed shape. -/
theorem Named.wellFormed {evidence : Evidence} (named : evidence.Named) {optional : Bool}
    {shape : Shape} (lowered : evidence.shape? optional = some shape) : shape.WellFormed := by
  induction named generalizing optional shape with
  | @intro evidence items objects fields ihItems ihFields =>
    rw [shape?_eq_shapeOfArms] at lowered
    refine wellFormed_shapeOfArms (fun arm among => ?_) lowered
    rcases mem_arms.mp among with ⟨_, rfl⟩ | ⟨_, rfl⟩ | ⟨_, rfl⟩ | ⟨inner, here, rfl⟩ |
      ⟨inner, here, rfl⟩ | ⟨_, rfl⟩
    · trivial
    · trivial
    · trivial
    · refine Shape.wellFormed_object_iff.mpr ⟨?_, fun field there => ?_⟩
      · rw [Fields.Distinct, names_fieldShapes]
        exact objects inner here
      · rw [fieldShapes_eq_map] at there
        obtain ⟨part, old, rfl⟩ := List.mem_map.mp there
        rw [fieldShape]
        cases found : part.2.evidence.shape? (part.2.count < inner.seen) with
        | none => trivial
        | some shape => exact ihFields inner here part old found
    · rw [arrayShape]
      cases found : inner.shape? false with
      | none => trivial
      | some element =>
        show element.WellFormed
        exact ihItems inner here found
    · trivial

/-! ## Nesting -/

/-- No more than a number of arrays and objects are nested in each other in some evidence. -/
def Shallow : Nat → Evidence → Prop
  | 0, evidence => evidence.items = none ∧ evidence.objects = none
  | depth + 1, evidence =>
    (∀ items, evidence.items = some items → Shallow depth items) ∧
      ∀ objects, evidence.objects = some objects →
        ∀ field ∈ objects.fields, Shallow depth field.2.evidence

/-- Evidence without arrays and objects nests nothing. -/
theorem shallow_of_none {evidence : Evidence} (items : evidence.items = none)
    (objects : evidence.objects = none) (depth : Nat) : Shallow depth evidence := by
  cases depth with
  | zero => exact ⟨items, objects⟩
  | succ depth =>
    refine ⟨fun inner there => ?_, fun inner there => ?_⟩
    · cases items.symm.trans there
    · cases objects.symm.trans there

/-- So does the evidence of a value without parts. -/
theorem shallow_ofScalar (depth : Nat) (value : Scalar) : Shallow depth (ofScalar value) := by
  cases value <;> exact shallow_of_none rfl rfl depth

/-- Joining nests nothing deeper. -/
theorem Shallow.join {depth : Nat} {left right : Evidence} (shallowLeft : Shallow depth left)
    (shallowRight : Shallow depth right) : Shallow depth (left.join right) := by
  induction depth generalizing left right with
  | zero =>
    obtain ⟨items, objects⟩ := shallowLeft
    obtain ⟨otherItems, otherObjects⟩ := shallowRight
    simp [Shallow, items, otherItems, objects, otherObjects, joinItems, joinObjects]
  | succ depth ih =>
    obtain ⟨items, fields⟩ := shallowLeft
    obtain ⟨otherItems, otherFields⟩ := shallowRight
    refine ⟨fun joined there => ?_, fun joined there field among => ?_⟩
    · rw [join_items, joinItems_eq_some] at there
      rcases there with ⟨here, _⟩ | ⟨_, here⟩ | ⟨one, two, here, also, rfl⟩
      · exact items joined here
      · exact otherItems joined here
      · exact ih (items one here) (otherItems two also)
    · rw [join_objects, joinObjects_eq_some] at there
      rcases there with ⟨here, _⟩ | ⟨_, here⟩ | ⟨one, two, here, also, rfl⟩
      · exact fields joined here field among
      · exact otherFields joined here field among
      · rcases mem_joinedObjects among with ⟨old, _⟩ | ⟨part, old, other, found, rfl⟩ | ⟨new, _⟩
        · exact fields one here field old
        · exact ih (fields one here part old)
            (otherFields two also _ (Fields.mem_of_get? found))
        · exact otherFields two also field new

/-- Observing further values nests no deeper than the values do. -/
theorem Shallow.joinAll {depth : Nat} {start : Evidence} {items : List Json}
    (shallow : Shallow depth start) (each : ∀ item ∈ items, Shallow depth (ofJson item)) :
    Shallow depth (start.joinAll items) := by
  induction items generalizing start with
  | nil => exact shallow
  | cons item rest ih =>
    exact ih (shallow.join (each item List.mem_cons_self))
      fun other among => each other (List.mem_cons_of_mem _ among)

/-- Evidence of a value is nested no deeper than the value. -/
theorem shallow_ofJson {value : Json} {depth : Nat} (le : value.depth ≤ depth) :
    Shallow depth (ofJson value) := by
  induction value generalizing depth with
  | scalar value => exact shallow_ofScalar depth value
  | array items ih =>
    cases depth with
    | zero => exact absurd le (Nat.not_succ_le_zero _)
    | succ depth =>
      have parts := Json.itemsDepth_le_iff.mp (Nat.le_of_succ_le_succ le)
      refine ⟨fun inner there => ?_, fun _ there => ?_⟩
      · obtain rfl : joinAll empty items = inner := Option.some.inj there
        exact (shallow_of_none rfl rfl depth).joinAll fun item among =>
          ih item among (parts item among)
      · cases there
  | object members ih =>
    cases depth with
    | zero => exact absurd le (Nat.not_succ_le_zero _)
    | succ depth =>
      have parts := Json.membersDepth_le_iff.mp (Nat.le_of_succ_le_succ le)
      refine ⟨fun _ there => ?_, fun inner there field among => ?_⟩
      · cases there
      · obtain rfl : ⟨1, ofMembers members⟩ = inner := Option.some.inj there
        rw [ofMembers_eq_map] at among
        obtain ⟨member, old, rfl⟩ := List.mem_map.mp among
        exact ih member old (parts member old)

/-! ## The nesting of notations -/

/-- A union is written one level deeper than its deepest arm. -/
theorem depth_shapeOfArms {arms : List Shape} {shape : Shape} {limit : Nat}
    (each : ∀ arm ∈ arms, arm.toJson.depth ≤ limit) (made : shapeOfArms arms = some shape) :
    shape.toJson.depth ≤ limit + 1 := by
  match arms with
  | [only] =>
    cases made
    exact Nat.le_succ_of_le (each _ List.mem_cons_self)
  | first :: second :: rest =>
    cases made
    rw [Shape.toJson, Json.depth, Shape.alternativesToJson_eq_map]
    refine Nat.succ_le_succ (Json.itemsDepth_le_iff.mpr fun item among => ?_)
    obtain ⟨arm, there, rfl⟩ := List.mem_map.mp among
    exact each arm there

/-- Lowered evidence is written at most twice as deep as it is nested, and once more. -/
theorem Shallow.depth_toJson {depth : Nat} {evidence : Evidence} (shallow : Shallow depth evidence)
    {optional : Bool} {shape : Shape} (lowered : evidence.shape? optional = some shape) :
    shape.toJson.depth ≤ 2 * depth + 1 := by
  -- An arm is one level deeper than the shapes inside it, and the union of the arms one more.
  induction depth generalizing evidence optional shape with
  | zero =>
    obtain ⟨items, objects⟩ := shallow
    rw [shape?_eq_shapeOfArms] at lowered
    refine depth_shapeOfArms (fun arm among => ?_) lowered
    rcases mem_arms.mp among with ⟨_, rfl⟩ | ⟨_, rfl⟩ | ⟨_, rfl⟩ | ⟨inner, here, rfl⟩ |
      ⟨inner, here, rfl⟩ | ⟨_, rfl⟩
    · exact Nat.le_refl 0
    · exact Nat.le_refl 0
    · exact Nat.le_refl 0
    · cases objects.symm.trans here
    · cases items.symm.trans here
    · exact Nat.le_refl 0
  | succ depth ih =>
    obtain ⟨items, fields⟩ := shallow
    rw [shape?_eq_shapeOfArms] at lowered
    refine depth_shapeOfArms (fun arm among => ?_) lowered
    rcases mem_arms.mp among with ⟨_, rfl⟩ | ⟨_, rfl⟩ | ⟨_, rfl⟩ | ⟨inner, here, rfl⟩ |
      ⟨inner, here, rfl⟩ | ⟨_, rfl⟩
    · exact Nat.zero_le _
    · exact Nat.zero_le _
    · exact Nat.zero_le _
    · rw [Shape.toJson, Json.depth, Shape.fieldsToJson_eq_map, fieldShapes_eq_map]
      refine Nat.succ_le_succ (Json.membersDepth_le_iff.mpr fun member among => ?_)
      simp only [List.mem_map] at among
      obtain ⟨_, ⟨part, old, rfl⟩, rfl⟩ := among
      rw [fieldShape]
      cases found : part.2.evidence.shape? (part.2.count < inner.seen) with
      | none => exact Nat.zero_le _
      | some shape => exact ih (fields inner here part old) found
    · rw [arrayShape]
      cases found : inner.shape? false with
      | none =>
        rw [Shape.toJson, Json.depth, Json.itemsDepth]
        omega
      | some element =>
        rw [Shape.toJson, Json.depth, Json.itemsDepth, Json.itemsDepth, Nat.max_zero]
        exact Nat.succ_le_succ (ih (items inner here) found)
    · exact Nat.zero_le _

end Evidence

/-! ## Samples -/

variable {samples : List Json}

/-- Samples, of which there is one at least, give a shape. It is well formed and written at most
twice as deep as they are nested, and once more. -/
theorem Shape.infer?_spec (nonempty : samples ≠ [])
    (distinct : ∀ sample ∈ samples, sample.Distinct) :
    ∃ shape, Shape.infer? samples = some shape ∧ shape.WellFormed ∧
      ∀ depth, (∀ sample ∈ samples, sample.depth ≤ depth) → shape.toJson.depth ≤ 2 * depth + 1 := by
  have joined := Inference.evidence_observeAll Inference.start samples
  have named : (Inference.start.observeAll samples).evidence.Named := by
    rw [joined]
    exact Evidence.Named.joinAll Evidence.Everywhere.empty
      fun sample among => Evidence.named_ofJson (distinct sample among)
  have seen : (Inference.start.observeAll samples).evidence.isBottom = false := by
    rw [joined, Evidence.isBottom_joinAll, List.isEmpty_eq_false_iff.mpr nonempty, Bool.and_false]
  obtain ⟨shape, lowered⟩ : ∃ shape, Shape.infer? samples = some shape := by
    refine Option.ne_none_iff_exists'.mp fun none => ?_
    rw [(Evidence.toShape?_eq_none_iff _).mp none] at seen
    cases seen
  refine ⟨shape, lowered, named.wellFormed lowered, fun depth le => ?_⟩
  have shallow : Evidence.Shallow depth (Inference.start.observeAll samples).evidence := by
    rw [joined]
    exact (Evidence.shallow_of_none rfl rfl depth).joinAll
      fun sample among => Evidence.shallow_ofJson (le sample among)
  exact shallow.depth_toJson lowered

/-- The shape of samples with fewer objects than words accepts each of them. -/
theorem Shape.infer?_validates {shape : Shape} (inferred : Shape.infer? samples = some shape)
    (distinct : ∀ sample ∈ samples, sample.Distinct)
    (few : Json.itemsObjectCount samples < 2 ^ 64) :
    ∀ sample ∈ samples, shape.validate sample = [] := by
  have each : ∀ sample ∈ samples,
      sample.Countable ∧ Evidence.Within sample.objectCount (.ofJson sample) :=
    fun sample among => Evidence.countable_of_objectCount
      (Nat.lt_of_le_of_lt (Json.objectCount_le_items among) few)
  have nothing : Evidence.Within 0 .empty := Evidence.Everywhere.empty
  have fits := (nothing.joinAll (fun sample among => (each sample among).2)
    (by rwa [Nat.zero_add])).1
  intro sample among
  obtain ⟨other, found, valid⟩ := (Inference.covers_observeAll distinct
    (fun sample among => (each sample among).1) fits sample among).validates
  obtain rfl : shape = other := Option.some.inj (inferred.symm.trans found)
  exact valid

/-! ## How deep a notation can get -/

namespace Evidence

/-- Evidence of arrays alone has the shape of arrays of their elements. -/
theorem shape?_arrays (elements : Evidence) :
    shape? false { empty with items := some elements } = some (arrayShape elements) := by
  rw [shape?_eq_shapeOfArms]
  simp [arms, empty, arm, objectArm, arrayArm_some, shapeOfArms]

/-- With null seen as well, it has the shape of null or such arrays. -/
theorem shape?_arrays_or_null (elements : Evidence) :
    shape? false { empty with nullable := true, items := some elements } =
      some (.union [arrayShape elements, .null]) := by
  rw [shape?_eq_shapeOfArms]
  simp [arms, empty, arm, objectArm, arrayArm_some, shapeOfArms]

/-- The elements of an array of null and a further array are either. -/
theorem arrayShape_null_array (items : List Json) :
    arrayShape (joinAll empty [.null, .array items]) =
      .array (.union [arrayShape (joinAll empty items), .null]) := by
  have both : joinAll empty [.null, .array items] =
      { empty with nullable := true, items := some (joinAll empty items) } := rfl
  rw [both, arrayShape, shape?_arrays_or_null]

end Evidence

/-- An array of null and a further such array, a number of times; the innermost holds null and a
truth value. -/
def Json.nestedPairs : Nat → Json
  | 0 => .array [.null, .bool true]
  | more + 1 => .array [.null, nestedPairs more]

/-- The shape of these arrays. -/
def Shape.nestedPairs : Nat → Shape
  | 0 => .array (.union [.boolean, .null])
  | more + 1 => .array (.union [nestedPairs more, .null])

/-- Nested pairs have no objects, so they repeat no names. -/
theorem Json.distinct_nestedPairs (more : Nat) : (nestedPairs more).Distinct := by
  induction more with
  | zero => simp [nestedPairs, Distinct, DistinctItems]
  | succ more ih => simp [nestedPairs, Distinct, DistinctItems, ih]

/-- Nested pairs hold no numbers, so all in them reads back. -/
theorem Json.readsBack_nestedPairs (more : Nat) :
    (nestedPairs more).EachScalar Scalar.ReadsBack := by
  induction more with
  | zero => simp [nestedPairs, Scalar.ReadsBack]
  | succ more ih => simp [nestedPairs, Scalar.ReadsBack, ih]

/-- Nested pairs are one level deeper than they are extended. -/
theorem Json.depth_nestedPairs (more : Nat) : (nestedPairs more).depth = more + 1 := by
  induction more with
  | zero => rfl
  | succ more ih => simp [nestedPairs, depth, itemsDepth, ih]

/-- The unions in the shape of nested pairs have two alternatives each. -/
theorem Shape.wellFormed_nestedPairs (more : Nat) : (nestedPairs more).WellFormed := by
  induction more with
  | zero => simp [nestedPairs, WellFormed, WellFormedAlternatives]
  | succ more ih => simp [nestedPairs, WellFormed, WellFormedAlternatives, ih]

/-- The notation of these arrays is nested twice as deep as they are. -/
theorem Shape.depth_nestedPairs (more : Nat) : (nestedPairs more).toJson.depth = 2 * more + 2 := by
  induction more with
  | zero => rfl
  | succ more ih =>
    simp [nestedPairs, toJson, alternativesToJson, Json.depth, Json.itemsDepth, ih]
    omega

/-- These arrays have that shape. -/
theorem Shape.infer?_nestedPairs (more : Nat) :
    Shape.infer? [Json.nestedPairs more] = some (nestedPairs more) := by
  have array : ∃ items, Json.nestedPairs more = .array items ∧
      Evidence.arrayShape (.joinAll .empty items) = nestedPairs more := by
    induction more with
    | zero => exact ⟨_, rfl, rfl⟩
    | succ more ih =>
      obtain ⟨items, same, inner⟩ := ih
      refine ⟨_, rfl, ?_⟩
      rw [same, Evidence.arrayShape_null_array, inner]
      rfl
  obtain ⟨items, same, inner⟩ := array
  show (Evidence.empty.join (.ofJson (Json.nestedPairs more))).shape? false = _
  rw [Evidence.empty_join, same, ← inner]
  exact Evidence.shape?_arrays _

end JsonShape
