import JsonShape.Proofs.Inside
import JsonShape.Proofs.Lowering

/-!
# The normal form of inferred shapes

Evidence has at most one arm for each sort of values, and the arms come in a fixed order of the
sorts. So the unions of a lowered shape are in a normal form at every depth, whatever the counts of
the evidence are: no alternative is a union, no sort is repeated, and a slot, being of one sort
itself, passes one alternative at most.
-/
namespace JsonShape

/-! ## Sorts -/

/-- The sorts of values that evidence tells apart. -/
inductive ValueSort where
  /-- Strings. -/
  | string
  /-- Numbers. -/
  | number
  /-- Truth values. -/
  | boolean
  /-- Objects. -/
  | object
  /-- Arrays. -/
  | array
  /-- Null; the absence of a value counts as null. -/
  | null
deriving DecidableEq

namespace ValueSort

/-- The place of a sort in their order. -/
def rank : ValueSort → Nat
  | .string => 0
  | .number => 1
  | .boolean => 2
  | .object => 3
  | .array => 4
  | .null => 5

/-- All sorts in their order. -/
def all : List ValueSort := [.string, .number, .boolean, .object, .array, .null]

/-- All sorts are listed in the order of their ranks. -/
theorem pairwise_all : all.Pairwise fun first second => first.rank < second.rank := by
  decide

/-- The sort of a slot. -/
def ofSlot : Slot → ValueSort
  | none => .null
  | some .null => .null
  | some (.bool _) => .boolean
  | some (.number _) => .number
  | some (.string _) => .string
  | some (.array _) => .array
  | some (.object _) => .object

end ValueSort

namespace Shape

/-- The one sort of the slots that a shape accepts. A union has none of its own, nor have the kinds
that describe several sorts or only absence. -/
def sort? : Shape → Option ValueSort
  | .ofKind .string => some .string
  | .ofKind .number => some .number
  | .ofKind .boolean => some .boolean
  | .ofKind .object => none
  | .ofKind .undefined => none
  | .object _ => some .object
  | .anyArray => some .array
  | .array _ => some .array
  | .null => some .null
  | .union _ => none

/-- Both shapes have a sort, and the first has the earlier one. -/
def SortedBefore (left right : Shape) : Prop :=
  ∃ first second, left.sort? = some first ∧ right.sort? = some second ∧ first.rank < second.rank

/-- What conforms to a shape with a sort is of that sort. -/
theorem sort_of_conforms {shape : Shape} {slot : Slot} {sort : ValueSort}
    (conforms : Conforms shape slot) (sorted : shape.sort? = some sort) :
    ValueSort.ofSlot slot = sort := by
  cases conforms with
  | ofKind described =>
    cases described with
    | string value => exact Option.some.inj sorted
    | number value => exact Option.some.inj sorted
    | boolean value => exact Option.some.inj sorted
    | null => cases sorted
    | array items => cases sorted
    | object members => cases sorted
    | absent => cases sorted
  | absent => exact Option.some.inj sorted
  | null => exact Option.some.inj sorted
  | object each => exact Option.some.inj sorted
  | anyArray items => exact Option.some.inj sorted
  | array each => exact Option.some.inj sorted
  | union among inside => cases sorted

/-- Of alternatives in the order of their sorts, a slot passes one at most. -/
theorem passing_le_one {alternatives : List Shape} (ascending : alternatives.Pairwise SortedBefore)
    (slot : Slot) :
    (alternatives.filter fun alternative => (alternative.check slot).isEmpty).length ≤ 1 := by
  have apart := ascending.filter fun alternative => (alternative.check slot).isEmpty
  have passes {alternative : Shape} (among : alternative ∈ alternatives.filter fun alternative =>
      (alternative.check slot).isEmpty) : Conforms alternative slot :=
    conforms_of_check (List.isEmpty_iff.mp (List.mem_filter.mp among).2)
  match passing : alternatives.filter fun alternative => (alternative.check slot).isEmpty with
  | [] =>
    rw [passing]
    exact Nat.zero_le 1
  | [only] =>
    rw [passing]
    exact Nat.le_refl 1
  | first :: second :: rest =>
    rw [passing] at apart passes
    obtain ⟨earlier, later, sorted, alsoSorted, before⟩ :=
      List.rel_of_pairwise_cons apart List.mem_cons_self
    have same : earlier = later :=
      (sort_of_conforms (passes List.mem_cons_self) sorted).symm.trans
        (sort_of_conforms (passes (List.mem_cons_of_mem _ List.mem_cons_self)) alsoSorted)
    rw [same] at before
    exact absurd before (Nat.lt_irrefl _)

/-! ## Normal shapes -/

/-- The alternatives of a union in normal form. -/
structure NormalUnion (alternatives : List Shape) : Prop where
  /-- There are two or more. -/
  several : 2 ≤ alternatives.length
  /-- They are in the order of their sorts, of which none occurs twice. -/
  ascending : alternatives.Pairwise SortedBefore
  /-- None is itself a union. -/
  notUnion : ∀ alternative ∈ alternatives, ¬ alternative.IsUnion

/-- A shape that is in normal form if it is a union, and asks for a string, a number or a truth
value if it asks for a kind. Its parts do not matter. -/
def NormalHere : Shape → Prop
  | .union alternatives => NormalUnion alternatives
  | .ofKind kind => kind ≠ .object ∧ kind ≠ .undefined
  | _ => True

/-- In normal form at every depth. -/
def Normal (shape : Shape) : Prop :=
  ∀ inner : Shape, inner.Inside shape → inner.NormalHere

end Shape

namespace Evidence

open Shape

/-! ## Arms in the order of their sorts -/

/-- The arm of a sort, if a value of the sort occurred. -/
def armOf (optional : Bool) (evidence : Evidence) : ValueSort → List Shape
  | .string => arm evidence.string .string
  | .number => arm evidence.number .number
  | .boolean => arm evidence.bool .boolean
  | .object => objectArm evidence.objects
  | .array => arrayArm evidence.items
  | .null => arm (evidence.nullable || optional) .null

/-- The arms of evidence are those of its sorts, in their order. -/
theorem arms_eq_flatMap (optional : Bool) (evidence : Evidence) :
    evidence.arms optional = ValueSort.all.flatMap (evidence.armOf optional) := by
  simp [arms, ValueSort.all, armOf]

/-- Evidence has at most one arm of a sort, and that arm has the sort. -/
theorem armOf_cases (optional : Bool) (evidence : Evidence) (sort : ValueSort) :
    evidence.armOf optional sort = [] ∨
      ∃ shape, evidence.armOf optional sort = [shape] ∧ shape.sort? = some sort := by
  have flag (present : Bool) {shape : Shape} (sorted : shape.sort? = some sort) :
      arm present shape = [] ∨ ∃ other, arm present shape = [other] ∧ other.sort? = some sort := by
    cases present with
    | false => exact .inl rfl
    | true => exact .inr ⟨shape, rfl, sorted⟩
  cases sort with
  | string => exact flag _ rfl
  | number => exact flag _ rfl
  | boolean => exact flag _ rfl
  | object =>
    rw [armOf]
    cases evidence.objects with
    | none => exact .inl rfl
    | some objects => exact .inr ⟨_, rfl, rfl⟩
  | array =>
    rw [armOf]
    cases evidence.items with
    | none => exact .inl rfl
    | some items =>
      refine .inr ⟨_, arrayArm_some items, ?_⟩
      rw [arrayShape]
      cases items.shape? false <;> rfl
  | null => exact flag _ rfl

/-- The arm of a sort has the sort. -/
theorem sort_of_mem_armOf {optional : Bool} {evidence : Evidence} {sort : ValueSort}
    {shape : Shape} (among : shape ∈ evidence.armOf optional sort) : shape.sort? = some sort := by
  rcases armOf_cases optional evidence sort with none | ⟨only, one, sorted⟩
  · rw [none] at among
    cases among
  · rw [one, List.mem_singleton] at among
    exact among ▸ sorted

/-- Arms come in the order of their sorts, so no two have the same. -/
theorem ascending_arms (optional : Bool) (evidence : Evidence) :
    (evidence.arms optional).Pairwise SortedBefore := by
  rw [arms_eq_flatMap, List.pairwise_flatMap]
  constructor
  · intro sort _
    rcases armOf_cases optional evidence sort with none | ⟨only, one, _⟩
    · rw [none]
      exact .nil
    · rw [one]
      exact List.pairwise_singleton _ _
  · refine ValueSort.pairwise_all.imp fun before left among right also => ?_
    exact ⟨_, _, sort_of_mem_armOf among, sort_of_mem_armOf also, before⟩

/-- No arm is a union. -/
theorem not_isUnion_of_mem_arms {optional : Bool} {evidence : Evidence} {shape : Shape}
    (among : shape ∈ evidence.arms optional) : ¬ shape.IsUnion := by
  rw [arms_eq_flatMap] at among
  obtain ⟨sort, _, here⟩ := List.mem_flatMap.mp among
  rintro ⟨alternatives, rfl⟩
  cases sort_of_mem_armOf here

/-! ## Lowered evidence is normal -/

/-- The shape of the arms is normal when each arm is. -/
theorem normal_shapeOfArms {optional : Bool} {evidence : Evidence} {shape : Shape}
    (each : ∀ arm ∈ evidence.arms optional, arm.Normal)
    (made : shapeOfArms (evidence.arms optional) = some shape) : shape.Normal := by
  have ascending := ascending_arms optional evidence
  have notUnion : ∀ arm ∈ evidence.arms optional, ¬ arm.IsUnion :=
    fun _ among => not_isUnion_of_mem_arms among
  match found : evidence.arms optional with
  | [] =>
    rw [found] at made
    cases made
  | [only] =>
    rw [found] at made each
    cases made
    exact each shape List.mem_cons_self
  | first :: second :: rest =>
    rw [found] at made each ascending notUnion
    cases made
    exact forall_inside_union_iff.mpr
      ⟨⟨Nat.le_add_left 2 rest.length, ascending, notUnion⟩, each⟩

/-- Whatever evidence is lowered to is in normal form. -/
theorem normal_shape? (evidence : Evidence) {optional : Bool} {shape : Shape}
    (lowered : evidence.shape? optional = some shape) : shape.Normal := by
  induction evidence using Evidence.induction generalizing optional shape with
  | intro evidence elements fields =>
    rw [shape?_eq_shapeOfArms] at lowered
    refine normal_shapeOfArms (fun arm among => ?_) lowered
    have leaf {shape : Shape} (here : shape.NormalHere) (alone : ∀ inner : Shape,
        inner.Inside shape → inner = shape) : shape.Normal :=
      fun inner inside => alone inner inside ▸ here
    have null : Shape.null.Normal := leaf trivial (by rintro _ ⟨⟩; rfl)
    have anyArray : Shape.anyArray.Normal := leaf trivial (by rintro _ ⟨⟩; rfl)
    rcases mem_arms.mp among with ⟨_, rfl⟩ | ⟨_, rfl⟩ | ⟨_, rfl⟩ | ⟨objects, held, rfl⟩ |
      ⟨items, held, rfl⟩ | ⟨_, rfl⟩
    · exact leaf (by simp [NormalHere]) (by rintro _ ⟨⟩; rfl)
    · exact leaf (by simp [NormalHere]) (by rintro _ ⟨⟩; rfl)
    · exact leaf (by simp [NormalHere]) (by rintro _ ⟨⟩; rfl)
    · refine forall_inside_object_iff.mpr ⟨trivial, ?_⟩
      rw [fieldShapes_eq_map, List.forall_mem_map]
      intro field there
      rw [fieldShape]
      cases found : field.2.evidence.shape? (field.2.count < objects.seen) with
      | none => exact null
      | some shape => exact fields objects held field there found
    · rw [arrayShape]
      cases found : items.shape? false with
      | none => exact anyArray
      | some element => exact forall_inside_array_iff.mpr ⟨trivial, elements items held found⟩
    · exact null

/-- Evidence of anything is lowered to a shape in which, at every depth, a union has two
alternatives or more, none of them a union, in the order of their sorts without a repetition, so
that a slot passes one of them at most; and no kind but those of strings, numbers and truth values
occurs. -/
theorem toShape?_unambiguous (evidence : Evidence) (seen : evidence.isBottom = false) :
    ∃ shape, evidence.toShape? = some shape ∧
      (∀ alternatives, (Shape.union alternatives).Inside shape →
        2 ≤ alternatives.length ∧ alternatives.Pairwise SortedBefore ∧
        (∀ alternative ∈ alternatives, ¬ alternative.IsUnion) ∧
        ∀ slot, (alternatives.filter fun alternative =>
          (alternative.check slot).isEmpty).length ≤ 1) ∧
      ∀ kind, (Shape.ofKind kind).Inside shape → kind ≠ .object ∧ kind ≠ .undefined := by
  cases lowered : evidence.toShape? with
  | none =>
    rw [(toShape?_eq_none_iff evidence).mp lowered] at seen
    cases seen
  | some shape =>
    have normal := normal_shape? evidence lowered
    refine ⟨shape, rfl, fun alternatives inside => ?_, fun kind inside => normal _ inside⟩
    have union : NormalUnion alternatives := normal _ inside
    exact ⟨union.several, union.ascending, union.notUnion, passing_le_one union.ascending⟩

/-- Strings and objects were seen; of two objects one lacked the field of arrays, the elements of
which were numbers and null. A string, an object without the field and a missing field pass one
alternative each. -/
theorem toShape?_unambiguous_nested :
    let elements : Evidence := { empty with number := true, nullable := true }
    let arrays : Evidence := { empty with items := some elements }
    let evidence : Evidence :=
      { empty with string := true, objects := some ⟨2, [("tags", ⟨1, arrays⟩)]⟩ }
    let tags : List Shape := [.array (.either .number .null), .null]
    let alternatives : List Shape := [.string, .object [("tags", .union tags)]]
    evidence.isBottom = false ∧ evidence.toShape? = some (.union alternatives) ∧
      (∀ slot, (alternatives.filter fun alternative =>
        (alternative.check slot).isEmpty).length ≤ 1) ∧
      (∀ slot, (tags.filter fun alternative => (alternative.check slot).isEmpty).length ≤ 1) ∧
      (alternatives.filter fun alternative =>
        (alternative.check (some (.object []))).isEmpty).length = 1 := by
  intro elements arrays evidence tags alternatives
  have seen : evidence.isBottom = false := rfl
  have lowered : evidence.toShape? = some (.union alternatives) := rfl
  obtain ⟨shape, found, unions, _⟩ := toShape?_unambiguous evidence seen
  obtain rfl : .union alternatives = shape := Option.some.inj (lowered.symm.trans found)
  have inner : (Shape.union tags).Inside (.union alternatives) :=
    .alternative (List.mem_cons_of_mem _ List.mem_cons_self) (.field List.mem_cons_self .self)
  obtain ⟨_, _, _, outerPassing⟩ := unions alternatives .self
  obtain ⟨_, _, _, innerPassing⟩ := unions tags inner
  exact ⟨seen, lowered, outerPassing, innerPassing, rfl⟩

end Evidence

end JsonShape
