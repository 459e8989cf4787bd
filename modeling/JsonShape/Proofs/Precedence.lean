import JsonShape.Proofs.Positions
import JsonShape.Proofs.Undeclared

/-!
# The order of failures

Paths into the slots of a shape have a lexicographic order: names stand as the object shape reached
so far declares them, and indices as numbers. The check lists its failures strictly in this order,
and no path continues another one. The order in which a value has its members does not matter.
-/
namespace JsonShape

namespace Shape

/-- The lexicographic order of the paths into a slot of a shape. -/
inductive Precedes : Shape → Path → Path → Prop where
  /-- A path comes before those that continue it. -/
  | shorter {shape : Shape} {segment : Segment} {path : Path} : Precedes shape [] (segment :: path)
  /-- Into different fields: the one declared earlier comes first. -/
  | field {fields : List (String × Shape)} {first second : String} {path other : Path} :
      (Fields.names fields).idxOf first < (Fields.names fields).idxOf second →
      Precedes (.object fields) (.field first :: path) (.field second :: other)
  /-- Into one field: as its shape has it. -/
  | inField {fields : List (String × Shape)} {name : String} {shape : Shape} {path other : Path} :
      Fields.get? name fields = some shape → Precedes shape path other →
      Precedes (.object fields) (.field name :: path) (.field name :: other)
  /-- Into different elements: the one of the smaller index comes first. -/
  | index {element : Shape} {first second : Nat} {path other : Path} : first < second →
      Precedes (.array element) (.index first :: path) (.index second :: other)
  /-- Into one element: as its shape has it. -/
  | inElement {element : Shape} {position : Nat} {path other : Path} :
      Precedes element path other →
      Precedes (.array element) (.index position :: path) (.index position :: other)

/-- No path comes before itself. -/
theorem precedes_irrefl (shape : Shape) (path : Path) : ¬ shape.Precedes path path := by
  intro precedes
  induction path generalizing shape with
  | nil => cases precedes
  | cons segment rest ih =>
    cases precedes with
    | field earlier => exact Nat.lt_irrefl _ earlier
    | inField _ precedes => exact ih _ precedes
    | index smaller => exact Nat.lt_irrefl _ smaller
    | inElement precedes => exact ih _ precedes

/-- What comes before an earlier path comes before a later one. -/
theorem precedes_trans {shape : Shape} {first second third : Path}
    (before : shape.Precedes first second) (after : shape.Precedes second third) :
    shape.Precedes first third := by
  induction before generalizing third with
  | shorter => cases after <;> exact .shorter
  | field earlier =>
    cases after with
    | field later => exact .field (Nat.lt_trans earlier later)
    | inField _ _ => exact .field earlier
  | inField declared _ ih =>
    cases after with
    | field later => exact .field later
    | inField again after =>
      obtain rfl := Option.some.inj (declared.symm.trans again)
      exact .inField declared (ih after)
  | index smaller =>
    cases after with
    | index larger => exact .index (Nat.lt_trans smaller larger)
    | inElement _ => exact .index smaller
  | inElement _ ih =>
    cases after with
    | index larger => exact .index larger
    | inElement after => exact .inElement (ih after)

/-- The paths into a slot come in a strict order. -/
instance (shape : Shape) : IsStrictOrder Path shape.Precedes where
  irrefl := shape.precedes_irrefl
  trans _ _ _ := precedes_trans

/-- Paths that part ways: one comes before the other and neither continues the other. -/
structure PartWays (shape : Shape) (path other : Path) : Prop where
  /-- The first comes before the second. -/
  precedes : shape.Precedes path other
  /-- The second does not continue the first. -/
  not_continued : ¬ path <+: other
  /-- The first does not continue the second. -/
  not_continuing : ¬ other <+: path

/-- Paths part ways at their first segments when every path behind the one comes before every path
behind the other. -/
theorem partWays_of_segments {shape : Shape} {first second : Segment}
    (earlier : ∀ path other, shape.Precedes (first :: path) (second :: other))
    (path other : Path) : shape.PartWays (first :: path) (second :: other) := by
  have differ : first ≠ second := by
    rintro rfl
    exact shape.precedes_irrefl _ (earlier [] [])
  exact ⟨earlier path other, fun begins => differ (List.cons_prefix_cons.mp begins).1,
    fun begins => differ (List.cons_prefix_cons.mp begins).1.symm⟩

/-- Paths that part ways further inside do so behind a segment that leads there. -/
theorem PartWays.behind {shape inner : Shape} {segment : Segment} {path other : Path}
    (apart : inner.PartWays path other)
    (leads : inner.Precedes path other → shape.Precedes (segment :: path) (segment :: other)) :
    shape.PartWays (segment :: path) (segment :: other) :=
  ⟨leads apart.precedes, fun begins => apart.not_continued (List.cons_prefix_cons.mp begins).2,
    fun begins => apart.not_continuing (List.cons_prefix_cons.mp begins).2⟩

end Shape

/-- Fields of different names stand in the order of their names' positions. -/
theorem Fields.pairwise_idxOf {α : Type} {fields : List (String × α)} (distinct : Distinct fields) :
    fields.Pairwise fun field later =>
      (names fields).idxOf field.1 < (names fields).idxOf later.1 := by
  have place (position : Nat) (inside : position < fields.length) :
      (names fields).idxOf fields[position].1 = position := by
    have named : position < (names fields).length := by simpa [names] using inside
    have same : fields[position].1 = (names fields)[position] := by simp [names]
    rw [same, List.Nodup.idxOf_getElem distinct]
  rw [List.pairwise_iff_getElem]
  intro first second firstInside secondInside smaller
  rw [place first firstInside, place second secondInside]
  exact smaller

/-! ## The check keeps the order -/

namespace Position

variable {shape : Shape} {slot : Slot}

/-- The order of paths into a part is that of the paths through its segment. -/
theorem precedes_of_part (distinct : shape.Distinct) {part : Segment × Position}
    (among : part ∈ parts shape slot) {path other : Path}
    (inside : part.2.shape.Precedes path other) :
    shape.Precedes (part.1 :: path) (part.1 :: other) := by
  unfold parts at among
  split at among
  · obtain ⟨field, declared, rfl⟩ := List.mem_map.mp among
    cases distinct with
    | object names _ => exact .inField (Fields.get?_of_mem names declared) inside
  · obtain ⟨found, _, rfl⟩ := List.mem_map.mp among
    exact .inElement inside
  · cases among

/-- All paths into a part come before those into a later part. -/
theorem parts_precede (distinct : shape.Distinct) (slot : Slot) :
    (parts shape slot).Pairwise fun part later =>
      ∀ path other, shape.Precedes (part.1 :: path) (later.1 :: other) := by
  unfold parts
  split
  · rw [List.pairwise_map]
    cases distinct with
    | object names _ =>
      exact (Fields.pairwise_idxOf names).imp fun earlier _ _ => .field earlier
  · rename_i element items
    rw [List.pairwise_map]
    have positions : (items.zipIdx.map Prod.snd).Pairwise (· < ·) := by
      rw [List.zipIdx_map_snd]
      exact List.pairwise_lt_range'
    exact (List.pairwise_map.mp positions).imp fun smaller _ _ => .index smaller
  · exact .nil

/-- Failures of a root part ways once those of each of its parts do. -/
theorem partWays_step (distinct : shape.Distinct)
    (each : ∀ part ∈ parts shape slot, (part.2.shape.check part.2.slot).Pairwise
      fun failure later => part.2.shape.PartWays failure.path later.path) :
    (shape.check slot).Pairwise fun failure later =>
      shape.PartWays failure.path later.path := by
  by_cases fails : Fails ⟨[], slot, shape⟩
  · rw [check_of_fails fails]
    exact List.pairwise_singleton _ _
  · rw [check_of_not_fails fails, List.pairwise_flatMap]
    -- Two failures are in one part, or in two of which the earlier comes first.
    constructor
    · intro part among
      rw [List.pairwise_map]
      exact (each part among).imp fun apart => apart.behind (precedes_of_part distinct among)
    · refine (parts_precede distinct slot).imp fun earlier => ?_
      intro failure inside other further
      obtain ⟨inner, _, rfl⟩ := List.mem_map.mp inside
      obtain ⟨outer, _, rfl⟩ := List.mem_map.mp further
      exact Shape.partWays_of_segments earlier inner.path outer.path

/-- The shapes due of the parts of a slot declare no field twice when the shape declares none. -/
theorem distinct_of_part (distinct : shape.Distinct) {part : Segment × Position}
    (among : part ∈ parts shape slot) : part.2.shape.Distinct := by
  rcases shape_of_part among with ⟨fields, rfl, field, declared, same⟩ | same
  · rw [same]
    cases distinct with
    | object _ each => exact each field declared
  · rw [same] at distinct
    cases distinct with
    | array distinct => exact distinct

/-- The failures of a check part ways, each with all later ones. -/
theorem partWays_check (distinct : shape.Distinct) (slot : Slot) :
    (shape.check slot).Pairwise fun failure later =>
      shape.PartWays failure.path later.path := by
  induction shape, slot using induction_parts with
  | step shape slot ih =>
    exact partWays_step distinct fun part among => ih part among (distinct_of_part distinct among)

end Position

/-! ## The order of members -/

namespace Json

variable {names : List String}

/-- A deleted name is found in no member that is left. -/
theorem get?_keepingMembers_of_not_mem {name : String} (deleted : name ∉ names)
    (members : List (String × Json)) : Fields.get? name (keepingMembers names members) = none := by
  induction members with
  | nil => rfl
  | cons member rest ih =>
    obtain ⟨key, value⟩ := member
    rw [keepingMembers]
    split
    · rename_i kept
      have differ : key ≠ name := fun same => deleted (same ▸ kept)
      simp [Fields.get?, differ, ih]
    · exact ih

/-- Equal values stay equal when members are deleted from both. -/
theorem same_keeping {left right : Json} (distinct : left.Distinct)
    (otherDistinct : right.Distinct) (same : left.same right) :
    (left.keeping names).same (right.keeping names) := by
  induction left generalizing right with
  | scalar value =>
    cases right with
    | scalar other => exact same
    | array others => cases same
    | object others => cases same
  | array items ih =>
    cases right with
    | scalar other => cases same
    | object others => cases same
    | array others =>
      rw [distinct_array_iff] at distinct otherDistinct
      rw [same_array_iff, List.forall₂_iff_get] at same
      rw [keeping, keeping, same_array_iff, keepingItems_eq_map, keepingItems_eq_map,
        List.forall₂_map_left_iff, List.forall₂_map_right_iff, List.forall₂_iff_get]
      refine ⟨same.1, fun position before after => ?_⟩
      have among := List.get_mem items ⟨position, before⟩
      have otherAmong := List.get_mem others ⟨position, after⟩
      exact ih _ among (distinct _ among) (otherDistinct _ otherAmong)
        (same.2 position before after)
  | object members ih =>
    cases right with
    | scalar other => cases same
    | array others => cases same
    | object others =>
      obtain ⟨unique, each⟩ := distinct_object_iff.mp distinct
      obtain ⟨otherUnique, otherEach⟩ := distinct_object_iff.mp otherDistinct
      rw [same_object_iff unique otherUnique] at same
      rw [keeping, keeping, same_object_iff (distinct_keepingMembers unique)
        (distinct_keepingMembers otherUnique)]
      intro name
      by_cases kept : name ∈ names
      · rw [get?_keepingMembers kept, get?_keepingMembers kept]
        rcases optionRel_iff.mp (same name) with ⟨none, also⟩ | ⟨value, other, found, also, same⟩
        · rw [none, also]
          exact .none
        · rw [found, also]
          exact .some (ih _ (Fields.mem_of_get? found) (each _ (Fields.mem_of_get? found))
            (otherEach _ (Fields.mem_of_get? also)) same)
      · rw [get?_keepingMembers_of_not_mem kept, get?_keepingMembers_of_not_mem kept]
        exact .none

end Json

namespace Shape

/-- Equal values have failures at the same paths in the same order. -/
theorem paths_of_same (shape : Shape) {left right : Json} (distinct : left.Distinct)
    (otherDistinct : right.Distinct) (same : left.same right) :
    (shape.validate left).map AtPath.path = (shape.validate right).map AtPath.path := by
  -- Equal values agree on all declared names, so their failures differ in found texts alone.
  have kept : (left.keeping shape.declared).same (right.keeping shape.declared) :=
    Json.same_keeping distinct otherDistinct same
  have blanked : (shape.validate left).map Failure.blanked =
      (shape.validate right).map Failure.blanked :=
    blanked_check shape (List.Subset.refl _) (.some ⟨distinct, otherDistinct, kept⟩)
  have paths := congrArg (List.map AtPath.path) blanked
  rw [List.map_map, List.map_map] at paths
  exact paths

/-- The failures of a slot are listed strictly in the order of their paths, which is lexicographic
and takes the fields of each object as its shape declares them. No path is listed twice or continues
another, and values that differ in the order of their members alone have failures at the same
paths. -/
theorem check_paths_increase (shape : Shape) (distinct : shape.Distinct) :
    IsStrictOrder Path shape.Precedes ∧
    (∀ slot,
      ((shape.check slot).map AtPath.path).Pairwise shape.Precedes ∧
      ((shape.check slot).map AtPath.path).Nodup ∧
      ((shape.check slot).map AtPath.path).Pairwise fun path other =>
        ¬ path <+: other ∧ ¬ other <+: path) ∧
    ∀ value other : Json, value.Distinct → other.Distinct → value.same other →
      (shape.validate value).map AtPath.path = (shape.validate other).map AtPath.path := by
  refine ⟨inferInstance, fun slot => ?_, fun value other => paths_of_same shape⟩
  have apart : ((shape.check slot).map AtPath.path).Pairwise shape.PartWays :=
    List.pairwise_map.mpr (Position.partWays_check distinct slot)
  have ordered : ((shape.check slot).map AtPath.path).Pairwise shape.Precedes :=
    apart.imp PartWays.precedes
  exact ⟨ordered, ordered.nodup, apart.imp fun both => ⟨both.not_continued, both.not_continuing⟩⟩

/-- Fields that are not declared in alphabetical order, with elements under one of them: the path of
a later element is listed before that of a field declared later, in whatever order the value has its
members. -/
theorem check_paths_increase_elements :
    let shape : Shape := .object [("tags", .array .string), ("id", .number)]
    let tags : Json := .array [.null, .string "a", .bool true]
    let value : Json := .object [("id", .null), ("tags", tags)]
    let other : Json := .object [("tags", tags), ("id", .null)]
    let paths : List Path := [[.field "tags", .index 0], [.field "tags", .index 2], [.field "id"]]
    shape.Distinct ∧ value.Distinct ∧ other.Distinct ∧ value.same other ∧
      (shape.validate value).map AtPath.path = paths ∧ paths.Pairwise shape.Precedes ∧
      (shape.validate other).map AtPath.path = paths := by
  intro shape tags value other paths
  have distinct : shape.Distinct := by
    apply WellFormed.distinct
    simp [shape, WellFormed, WellFormedFields, Fields.Distinct]
  have valueDistinct : value.Distinct := by
    simp [value, tags, Json.Distinct, Json.DistinctMembers, Json.DistinctItems, Fields.Distinct]
  have otherDistinct : other.Distinct := by
    simp [other, tags, Json.Distinct, Json.DistinctMembers, Json.DistinctItems, Fields.Distinct]
  have same : value.same other := by decide
  have listed : (shape.validate value).map AtPath.path = paths := rfl
  obtain ⟨_, ordered, unmoved⟩ := check_paths_increase shape distinct
  refine ⟨distinct, valueDistinct, otherDistinct, same, listed, ?_, ?_⟩
  · rw [← listed]
    exact (ordered (some value)).1
  · rw [← unmoved value other valueDistinct otherDistinct same, listed]

end Shape

end JsonShape
