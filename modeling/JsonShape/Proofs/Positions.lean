import JsonShape.Proofs.Conformance
import Mathlib.Data.List.Nodup
import Mathlib.Logic.Relation
import Mathlib.Tactic.Choose

/-!
# Failing positions

A position is a part of a checked slot with the shape that is due there. Positions are reached from
the root by steps down into declared fields and elements, so a path grows at its end, whereas the
check puts the segments of a path in front of what the parts report. Both give the same failures:
the check reports the positions that fail on the spot, each once and with its own path.
-/
namespace JsonShape

/-- A part of a slot at a path from the root, with the shape that is due there. -/
structure Position where
  /-- The path from the root. -/
  path : Path
  /-- The part. -/
  slot : Slot
  /-- The shape. -/
  shape : Shape

namespace Position

/-- One step down: from an object into a declared field, which may be absent, and from an array
into an element. -/
inductive Step : Position → Position → Prop where
  /-- Into a declared field. -/
  | field {path : Path} {members : List (String × Json)} {fields : List (String × Shape)}
      {field : String × Shape} : field ∈ fields →
      Step ⟨path, some (.object members), .object fields⟩
        ⟨path ++ [.field field.1], Fields.get? field.1 members, field.2⟩
  /-- Into an element. -/
  | element {path : Path} {items : List Json} {element : Shape} {index : Nat} {item : Json} :
      items[index]? = some item →
      Step ⟨path, some (.array items), .array element⟩
        ⟨path ++ [.index index], some item, element⟩

/-- The positions that steps lead to from the root. -/
def Reached (position : Position) (shape : Shape) (slot : Slot) : Prop :=
  Relation.ReflTransGen Step ⟨[], slot, shape⟩ position

/-- A position whose shape fails on the spot, whatever its parts are. -/
def Fails (position : Position) : Prop :=
  match position.shape with
  | .ofKind kind => ¬ kind.Describes position.slot
  | .null => position.slot ≠ none ∧ position.slot ≠ some .null
  | .object _ => ∀ members, position.slot ≠ some (.object members)
  | .anyArray => ∀ items, position.slot ≠ some (.array items)
  | .array _ => ∀ items, position.slot ≠ some (.array items)
  | .union alternatives => ∀ alternative ∈ alternatives, ¬ Conforms alternative position.slot

/-- What a failing position reports: what its shape asks for, with the slot as it is shown, and for
a union the failures of all alternatives in their order. -/
def mismatch (position : Position) : Mismatch :=
  match position.shape with
  | .ofKind kind => .notOfKind kind (Slot.render position.slot)
  | .null => .notNull (Slot.render position.slot)
  | .object _ => .notObject (Slot.render position.slot)
  | .anyArray => .notArray (Slot.render position.slot)
  | .array _ => .notArray (Slot.render position.slot)
  | .union alternatives => .noAlternative (alternatives.flatMap (·.check position.slot))

/-- The failure at a failing position. -/
def failure (position : Position) : Failure :=
  ⟨position.path, position.mismatch⟩

/-- The same position, seen from one segment further out. -/
def under (segment : Segment) (position : Position) : Position :=
  { position with path := segment :: position.path }

/-- Whether a position fails does not depend on its path. -/
@[simp] theorem fails_under (segment : Segment) (position : Position) :
    (position.under segment).Fails ↔ position.Fails := Iff.rfl

/-- A position seen from further out reports its failure seen from further out. -/
@[simp] theorem failure_under (segment : Segment) (position : Position) :
    (position.under segment).failure = position.failure.under segment := rfl

/-! ## Positions from the inside out -/

/-- A step is the same step further inside. -/
theorem Step.under {position next : Position} (segment : Segment) (step : Step position next) :
    Step (position.under segment) (next.under segment) := by
  cases step with
  | field among => exact .field among
  | element found => exact .element found

/-- A step further inside is a step seen from there. -/
theorem Step.of_under {segment : Segment} {position next : Position}
    (step : Step (position.under segment) next) :
    ∃ inner, next = inner.under segment ∧ Step position inner := by
  obtain ⟨path, slot, shape⟩ := position
  cases step with
  | field among => exact ⟨⟨path ++ [_], _, _⟩, rfl, .field among⟩
  | element found => exact ⟨⟨path ++ [_], _, _⟩, rfl, .element found⟩

/-- What is reached further inside is what is reached, seen from there. -/
theorem reached_under_iff {segment : Segment} {start position : Position} :
    Relation.ReflTransGen Step (start.under segment) position ↔
      ∃ inner, position = inner.under segment ∧ Relation.ReflTransGen Step start inner := by
  constructor
  · intro reached
    induction reached with
    | refl => exact ⟨start, rfl, .refl⟩
    | tail _ step ih =>
      obtain ⟨inner, rfl, before⟩ := ih
      obtain ⟨next, same, last⟩ := step.of_under
      exact ⟨next, same, before.tail last⟩
  · rintro ⟨inner, rfl, reached⟩
    induction reached with
    | refl => exact .refl
    | tail _ step ih => exact ih.tail (step.under segment)

/-- The parts that one step from the root leads into, each under its segment. -/
def parts : Shape → Slot → List (Segment × Position)
  | .object fields, some (.object members) =>
    fields.map fun field => (.field field.1, ⟨[], Fields.get? field.1 members, field.2⟩)
  | .array element, some (.array items) =>
    items.zipIdx.map fun (item, index) => (.index index, ⟨[], some item, element⟩)
  | _, _ => []

/-- A step from the root leads into one of its parts. -/
theorem step_root_iff {shape : Shape} {slot : Slot} {next : Position} :
    Step ⟨[], slot, shape⟩ next ↔ ∃ part ∈ parts shape slot, next = part.2.under part.1 := by
  constructor
  · intro step
    cases step with
    | field among => exact ⟨_, List.mem_map_of_mem among, rfl⟩
    | element found =>
      exact ⟨_, List.mem_map_of_mem (List.mk_mem_zipIdx_iff_getElem?.mpr found), rfl⟩
  · rintro ⟨part, among, rfl⟩
    unfold parts at among
    split at among
    · obtain ⟨field, declared, rfl⟩ := List.mem_map.mp among
      exact .field declared
    · obtain ⟨⟨item, index⟩, found, rfl⟩ := List.mem_map.mp among
      exact .element (List.mk_mem_zipIdx_iff_getElem?.mp found)
    · cases among

/-- A position is the root, or one inside a part of it. -/
theorem reached_iff {shape : Shape} {slot : Slot} {position : Position} :
    Relation.ReflTransGen Step ⟨[], slot, shape⟩ position ↔ position = ⟨[], slot, shape⟩ ∨
      ∃ part ∈ parts shape slot, ∃ inner, position = inner.under part.1 ∧
        Relation.ReflTransGen Step part.2 inner := by
  rw [Relation.ReflTransGen.cases_head_iff, eq_comm]
  refine or_congr Iff.rfl ⟨?_, ?_⟩
  · rintro ⟨next, step, reached⟩
    obtain ⟨part, among, rfl⟩ := step_root_iff.mp step
    exact ⟨part, among, reached_under_iff.mp reached⟩
  · rintro ⟨part, among, inside⟩
    exact ⟨_, step_root_iff.mpr ⟨part, among, rfl⟩, reached_under_iff.mpr inside⟩

/-- A position that fails on the spot has no parts: a shape with parts fails when the slot has
none of them. -/
theorem parts_of_fails {shape : Shape} {slot : Slot} (fails : Fails ⟨[], slot, shape⟩) :
    parts shape slot = [] := by
  unfold parts
  split
  · exact absurd rfl (fails _)
  · exact absurd rfl (fails _)
  · rfl

/-- The shape of a part is that of a declared field, or that of the elements. -/
theorem shape_of_part {shape : Shape} {slot : Slot} {part : Segment × Position}
    (among : part ∈ parts shape slot) :
    (∃ fields, shape = .object fields ∧ ∃ field ∈ fields, part.2.shape = field.2) ∨
      shape = .array part.2.shape := by
  unfold parts at among
  split at among
  · obtain ⟨field, declared, rfl⟩ := List.mem_map.mp among
    exact .inl ⟨_, rfl, field, declared, rfl⟩
  · obtain ⟨found, _, rfl⟩ := List.mem_map.mp among
    exact .inr rfl
  · cases among

/-- A part starts a path of its own. -/
theorem path_of_part {shape : Shape} {slot : Slot} {part : Segment × Position}
    (among : part ∈ parts shape slot) : part.2.path = [] := by
  unfold parts at among
  split at among
  · obtain ⟨field, _, rfl⟩ := List.mem_map.mp among
    rfl
  · obtain ⟨found, _, rfl⟩ := List.mem_map.mp among
    rfl
  · cases among

/-- Induction over a shape and a slot: the hypothesis holds of the parts, and of the alternatives
with the same slot. -/
theorem induction_parts_alternatives {motive : Shape → Slot → Prop}
    (step : ∀ shape slot, (∀ part ∈ parts shape slot, motive part.2.shape part.2.slot) →
      (∀ alternative ∈ shape.alternatives, motive alternative slot) → motive shape slot)
    (shape : Shape) (slot : Slot) : motive shape slot := by
  induction shape generalizing slot with
  | object fields ih =>
    refine step _ slot (fun part among => ?_) fun alternative among => by cases among
    rcases shape_of_part among with ⟨_, ⟨⟩, field, declared, same⟩ | other
    · rw [same]
      exact ih field declared _
    · cases other
  | array element ih =>
    refine step _ slot (fun part among => ?_) fun alternative among => by cases among
    rcases shape_of_part among with ⟨_, ⟨⟩, _⟩ | same
    obtain rfl := Shape.array.inj same
    exact ih _
  | union alternatives ih =>
    exact step _ slot (fun part among => by cases among)
      fun alternative among => ih alternative among slot
  | ofKind kind =>
    exact step _ slot (fun part among => by cases among) fun alternative among => by cases among
  | null =>
    exact step _ slot (fun part among => by cases among) fun alternative among => by cases among
  | anyArray =>
    exact step _ slot (fun part among => by cases among) fun alternative among => by cases among

/-- Induction over a shape and a slot: the hypothesis holds of the parts. -/
theorem induction_parts {motive : Shape → Slot → Prop}
    (step : ∀ shape slot,
      (∀ part ∈ parts shape slot, motive part.2.shape part.2.slot) → motive shape slot)
    (shape : Shape) (slot : Slot) : motive shape slot :=
  induction_parts_alternatives (fun shape slot each _ => step shape slot each) shape slot

/-- The shapes due of the parts of a slot are well-formed when the shape is. -/
theorem wellFormed_of_part {shape : Shape} (wellFormed : shape.WellFormed) {slot : Slot}
    {part : Segment × Position} (among : part ∈ parts shape slot) :
    part.2.shape.WellFormed := by
  rcases shape_of_part among with ⟨fields, rfl, field, declared, same⟩ | rfl
  · rw [same]
    exact (Shape.wellFormed_object_iff.mp wellFormed).2 field declared
  · exact wellFormed

/-- The segments into the parts of a root differ from each other. -/
theorem parts_distinct {shape : Shape} (wellFormed : shape.WellFormed) (slot : Slot) :
    ((parts shape slot).map Prod.fst).Nodup := by
  unfold parts
  split
  · rename_i fields members
    have names : (fields.map Prod.fst).Nodup := (Shape.wellFormed_object_iff.mp wellFormed).1
    have segments := names.map fun _ _ same => Segment.field.inj same
    rw [List.map_map] at segments ⊢
    exact segments
  · rename_i element items
    have positions : (items.zipIdx.map Prod.snd).Nodup := by
      rw [List.zipIdx_map_snd]
      exact List.nodup_range' 1
    have segments := positions.map fun _ _ same => Segment.index.inj same
    rw [List.map_map] at segments ⊢
    exact segments
  · exact List.nodup_nil

/-! ## The check from the root inwards -/

/-- A root that fails on the spot is the only failure. -/
theorem check_of_fails {shape : Shape} {slot : Slot} (fails : Fails ⟨[], slot, shape⟩) :
    shape.check slot = [failure ⟨[], slot, shape⟩] := by
  cases shape with
  | ofKind kind =>
    have other : Kind.ofSlot slot ≠ kind := fun same => fails (Kind.ofSlot_eq_iff.mp same)
    simp [Shape.check, other, failHere, failure, mismatch]
  | null =>
    unfold Shape.check
    split
    · exact absurd rfl fails.1
    · exact absurd rfl fails.2
    · rfl
  | object fields =>
    unfold Shape.check
    split
    · exact absurd rfl (fails _)
    · rfl
  | anyArray =>
    unfold Shape.check
    split
    · exact absurd rfl (fails _)
    · rfl
  | array element =>
    unfold Shape.check
    split
    · exact absurd rfl (fails _)
    · rfl
  | union alternatives =>
    have failed : ∀ alternative ∈ alternatives, alternative.check slot ≠ [] :=
      fun alternative among free => fails alternative among (Shape.conforms_of_check free)
    simp [Shape.check, Shape.checkAlternatives_eq_some failed, failHere, failure, mismatch]

/-- The failures of a root that does not fail on the spot are those of its parts, each under its
segment. -/
theorem check_of_not_fails {shape : Shape} {slot : Slot} (passes : ¬ Fails ⟨[], slot, shape⟩) :
    shape.check slot = (parts shape slot).flatMap fun part =>
      (part.2.shape.check part.2.slot).map (Failure.under part.1) := by
  cases shape with
  | ofKind kind =>
    have same : Kind.ofSlot slot = kind := Kind.ofSlot_eq_iff.mpr (not_not.mp passes)
    simp [Shape.check, same, parts]
  | null =>
    have due : slot = none ∨ slot = some .null := by
      simpa only [Fails, not_and_or, not_not, ne_eq] using passes
    rcases due with rfl | rfl <;> rfl
  | object fields =>
    obtain ⟨members, rfl⟩ : ∃ members, slot = some (.object members) := by
      simpa [Fails] using passes
    change Shape.checkFields fields members = _
    rw [Shape.checkFields_eq_flatMap, parts, List.flatMap_map]
  | anyArray =>
    obtain ⟨items, rfl⟩ : ∃ items, slot = some (.array items) := by simpa [Fails] using passes
    rfl
  | array element =>
    obtain ⟨items, rfl⟩ : ∃ items, slot = some (.array items) := by simpa [Fails] using passes
    change itemFailures (fun item => element.check (some item)) 0 items = _
    rw [itemFailures_eq_flatMap, parts, List.flatMap_map]
  | union alternatives =>
    obtain ⟨alternative, among, conforms⟩ :
        ∃ alternative ∈ alternatives, Conforms alternative slot := by
      simpa [Fails] using passes
    have passed := Shape.checkAlternatives_eq_none_iff.mpr
      ⟨alternative, among, Shape.check_of_conforms conforms⟩
    simp [Shape.check, passed, parts]

/-! ## Failures and failing positions -/

/-- The failing positions at a start and below it, in the order of the failures they report. -/
structure Enumerates (start : Position) (failures : List Failure) (failing : List Position) :
    Prop where
  /-- Each reports one failure. -/
  reported : failures = failing.map failure
  /-- They are all that steps lead to. -/
  complete : ∀ position, position ∈ failing ↔
    Relation.ReflTransGen Step start position ∧ position.Fails
  /-- No two have the same path. -/
  distinct : (failing.map Position.path).Nodup

/-- A root that fails on the spot is the only failing position. -/
theorem enumerates_of_fails {shape : Shape} {slot : Slot} (fails : Fails ⟨[], slot, shape⟩) :
    Enumerates ⟨[], slot, shape⟩ (shape.check slot) [⟨[], slot, shape⟩] := by
  refine ⟨check_of_fails fails, fun position => ?_, List.nodup_singleton _⟩
  have alone : Relation.ReflTransGen Step ⟨[], slot, shape⟩ position ↔
      position = ⟨[], slot, shape⟩ := by
    simp [reached_iff, parts_of_fails fails]
  rw [List.mem_singleton, alone]
  exact ⟨fun root => ⟨root, root ▸ fails⟩, And.left⟩

/-- The failing positions of a root that does not fail on the spot are those of its parts. -/
theorem enumerates_of_parts {shape : Shape} {slot : Slot} (wellFormed : shape.WellFormed)
    (passes : ¬ Fails ⟨[], slot, shape⟩)
    (each : ∀ part ∈ parts shape slot, ∃ failing,
      Enumerates part.2 (part.2.shape.check part.2.slot) failing) :
    ∃ failing, Enumerates ⟨[], slot, shape⟩ (shape.check slot) failing := by
  choose! failing enumerated using each
  refine ⟨(parts shape slot).flatMap fun part => (failing part).map (under part.1), ?_, ?_, ?_⟩
  · rw [check_of_not_fails passes, List.map_flatMap]
    refine List.flatMap_congr fun part among => ?_
    rw [(enumerated part among).reported, List.map_map, List.map_map]
    rfl
  · intro position
    rw [reached_iff]
    simp only [List.mem_flatMap, List.mem_map]
    constructor
    · rintro ⟨part, among, inner, listed, rfl⟩
      obtain ⟨reached, fails⟩ := ((enumerated part among).complete inner).mp listed
      exact ⟨.inr ⟨part, among, inner, rfl, reached⟩, fails⟩
    · rintro ⟨rfl | ⟨part, among, inner, rfl, reached⟩, fails⟩
      · exact absurd fails passes
      · exact ⟨part, among, inner,
          ((enumerated part among).complete inner).mpr ⟨reached, fails⟩, rfl⟩
  · rw [List.map_flatMap, List.nodup_flatMap]
    constructor
    · intro part among
      have inside := (enumerated part among).distinct.map
        (f := fun path => part.1 :: path) fun _ _ same => (List.cons.inj same).2
      rw [List.map_map] at inside ⊢
      exact inside
    · have apart : (parts shape slot).Pairwise fun part other => part.1 ≠ other.1 :=
        List.pairwise_map.mp (parts_distinct wellFormed slot)
      refine apart.imp fun {part other} differ => ?_
      intro path left right
      simp only [List.mem_map] at left right
      obtain ⟨_, ⟨inner, _, rfl⟩, rfl⟩ := left
      obtain ⟨_, ⟨outer, _, rfl⟩, same⟩ := right
      exact differ (List.cons.inj same).1.symm

/-- The failing positions of a root are enumerated once those of its parts are. -/
theorem enumerates_step {shape : Shape} {slot : Slot} (wellFormed : shape.WellFormed)
    (each : ∀ part ∈ parts shape slot, ∃ failing,
      Enumerates part.2 (part.2.shape.check part.2.slot) failing) :
    ∃ failing, Enumerates ⟨[], slot, shape⟩ (shape.check slot) failing := by
  by_cases fails : Fails ⟨[], slot, shape⟩
  · exact ⟨_, enumerates_of_fails fails⟩
  · exact enumerates_of_parts wellFormed fails each

/-- The failures of a check are those of the failing positions. -/
theorem enumerates_check {shape : Shape} (wellFormed : shape.WellFormed) (slot : Slot) :
    ∃ failing, Enumerates ⟨[], slot, shape⟩ (shape.check slot) failing := by
  induction shape, slot using induction_parts with
  | step shape slot ih =>
    refine enumerates_step wellFormed fun part among => ?_
    have root : part.2 = ⟨[], part.2.slot, part.2.shape⟩ := by rw [← path_of_part among]
    rw [root]
    exact ih part among (wellFormed_of_part wellFormed among)

end Position

/-- Every failure of a check is true and none is missing: the failures are those of the positions
that are reached from the root and fail on the spot, each with its own path, what its shape asks
for and its slot as it is shown. No two failures have the same path, and where a union fails every
alternative has failures of its own. -/
theorem Shape.check_reports_failing_positions (shape : Shape) (wellFormed : shape.WellFormed)
    (slot : Slot) :
    ∃ failing : List Position,
      shape.check slot = failing.map Position.failure ∧
      (∀ position, position ∈ failing ↔ position.Reached shape slot ∧ position.Fails) ∧
      (failing.map Position.path).Nodup ∧
      ∀ position ∈ failing, ∀ alternative ∈ position.shape.alternatives,
        alternative.check position.slot ≠ [] := by
  obtain ⟨failing, enumerated⟩ := Position.enumerates_check wellFormed slot
  refine ⟨failing, enumerated.reported, enumerated.complete, enumerated.distinct, ?_⟩
  intro position listed alternative among free
  obtain ⟨path, slot, shape⟩ := position
  have fails := ((enumerated.complete _).mp listed).2
  cases shape with
  | union alternatives => exact fails alternative among (Shape.conforms_of_check free)
  | _ => cases among

/-- A missing number and an element that is neither a string nor null are the two failing positions
of an object. -/
theorem Shape.check_reports_missing_and_mixed :
    let shape : Shape := .object [("id", .number), ("tags", .array (.either .string .null))]
    let slot : Slot := some (.object [("tags", .array [.string "a", .bool true, .null])])
    shape.WellFormed ∧ ∃ failing : List Position,
      failing.map Position.path = [[.field "id"], [.field "tags", .index 1]] ∧
      shape.check slot = failing.map Position.failure ∧
      ∀ position, position ∈ failing ↔ position.Reached shape slot ∧ position.Fails := by
  intro shape slot
  have wellFormed : shape.WellFormed := by
    simp [shape, Shape.WellFormed, Shape.WellFormedFields, Shape.either,
      Shape.WellFormedAlternatives, Fields.Distinct]
  obtain ⟨failing, reported, complete, _⟩ :=
    shape.check_reports_failing_positions wellFormed slot
  refine ⟨wellFormed, failing, ?_, reported, complete⟩
  have paths : (shape.check slot).map AtPath.path = failing.map Position.path := by
    rw [reported, List.map_map]
    rfl
  rw [← paths]
  rfl

end JsonShape
