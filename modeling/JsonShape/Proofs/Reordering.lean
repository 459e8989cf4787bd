import JsonShape.Proofs.Meanings
import JsonShape.Proofs.Unordered
import Mathlib.Data.List.Perm.Basic

/-!
# Reordered shapes

Shapes whose object shapes declare their fields in other orders and whose unions have their
alternatives in other orders, at any depth, accept the same slots. Where they fail one, they list
the same failures in other orders, those of alternatives inside a failed union included, although a
union looks at its alternatives only up to the first that passes.
-/
namespace JsonShape

/-! ## Failures in other orders -/

/-- Lists of failures that differ in the order of the failures alone, in the lists themselves and
inside failed unions at any depth. -/
inductive Failure.Reordered : List Failure → List Failure → Prop where
  /-- No failures. -/
  | nil : Reordered [] []
  /-- A failure in front of both. -/
  | cons (failure : Failure) {rest others : List Failure} : Reordered rest others →
      Reordered (failure :: rest) (failure :: others)
  /-- Two failures change places. -/
  | swap (first second : Failure) (rest : List Failure) :
      Reordered (first :: second :: rest) (second :: first :: rest)
  /-- The failures of the alternatives of a union are reordered. -/
  | inside (path : Path) (rest : List Failure) {failures others : List Failure} :
      Reordered failures others →
      Reordered (⟨path, .noAlternative failures⟩ :: rest) (⟨path, .noAlternative others⟩ :: rest)
  /-- One reordering after another. -/
  | trans {first second third : List Failure} : Reordered first second → Reordered second third →
      Reordered first third

namespace Failure.Reordered

variable {left right others more : List Failure}

/-- Failures in another order are reordered. -/
theorem of_perm (permuted : left.Perm right) : Reordered left right := by
  induction permuted with
  | nil => exact .nil
  | cons failure _ ih => exact .cons failure ih
  | swap first second rest => exact .swap second first rest
  | trans _ _ before after => exact before.trans after

/-- Failures are reordered into themselves. -/
theorem refl (failures : List Failure) : Reordered failures failures :=
  of_perm (.refl failures)

/-- Failures in front of reordered ones leave them reordered. -/
theorem append_left (failures : List Failure) (reordered : Reordered left right) :
    Reordered (failures ++ left) (failures ++ right) := by
  induction failures with
  | nil => exact reordered
  | cons failure rest ih => exact .cons failure ih

/-- So do failures behind them. -/
theorem append_right (failures : List Failure) (reordered : Reordered left right) :
    Reordered (left ++ failures) (right ++ failures) := by
  induction reordered with
  | nil => exact refl failures
  | cons failure _ ih => exact .cons failure ih
  | swap first second rest => exact .swap first second (rest ++ failures)
  | inside path rest reordered _ => exact .inside path (rest ++ failures) reordered
  | trans _ _ before after => exact before.trans after

/-- Reordered failures behind reordered failures are reordered with them. -/
theorem append (first : Reordered left right) (second : Reordered others more) :
    Reordered (left ++ others) (right ++ more) :=
  (first.append_right others).trans (second.append_left right)

/-- Failures seen from further out are reordered as they are. -/
theorem under (segment : Segment) (reordered : Reordered left right) :
    Reordered (left.map (Failure.under segment)) (right.map (Failure.under segment)) := by
  induction reordered with
  | nil => exact .nil
  | cons failure _ ih => exact .cons (failure.under segment) ih
  | swap first second rest =>
    exact .swap (first.under segment) (second.under segment) (rest.map (Failure.under segment))
  | inside path rest reordered _ =>
    exact .inside (segment :: path) (rest.map (Failure.under segment)) reordered
  | trans _ _ before after => exact before.trans after

/-- Parts that fail with reordered failures fail with reordered failures together. -/
theorem flatMap {α : Type} {parts : List α} {failures others : α → List Failure}
    (each : ∀ part ∈ parts, Reordered (failures part) (others part)) :
    Reordered (parts.flatMap failures) (parts.flatMap others) := by
  induction parts with
  | nil => exact .nil
  | cons part rest ih =>
    exact append (each part List.mem_cons_self)
      (ih fun other among => each other (List.mem_cons_of_mem _ among))

/-- Reordered failures are equally many. -/
theorem length_eq (reordered : Reordered left right) : left.length = right.length := by
  induction reordered with
  | nil => rfl
  | cons failure _ ih => rw [List.length_cons, List.length_cons, ih]
  | swap first second rest => rfl
  | inside path rest _ _ => rfl
  | trans _ _ before after => exact before.trans after

/-- Reordering makes no failures and loses none. -/
theorem eq_nil_iff (reordered : Reordered left right) : left = [] ↔ right = [] := by
  rw [← List.length_eq_zero_iff, ← List.length_eq_zero_iff, reordered.length_eq]

end Failure.Reordered

/-! ## Shapes in other orders -/

namespace Shape

/-- Shapes that differ in the order of declared fields and in that of alternatives alone, at any
depth. -/
inductive Reordered : Shape → Shape → Prop where
  /-- Nothing is reordered. -/
  | refl (shape : Shape) : Reordered shape shape
  /-- One reordering after another. -/
  | trans {first second third : Shape} : Reordered first second → Reordered second third →
      Reordered first third
  /-- The fields of an object are permuted. -/
  | fields {fields others : List (String × Shape)} : fields.Perm others →
      Reordered (.object fields) (.object others)
  /-- The alternatives of a union are permuted. -/
  | alternatives {alternatives others : List Shape} : alternatives.Perm others →
      Reordered (.union alternatives) (.union others)
  /-- The shape of one field is reordered. -/
  | inField (before : List (String × Shape)) (name : String) {shape other : Shape}
      (after : List (String × Shape)) : Reordered shape other →
      Reordered (.object (before ++ (name, shape) :: after))
        (.object (before ++ (name, other) :: after))
  /-- The shape of the elements is reordered. -/
  | inElement {element other : Shape} : Reordered element other →
      Reordered (.array element) (.array other)
  /-- One alternative is reordered. -/
  | inAlternative (before : List Shape) {shape other : Shape} (after : List Shape) :
      Reordered shape other →
      Reordered (.union (before ++ shape :: after)) (.union (before ++ other :: after))

/-- Object shapes fail alike when they fail objects alike. -/
theorem check_object_reordered {fields others : List (String × Shape)}
    (inside : ∀ members,
      Failure.Reordered (checkFields fields members) (checkFields others members))
    (slot : Slot) :
    Failure.Reordered ((Shape.object fields).check slot) ((Shape.object others).check slot) := by
  match slot with
  | some (.object members) => exact inside members
  | none => exact .refl _
  | some (.scalar value) => exact .refl _
  | some (.array items) => exact .refl _

/-- Unions fail alike when both have an alternative that passes or neither has, and the failures of
all alternatives are reordered. -/
theorem check_union_reordered {alternatives others : List Shape} {slot : Slot}
    (passes : (∃ shape ∈ alternatives, shape.check slot = []) ↔
      ∃ shape ∈ others, shape.check slot = [])
    (inside : Failure.Reordered (alternatives.flatMap (·.check slot))
      (others.flatMap (·.check slot))) :
    Failure.Reordered ((Shape.union alternatives).check slot)
      ((Shape.union others).check slot) := by
  by_cases passed : ∃ shape ∈ alternatives, shape.check slot = []
  · rw [check, check, checkAlternatives_eq_none_iff.mpr passed,
      checkAlternatives_eq_none_iff.mpr (passes.mp passed)]
    exact .nil
  · have failed : ∀ shape ∈ alternatives, shape.check slot ≠ [] :=
      fun shape among free => passed ⟨shape, among, free⟩
    have alsoFailed : ∀ shape ∈ others, shape.check slot ≠ [] :=
      fun shape among free => passed (passes.mpr ⟨shape, among, free⟩)
    rw [check, check, checkAlternatives_eq_some failed, checkAlternatives_eq_some alsoFailed]
    exact .inside [] [] inside

/-- A reordered shape reorders the failures. -/
theorem Reordered.check {left right : Shape} (reordered : left.Reordered right) (slot : Slot) :
    Failure.Reordered (left.check slot) (right.check slot) := by
  induction reordered generalizing slot with
  | refl shape => exact .refl _
  | trans _ _ before after => exact (before slot).trans (after slot)
  | fields permuted =>
    refine check_object_reordered (fun members => ?_) slot
    rw [checkFields_eq_flatMap, checkFields_eq_flatMap]
    exact .of_perm (permuted.flatMap_right _)
  | alternatives permuted =>
    -- The check may stop elsewhere now, but whether it stops is a matter of membership.
    refine check_union_reordered ?_ (.of_perm (permuted.flatMap_right _))
    simp only [permuted.mem_iff]
  | inField before name after _ ih =>
    refine check_object_reordered (fun members => ?_) slot
    rw [checkFields_eq_flatMap, checkFields_eq_flatMap, List.flatMap_append, List.flatMap_append,
      List.flatMap_cons, List.flatMap_cons]
    exact (((ih _).under _).append_right _).append_left _
  | inElement _ ih =>
    match slot with
    | some (.array items) =>
      rw [Shape.check, Shape.check, itemFailures_eq_flatMap, itemFailures_eq_flatMap]
      exact .flatMap fun part _ => (ih _).under _
    | none => exact .refl _
    | some (.scalar value) => exact .refl _
    | some (.object members) => exact .refl _
  | inAlternative before after _ ih =>
    refine check_union_reordered ?_ ?_
    · simp only [List.mem_append, List.mem_cons, or_and_right, exists_or, exists_eq_left,
        (ih slot).eq_nil_iff]
    · rw [List.flatMap_append, List.flatMap_append, List.flatMap_cons, List.flatMap_cons]
      exact ((ih slot).append_right _).append_left _

end Shape

/-! ## Equal shapes -/

/-- Of two lists whose names have related values, one can be permuted so that they are related one
by one. -/
theorem Fields.Matched.exists_perm {α β : Type} {R : α → β → Prop} {fields : List (String × α)}
    {others : List (String × β)} (matched : Matched R fields others) (distinct : Distinct fields)
    (otherDistinct : Distinct others) : ∃ middle, Related R fields middle ∧ middle.Perm others := by
  have permuted : (names fields).Perm (names others) :=
    (List.perm_ext_iff_of_nodup distinct otherDistinct).mpr matched.mem_names_iff
  have named : List.Forall₂ (fun name (other : String × β) => name = other.1) (names others)
      others := by
    rw [names, List.forall₂_map_left_iff]
    exact List.forall₂_same.mpr fun _ _ => rfl
  obtain ⟨middle, aligned, arranged⟩ := List.perm_comp_forall₂ permuted named
  refine ⟨middle, ?_, arranged⟩
  rw [names, List.forall₂_map_left_iff, List.forall₂_iff_get] at aligned
  refine List.forall₂_iff_get.mpr ⟨aligned.1, fun position before after => ?_⟩
  have same := aligned.2 position before after
  have found := get?_of_mem distinct (List.get_mem fields ⟨position, before⟩)
  have also := get?_of_mem otherDistinct
    (arranged.mem_iff.mp (List.get_mem middle ⟨position, after⟩))
  rw [← same] at also
  rcases optionRel_iff.mp (matched (fields.get ⟨position, before⟩).1) with
    ⟨none, _⟩ | ⟨value, other, there, under, related⟩
  · cases found.symm.trans none
  · obtain rfl := Option.some.inj (found.symm.trans there)
    obtain rfl := Option.some.inj (also.symm.trans under)
    exact ⟨same, related⟩

namespace Shape

/-- Shapes built of parts are reordered when the parts are, one by one. -/
theorem Reordered.of_parts {α : Type} {R : α → α → Prop} {build : List α → Shape}
    (one : ∀ before part other after, R part other →
      (build (before ++ part :: after)).Reordered (build (before ++ other :: after)))
    {parts others : List α} (each : List.Forall₂ R parts others) :
    (build parts).Reordered (build others) := by
  -- The parts that are already exchanged pile up in front, so the induction is for any front.
  have behind : ∀ before, (build (before ++ parts)).Reordered (build (before ++ others)) := by
    induction each with
    | nil => exact fun before => .refl _
    | @cons part other rest rest' here _ ih =>
      intro before
      have further := ih (before ++ [other])
      rw [List.append_assoc, List.append_assoc] at further
      exact (one before part other rest here).trans further
  exact behind []

/-- Equal shapes differ in the order of their fields alone. -/
theorem reordered_of_same {left right : Shape} (distinct : left.Distinct)
    (otherDistinct : right.Distinct) (same : left.same right) : left.Reordered right := by
  induction distinct generalizing right with
  | ofKind kind =>
    cases otherDistinct with
    | ofKind other =>
      obtain rfl : kind = other := by simpa [Shape.same] using same
      exact .refl _
    | _ => simp [Shape.same] at same
  | null =>
    cases otherDistinct with
    | null => exact .refl _
    | _ => simp [Shape.same] at same
  | anyArray =>
    cases otherDistinct with
    | anyArray => exact .refl _
    | _ => simp [Shape.same] at same
  | array _ ih =>
    cases otherDistinct with
    | array otherDistinct =>
      rw [Shape.same] at same
      exact .inElement (ih otherDistinct same)
    | _ => simp [Shape.same] at same
  | @object fields names _ ih =>
    cases otherDistinct with
    | @object others otherNames otherEach =>
      rw [same_object_iff names otherNames] at same
      have matched : Fields.Matched Reordered fields others := by
        intro name
        rcases optionRel_iff.mp (same name) with ⟨none, also⟩ | ⟨shape, other, found, also, same⟩
        · rw [none, also]
          exact .none
        · rw [found, also]
          exact .some (ih _ (Fields.mem_of_get? found) (otherEach _ (Fields.mem_of_get? also)) same)
      -- First the fields where they stand, one by one, and then all of them to their places.
      obtain ⟨middle, related, permuted⟩ := matched.exists_perm names otherNames
      refine .trans (.of_parts ?_ related) (.fields permuted)
      rintro before ⟨name, shape⟩ ⟨_, other⟩ after ⟨rfl, here⟩
      exact .inField before name after here
    | _ => simp [Shape.same] at same
  | @union alternatives _ ih =>
    cases otherDistinct with
    | @union others otherEach =>
      rw [same_union_iff, List.forall₂_iff_get] at same
      refine .of_parts (fun before _ _ after here => .inAlternative before after here)
        (List.forall₂_iff_get.mpr ⟨same.1, fun position before after => ?_⟩)
      exact ih _ (List.get_mem alternatives ⟨position, before⟩)
        (otherEach _ (List.get_mem others ⟨position, after⟩)) (same.2 position before after)
    | _ => simp [Shape.same] at same

/-- Shapes that differ in the order of fields and of alternatives alone, at any depth, accept the
same slots and have the same failures in other orders, inside failed unions too. Shapes that are
equal up to the order of their fields differ in this way, so they accept the same values. -/
theorem check_of_reordered (left right : Shape) :
    (left.Reordered right → ∀ slot,
      (left.check slot = [] ↔ right.check slot = []) ∧
      Failure.Reordered (left.check slot) (right.check slot)) ∧
    (left.Distinct → right.Distinct → left.same right →
      left.Reordered right ∧ ∀ value, left.accepts value = right.accepts value) := by
  refine ⟨fun reordered slot => ⟨(reordered.check slot).eq_nil_iff, reordered.check slot⟩, ?_⟩
  intro distinct otherDistinct same
  have reordered := reordered_of_same distinct otherDistinct same
  refine ⟨reordered, fun value => ?_⟩
  have free : left.validate value = [] ↔ right.validate value = [] :=
    (reordered.check (some value)).eq_nil_iff
  rw [accepts, accepts, Bool.eq_iff_iff, List.isEmpty_iff, List.isEmpty_iff]
  exact free

/-- The fields change places, and so do the alternatives of a union below one of them: the failures
change places, and so do those inside the failed union. -/
theorem check_of_reordered_union :
    let left : Shape := .object [("id", .null), ("tag", .either .string .boolean)]
    let right : Shape := .object [("tag", .either .boolean .string), ("id", .null)]
    let equal : Shape := .object [("tag", .either .string .boolean), ("id", .null)]
    let value : Json := .object [("id", .bool true), ("tag", .null)]
    let failures : List Failure :=
      [⟨[.field "id"], .notNull "true"⟩, ⟨[.field "tag"], .noAlternative
        [⟨[], .notOfKind .string "null"⟩, ⟨[], .notOfKind .boolean "null"⟩]⟩]
    let others : List Failure :=
      [⟨[.field "tag"], .noAlternative
        [⟨[], .notOfKind .boolean "null"⟩, ⟨[], .notOfKind .string "null"⟩]⟩,
        ⟨[.field "id"], .notNull "true"⟩]
    left.Reordered right ∧ left.validate value = failures ∧ right.validate value = others ∧
      Failure.Reordered failures others ∧
      left.Distinct ∧ equal.Distinct ∧ left.same equal ∧
      left.accepts value = equal.accepts value := by
  intro left right equal value failures others
  have reordered : left.Reordered right :=
    .trans (.inField [("id", .null)] "tag" [] (.alternatives (.swap _ _ _)))
      (.fields (.swap _ _ _))
  have distinct : left.Distinct := by
    apply WellFormed.distinct
    simp [left, either, WellFormed, WellFormedFields, WellFormedAlternatives, Fields.Distinct]
  have otherDistinct : equal.Distinct := by
    apply WellFormed.distinct
    simp [equal, either, WellFormed, WellFormedFields, WellFormedAlternatives, Fields.Distinct]
  have same : left.same equal := by decide
  have failing : left.validate value = failures := rfl
  have alsoFailing : right.validate value = others := rfl
  obtain ⟨moved, _⟩ := check_of_reordered left right
  obtain ⟨_, compared⟩ := check_of_reordered left equal
  refine ⟨reordered, failing, alsoFailing, ?_, distinct, otherDistinct, same,
    (compared distinct otherDistinct same).2 value⟩
  rw [← failing, ← alsoFailing]
  exact (moved reordered (some value)).2

end Shape

end JsonShape
