import JsonShape.Proofs.Lowering
import JsonShape.Proofs.Tally

/-!
# Inference by groups

The shape of samples follows a recursive law on their groups. An object declares the names of all
objects, each with the shape of its samples, and an array takes the shape of all elements. No other
function on samples follows that law.
-/
namespace JsonShape

namespace Samples

/-! ## The law -/

section Law

variable (infer : List Json → Option Shape) (samples : List Json)

/-- The shapes of the names in some objects. Every name has samples, so each has a shape. -/
def fields (objects : List (List (String × Json))) : List (String × Shape) :=
  (names objects).map fun name => (name, (infer (under name objects)).getD .null)

/-- The shape of some arrays: that of any array if all are empty. -/
def array (arrays : List (List Json)) : Shape :=
  if arrays.flatten.isEmpty then .anyArray else .array ((infer arrays.flatten).getD .null)

/-- One alternative for each kind of samples, in the order string, number, boolean, object, array,
null. -/
def alternatives : List Shape :=
  (if occurs .string samples then [Shape.string] else []) ++
    (if occurs .number samples then [Shape.number] else []) ++
    (if occurs .boolean samples then [Shape.boolean] else []) ++
    (if (objects samples).isEmpty then [] else [Shape.object (fields infer (objects samples))]) ++
    (if (arrays samples).isEmpty then [] else [array infer (arrays samples)]) ++
    (if samples.any Json.isNull then [Shape.null] else [])

/-- The shape of samples by that of their groups: a single alternative, or the union of several. -/
def shape? : Option Shape :=
  match alternatives infer samples with
  | [] => none
  | [only] => some only
  | several => some (.union several)

end Law

end Samples

namespace Evidence

/-- Evidence that accepts null in any case is lowered as if null had been seen. -/
theorem shape?_optional (evidence : Evidence) :
    evidence.shape? true = (evidence.join (ofJson .null)).shape? false := by
  rw [shape?_eq_shapeOfArms, shape?_eq_shapeOfArms]
  simp [arms, ofJson, ofScalar, empty, joinItems_none, joinObjects_none]

end Evidence

namespace Samples

open Evidence (joinAll tally tallied)

/-! ## Lowering by groups -/

/-- Inference lowers the joined evidence. -/
theorem infer?_eq_shape?_joinAll (samples : List Json) :
    Shape.infer? samples = (joinAll .empty samples).shape? false := by
  rw [Shape.infer?, Inference.shape?, Inference.evidence_observeAll]
  rfl

/-- There is no shape of no samples, and one of any others. -/
theorem infer?_eq_none_iff {samples : List Json} : Shape.infer? samples = none ↔ samples = [] := by
  rw [infer?_eq_shape?_joinAll]
  have nothing := Evidence.toShape?_eq_none_iff (joinAll .empty samples)
  rw [Evidence.isBottom_joinAll] at nothing
  have bottom : Evidence.empty.isBottom = true := rfl
  simpa [Evidence.toShape?, bottom] using nothing

/-- The samples of a name are inferred from the values under it, which accept null when an object
lacks it. -/
theorem infer?_under (name : String) (objects : List (List (String × Json))) :
    Shape.infer? (under name objects) =
      (joinAll .empty (values name objects)).shape? (lacked name objects) := by
  rw [infer?_eq_shape?_joinAll, under]
  cases lacked name objects with
  | false =>
    rw [if_neg Bool.false_ne_true, List.append_nil]
  | true =>
    rw [if_pos rfl, Evidence.joinAll_append, Evidence.shape?_optional]
    rfl

/-- A name is counted less often than the objects when one of them lacks it. -/
theorem count_lt_seen_iff (name : String) {objects : List (List (String × Json))}
    (few : objects.length < 2 ^ 64) :
    UInt64.ofNat (values name objects).length < UInt64.ofNat objects.length ↔
      lacked name objects := by
  have le : (values name objects).length ≤ objects.length := List.length_filterMap_le _ _
  have every : (values name objects).length = objects.length ↔ lacked name objects = false := by
    rw [values, List.filterMap_length_eq_length, lacked, List.any_eq_false]
    simp [Option.isSome_iff_ne_none]
  rw [UInt64.lt_iff_toNat_lt, UInt64.toNat_ofNat_of_lt' few,
    UInt64.toNat_ofNat_of_lt' (Nat.lt_of_le_of_lt le few)]
  cases found : lacked name objects with
  | false =>
    have same := every.mpr found
    simp [same]
  | true =>
    have differ : (values name objects).length ≠ objects.length := by
      intro same
      rw [every.mp same] at found
      cases found
    simp only [iff_true]
    omega

/-- Tallied objects are lowered to the shapes of their names. -/
theorem fieldShapes_tallyObjects {objects : List (List (String × Json))}
    (few : objects.length < 2 ^ 64) :
    Evidence.fieldShapes (.ofNat objects.length) ((names objects).map (tallied objects)) =
      fields Shape.infer? objects := by
  rw [Evidence.fieldShapes_eq_map, List.map_map, fields]
  refine List.map_congr_left fun name _ => ?_
  have fewer : decide (UInt64.ofNat (values name objects).length < UInt64.ofNat objects.length) =
      lacked name objects := by
    rw [Bool.eq_iff_iff, decide_eq_true_iff, count_lt_seen_iff name few]
  rw [infer?_under, ← fewer]
  rfl

/-- Tallied arrays are lowered to the shape of their elements. -/
theorem arrayShape_joinAll (arrays : List (List Json)) :
    Evidence.arrayShape (joinAll .empty arrays.flatten) = array Shape.infer? arrays := by
  rw [Evidence.arrayShape, array, ← infer?_eq_shape?_joinAll]
  cases elements : arrays.flatten with
  | nil => rfl
  | cons first rest =>
    cases found : Shape.infer? (first :: rest) with
    | none => cases infer?_eq_none_iff.mp found
    | some element => rfl

/-- Inference follows the law on groups. -/
theorem infer?_eq_shape? {samples : List Json} (distinct : ∀ sample ∈ samples, sample.Distinct)
    (few : (objects samples).length < 2 ^ 64) :
    Shape.infer? samples = shape? Shape.infer? samples := by
  have arms : (tally samples).arms false = alternatives Shape.infer? samples := by
    have objectArm : Evidence.objectArm (tally samples).objects =
        if (objects samples).isEmpty then []
        else [.object (fields Shape.infer? (objects samples))] := by
      rw [tally]
      cases found : objects samples with
      | nil => rfl
      | cons first rest =>
        rw [found] at few
        rw [← fieldShapes_tallyObjects few]
        rfl
    have arrayArm : Evidence.arrayArm (tally samples).items =
        if (arrays samples).isEmpty then [] else [array Shape.infer? (arrays samples)] := by
      rw [tally]
      cases arrays samples with
      | nil => rfl
      | cons first rest =>
        rw [← arrayShape_joinAll]
        exact Evidence.arrayArm_some _
    rw [Evidence.arms, objectArm, arrayArm, Bool.or_false]
    rfl
  rw [infer?_eq_shape?_joinAll, Evidence.joinAll_tally distinct, Evidence.shape?_eq_shapeOfArms,
    arms, shape?]
  rcases alternatives Shape.infer? samples with _ | ⟨only, _ | ⟨second, rest⟩⟩
  · rfl
  · rfl
  · rfl

/-- What the law gives to samples depends only on what is inferred from the samples of each name and
from the elements. -/
theorem shape?_congr {samples : List Json} {infer other : List Json → Option Shape}
    (fields : ∀ name ∈ names (objects samples),
      infer (under name (objects samples)) = other (under name (objects samples)))
    (elements : (arrays samples).flatten ≠ [] →
      infer (arrays samples).flatten = other (arrays samples).flatten) :
    shape? infer samples = shape? other samples := by
  have objects : Samples.fields infer (objects samples) =
      Samples.fields other (objects samples) := by
    refine List.map_congr_left fun name among => ?_
    rw [fields name among]
  have arrays : array infer (arrays samples) = array other (arrays samples) := by
    unfold array
    split
    · rfl
    · next some =>
      rw [elements fun none => some (List.isEmpty_iff.mpr none)]
  have same : alternatives infer samples = alternatives other samples := by
    rw [alternatives, objects, arrays]
    rfl
  rw [shape?, same]
  rfl

/-- A function that follows the law infers what inference does. -/
theorem eq_infer?_of_law {samples : List Json} {infer : List Json → Option Shape}
    (law : ∀ samples, (∀ sample ∈ samples, sample.Distinct) → Countable samples →
      infer samples = shape? infer samples)
    (distinct : ∀ sample ∈ samples, sample.Distinct) (countable : Countable samples) :
    infer samples = Shape.infer? samples := by
  -- The groups of samples are no parts of the list, so the induction is on what bounds them.
  induction countable with
  | @intro samples few fields elements ihFields ihElements =>
    rw [law samples distinct (.intro few fields elements), infer?_eq_shape? distinct few]
    exact shape?_congr (fun name among => ihFields name among (distinct_under distinct name))
      fun some => ihElements some (distinct_elements distinct)

end Samples

/-- There is no shape of no samples. Inference gives any others a shape, by the law on their
groups, and no other function follows that law. Objects name no field twice, and no position of the
samples holds as many objects as there are words. -/
theorem Shape.infer?_by_groups :
    Shape.infer? [] = none ∧
    (∀ samples : List Json, samples ≠ [] → (∀ sample ∈ samples, sample.Distinct) →
      Samples.Countable samples →
      ∃ shape, Shape.infer? samples = some shape ∧
        Samples.shape? Shape.infer? samples = some shape) ∧
    ∀ infer : List Json → Option Shape,
      (∀ samples, (∀ sample ∈ samples, sample.Distinct) → Samples.Countable samples →
        infer samples = Samples.shape? infer samples) →
      ∀ samples, (∀ sample ∈ samples, sample.Distinct) → Samples.Countable samples →
        infer samples = Shape.infer? samples := by
  refine ⟨Samples.infer?_eq_none_iff.mpr rfl, fun samples nonempty distinct countable => ?_,
    fun infer law samples distinct countable => Samples.eq_infer?_of_law law distinct countable⟩
  obtain ⟨shape, inferred⟩ : ∃ shape, Shape.infer? samples = some shape :=
    Option.ne_none_iff_exists'.mp fun none => nonempty (Samples.infer?_eq_none_iff.mp none)
  obtain ⟨few, _, _⟩ := countable
  exact ⟨shape, inferred, (Samples.infer?_eq_shape? distinct few).symm.trans inferred⟩

/-- A name that one of two objects lacks, an empty array beside one of two kinds, and null. -/
theorem Shape.infer?_by_groups_optional :
    let samples : List Json :=
      [.object [("id", .bool true), ("tags", .array [])],
        .object [("tags", .array [.string "x", .null])], .null]
    let shape : Shape :=
      .union
        [.object [("id", .union [.boolean, .null]), ("tags", .array (.union [.string, .null]))],
          .null]
    samples ≠ [] ∧ (∀ sample ∈ samples, sample.Distinct) ∧ Samples.Countable samples ∧
      Samples.shape? Shape.infer? samples = some shape ∧
      ∀ infer : List Json → Option Shape,
        (∀ samples, (∀ sample ∈ samples, sample.Distinct) → Samples.Countable samples →
          infer samples = Samples.shape? infer samples) → infer samples = some shape := by
  intro samples shape
  have nonempty : samples ≠ [] := List.cons_ne_nil _ _
  have distinct : ∀ sample ∈ samples, sample.Distinct := by
    simp [samples, Json.Distinct, Json.DistinctMembers, Json.DistinctItems, Fields.Distinct]
  have countable : Samples.Countable samples :=
    Samples.countable_of_objectCount (show Json.itemsObjectCount samples < 2 ^ 64 by decide)
  have inferred : Shape.infer? samples = some shape := rfl
  obtain ⟨_, follows, only⟩ := Shape.infer?_by_groups
  obtain ⟨other, found, grouped⟩ := follows samples nonempty distinct countable
  obtain rfl : shape = other := Option.some.inj (inferred.symm.trans found)
  exact ⟨nonempty, distinct, countable, grouped, fun infer law =>
    (only infer law samples distinct countable).trans inferred⟩

end JsonShape
