import JsonShape.Proofs.Admission
import JsonShape.Proofs.Commutativity
import JsonShape.Proofs.Tally

/-!
# Counting at every position

A position of evidence is shared: all elements of all arrays stand at one, and so do the values of a
field that different samples hold. What stands at a position of some samples is a list of values,
gathered sample by sample. The evidence at the position is joined from exactly these values,
whatever was folded first, so its flags say which kinds are among them, it counts each object among
them once, and each of their names once for each object that has it. While the samples hold fewer
objects than there are words the counts are these numbers.
-/
namespace JsonShape

open Evidence (Descent)

/-! ## Positions -/

/-- The parts of a value to which one step leads. -/
def Json.partsAt : Descent → Json → List Json
  | .element, .array items => items
  | .field name, .object members => (Fields.get? name members).toList
  | _, _ => []

/-- The parts of a value at a position: what further steps lead to, part by part. -/
def Json.valuesAt : List Descent → Json → List Json
  | [], value => [value]
  | step :: rest, value => (value.partsAt step).flatMap (valuesAt rest)

/-- What stands at a position of some samples, sample by sample. -/
def Samples.valuesAt (position : List Descent) (samples : List Json) : List Json :=
  samples.flatMap (Json.valuesAt position)

/-- The evidence to which one step leads, if there is any. -/
def Evidence.step? : Descent → Evidence → Option Evidence
  | .element, evidence => evidence.items
  | .field name, evidence =>
    evidence.objects.bind fun objects =>
      (Fields.get? name objects.fields).map Occurrence.evidence

/-- The evidence at a position, if there is any. -/
def Evidence.at? : List Descent → Evidence → Option Evidence
  | [], evidence => some evidence
  | step :: rest, evidence => (evidence.step? step).bind (at? rest)

namespace Samples

variable {samples : List Json}

/-- At the root stand the samples themselves. -/
@[simp] theorem valuesAt_nil (samples : List Json) : valuesAt [] samples = samples := by
  induction samples with
  | nil => rfl
  | cons sample rest ih =>
    rw [valuesAt, List.flatMap_cons]
    exact congrArg (sample :: ·) ih

/-- What stands at a position stands at its rest below the first step. -/
theorem valuesAt_cons (step : Descent) (rest : List Descent) (samples : List Json) :
    valuesAt (step :: rest) samples = valuesAt rest (samples.flatMap (Json.partsAt step)) := by
  rw [valuesAt, valuesAt, List.flatMap_assoc]
  rfl

/-- One step to the elements leads to those of all arrays. -/
theorem flatMap_partsAt_element (samples : List Json) :
    samples.flatMap (Json.partsAt .element) = (arrays samples).flatten := by
  induction samples with
  | nil => rfl
  | cons sample rest ih =>
    rw [List.flatMap_cons, ih]
    cases sample with
    | scalar value => rfl
    | object members => rfl
    | array items => simp [Json.partsAt, arrays, Json.items?]

/-- One step to a field leads to the values that the objects have under its name. -/
theorem flatMap_partsAt_field (name : String) (samples : List Json) :
    samples.flatMap (Json.partsAt (.field name)) = values name (objects samples) := by
  induction samples with
  | nil => rfl
  | cons sample rest ih =>
    rw [List.flatMap_cons, ih]
    cases sample with
    | scalar value => rfl
    | array items => rfl
    | object members =>
      cases found : Fields.get? name members <;>
        simp [Json.partsAt, objects, Json.members?, values, found]

/-- How many of some objects have a name. -/
def holders (name : String) (objects : List (List (String × Json))) : Nat :=
  objects.countP fun members => name ∈ Fields.names members

/-- As many values are under a name as objects have it. -/
theorem length_values (name : String) (objects : List (List (String × Json))) :
    (values name objects).length = holders name objects := by
  rw [values, List.length_filterMap_eq_countP]
  refine List.countP_congr fun members _ => ?_
  rw [Fields.get?_isSome_iff, decide_eq_true_iff]

/-- The parts one step down repeat no names when the samples do not. -/
theorem distinct_partsAt (distinct : ∀ sample ∈ samples, sample.Distinct) (step : Descent) :
    ∀ part ∈ samples.flatMap (Json.partsAt step), part.Distinct := by
  cases step with
  | element =>
    rw [flatMap_partsAt_element]
    exact distinct_elements distinct
  | field name =>
    rw [flatMap_partsAt_field]
    exact fun part among => distinct_under distinct name part (List.mem_append_left _ among)

/-- One step leads to no more objects than the samples hold. -/
theorem objectCount_partsAt_le (step : Descent) (samples : List Json) :
    Json.itemsObjectCount (samples.flatMap (Json.partsAt step)) ≤
      Json.itemsObjectCount samples := by
  cases step with
  | element =>
    rw [flatMap_partsAt_element]
    exact objectCount_elements_le samples
  | field name =>
    rw [flatMap_partsAt_field]
    have more := objectCount_under_le name samples
    rw [under, itemsObjectCount_append] at more
    exact Nat.le_of_add_right_le more

/-- Nor do the values at any position. -/
theorem distinct_valuesAt (distinct : ∀ sample ∈ samples, sample.Distinct)
    (position : List Descent) : ∀ value ∈ valuesAt position samples, value.Distinct := by
  induction position generalizing samples with
  | nil => simpa using distinct
  | cons step rest ih =>
    rw [valuesAt_cons]
    exact ih (distinct_partsAt distinct step)

/-- What stands at a position holds no more objects than the samples. -/
theorem objectCount_valuesAt_le (position : List Descent) (samples : List Json) :
    Json.itemsObjectCount (valuesAt position samples) ≤ Json.itemsObjectCount samples := by
  induction position generalizing samples with
  | nil => exact Nat.le_of_eq (by rw [valuesAt_nil])
  | cons step rest ih =>
    rw [valuesAt_cons]
    exact Nat.le_trans (ih _) (objectCount_partsAt_le step samples)

end Samples

namespace Evidence

open Samples (names values valuesAt)

variable {samples : List Json}

/-! ## The evidence at a position -/

/-- The evidence one step further is joined from what stands there. -/
theorem step?_joinAll (distinct : ∀ sample ∈ samples, sample.Distinct) {step : Descent}
    {inner : Evidence} (below : (joinAll empty samples).step? step = some inner) :
    inner = joinAll empty (samples.flatMap (Json.partsAt step)) := by
  rw [joinAll_tally distinct] at below
  cases step with
  | element =>
    rw [Samples.flatMap_partsAt_element]
    simp only [step?, tally] at below
    split at below
    · cases below
    · exact (Option.some.inj below).symm
  | field name =>
    rw [Samples.flatMap_partsAt_field]
    simp only [step?, tally] at below
    split at below
    · cases below
    · obtain ⟨occurrence, found, rfl⟩ := Option.map_eq_some_iff.mp below
      obtain ⟨other, _, same⟩ := List.mem_map.mp (Fields.mem_of_get? found)
      cases same
      rfl

/-- There is evidence one step further when something stands there. -/
theorem exists_step? (distinct : ∀ sample ∈ samples, sample.Distinct) {step : Descent}
    (some : samples.flatMap (Json.partsAt step) ≠ []) :
    ∃ inner, (joinAll empty samples).step? step = .some inner := by
  rw [joinAll_tally distinct]
  cases step with
  | element =>
    rw [Samples.flatMap_partsAt_element] at some
    simp only [step?, tally]
    split
    · rename_i none
      rw [none] at some
      exact absurd rfl some
    · exact ⟨_, rfl⟩
  | field name =>
    rw [Samples.flatMap_partsAt_field] at some
    simp only [step?, tally]
    split
    · rename_i none
      rw [none] at some
      exact absurd rfl some
    · have there : name ∈ names (Samples.objects samples) :=
        not_not.mp (mt Samples.values_eq_nil_iff.mpr some)
      have counted : (Fields.get? name
          ((names (Samples.objects samples)).map (tallied (Samples.objects samples)))).isSome := by
        rw [Fields.get?_isSome_iff, names_tallied]
        exact there
      obtain ⟨occurrence, found⟩ := Option.isSome_iff_exists.mp counted
      exact ⟨occurrence.evidence, by simp [tallyObjects, found]⟩

/-- The evidence at a position is joined from what stands there. -/
theorem at?_joinAll (distinct : ∀ sample ∈ samples, sample.Distinct) {position : List Descent}
    {found : Evidence} (here : (joinAll empty samples).at? position = some found) :
    found = joinAll empty (valuesAt position samples) := by
  induction position generalizing samples with
  | nil =>
    rw [Samples.valuesAt_nil]
    exact (Option.some.inj here).symm
  | cons step rest ih =>
    -- One step down stands a fold again, that of the parts, so the induction is for all samples.
    obtain ⟨inner, below, further⟩ := Option.bind_eq_some_iff.mp here
    rw [step?_joinAll distinct below] at further
    rw [Samples.valuesAt_cons]
    exact ih (Samples.distinct_partsAt distinct step) further

/-- There is evidence at every position at which something stands. -/
theorem exists_at? (distinct : ∀ sample ∈ samples, sample.Distinct) {position : List Descent}
    (some : valuesAt position samples ≠ []) :
    ∃ found, (joinAll empty samples).at? position = .some found := by
  induction position generalizing samples with
  | nil => exact ⟨_, rfl⟩
  | cons step rest ih =>
    rw [Samples.valuesAt_cons] at some
    have parts : samples.flatMap (Json.partsAt step) ≠ [] := by
      intro none
      rw [none] at some
      exact some rfl
    obtain ⟨inner, below⟩ := exists_step? distinct parts
    obtain ⟨found, further⟩ := ih (Samples.distinct_partsAt distinct step) some
    refine ⟨found, Option.bind_eq_some_iff.mpr ⟨inner, below, ?_⟩⟩
    rw [step?_joinAll distinct below]
    exact further

/-! ## Counting -/

/-- Evidence that says of some values which kinds are among them, how many are objects, and how many
of the objects have each name. -/
structure Counts (evidence : Evidence) (values : List Json) : Prop where
  /-- Null is flagged when it occurs. -/
  null : evidence.nullable ↔ Json.null ∈ values
  /-- Truth values are flagged when one occurs. -/
  bool : evidence.bool ↔ ∃ value, Json.bool value ∈ values
  /-- Numbers are flagged when one occurs. -/
  number : evidence.number ↔ ∃ value, Json.number value ∈ values
  /-- Strings are flagged when one occurs. -/
  string : evidence.string ↔ ∃ value, Json.string value ∈ values
  /-- There is evidence of elements when an array occurs. -/
  array : evidence.items.isSome ↔ ∃ items, Json.array items ∈ values
  /-- There is evidence of objects when one occurs. -/
  object : evidence.objects.isSome ↔ ∃ members, Json.object members ∈ values
  /-- Every object is counted. -/
  seen : ∀ objects, evidence.objects = some objects →
    objects.seen = .ofNat (Samples.objects values).length
  /-- The fields are those that an object has. -/
  fields : ∀ objects, evidence.objects = some objects → ∀ name,
    name ∈ Fields.names objects.fields ↔
      ∃ members ∈ Samples.objects values, name ∈ Fields.names members
  /-- No field stands twice. -/
  once : ∀ objects, evidence.objects = some objects → Fields.Distinct objects.fields
  /-- A field counts the objects that have it. -/
  count : ∀ objects, evidence.objects = some objects → ∀ field ∈ objects.fields,
    field.2.count = .ofNat (Samples.holders field.1 (Samples.objects values))

/-- A kind occurs when a value occurs that is made as the values of the kind are. -/
theorem occurs_iff {α : Type} {kind : Kind} {make : α → Json} {values : List Json}
    (made : ∀ value, Kind.ofSlot (some value) = kind ↔ ∃ part, value = make part) :
    Samples.occurs kind values ↔ ∃ part, make part ∈ values := by
  rw [Samples.occurs, List.any_eq_true]
  simp only [decide_eq_true_iff, made]
  constructor
  · rintro ⟨_, there, part, rfl⟩
    exact ⟨part, there⟩
  · rintro ⟨part, there⟩
    exact ⟨_, there, part, rfl⟩

/-- Null occurs when a value is null. -/
theorem any_isNull_iff {values : List Json} : values.any Json.isNull ↔ Json.null ∈ values := by
  rw [List.any_eq_true]
  constructor
  · rintro ⟨value, there, isNull⟩
    unfold Json.isNull at isNull
    split at isNull
    · exact there
    · cases isNull
  · exact fun there => ⟨_, there, rfl⟩

/-- Where there is evidence of objects, it is the tally of them. -/
theorem objects_tally {values : List Json} {objects : Objects Evidence}
    (found : (tally values).objects = some objects) :
    objects = tallyObjects (Samples.objects values) := by
  simp only [tally] at found
  split at found
  · cases found
  · exact (Option.some.inj found).symm

/-- The tally of some values counts them. -/
theorem counts_tally (values : List Json) : Counts (tally values) values where
  null := any_isNull_iff
  bool := occurs_iff fun value => by
    rcases value with (_ | _ | _ | _) | _ | _ <;> simp [Kind.ofSlot, Kind.ofScalar]
  number := occurs_iff fun value => by
    rcases value with (_ | _ | _ | _) | _ | _ <;> simp [Kind.ofSlot, Kind.ofScalar]
  string := occurs_iff fun value => by
    rcases value with (_ | _ | _ | _) | _ | _ <;> simp [Kind.ofSlot, Kind.ofScalar]
  array := by
    simp only [← Samples.mem_arrays_iff, tally]
    cases Samples.arrays values <;> simp
  object := by
    simp only [← Samples.mem_objects_iff, tally]
    cases Samples.objects values <;> simp
  seen objects found := by
    rw [objects_tally found, tallyObjects]
  fields objects found name := by
    rw [objects_tally found, tallyObjects, names_tallied, Samples.mem_names_iff]
    simp only [Fields.get?_isSome_iff]
  once objects found := by
    rw [objects_tally found, tallyObjects, Fields.Distinct, names_tallied]
    exact Samples.nodup_eraseDups _
  count objects found field among := by
    rw [objects_tally found] at among
    obtain ⟨name, _, rfl⟩ := List.mem_map.mp among
    rw [tallied, Samples.length_values]

/-- A field of joined evidence has evidence of the values that objects have under its name, of which
there is at least one. -/
theorem field_tally {values : List Json} {objects : Objects Evidence}
    (found : (tally values).objects = some objects) {field : String × Occurrence Evidence}
    (among : field ∈ objects.fields) :
    field.2.evidence = joinAll empty (Samples.values field.1 (Samples.objects values)) ∧
      Samples.values field.1 (Samples.objects values) ≠ [] := by
  rw [objects_tally found] at among
  obtain ⟨name, there, rfl⟩ := List.mem_map.mp among
  refine ⟨rfl, fun none => ?_⟩
  exact Samples.values_eq_nil_iff.mp none there

/-- Something was seen of every field, so it is lowered to a shape. -/
theorem field_isSome_shape? {values : List Json} {objects : Objects Evidence}
    (found : (tally values).objects = some objects) {field : String × Occurrence Evidence}
    (among : field ∈ objects.fields) (optional : Bool) :
    field.2.evidence.isBottom = false ∧ (field.2.evidence.shape? optional).isSome := by
  obtain ⟨joined, some⟩ := field_tally found among
  have seen : field.2.evidence.isBottom = false := by
    rw [joined, isBottom_joinAll]
    simp [some]
  refine ⟨seen, Option.isSome_iff_ne_none.mpr fun none => ?_⟩
  have bottom := (shape?_eq_none_iff.mp none).1
  rw [seen] at bottom
  cases bottom

/-- A field is in one of the objects, and in no more than there are. -/
theorem field_count_le {values : List Json} {objects : Objects Evidence}
    (found : (tally values).objects = some objects) {field : String × Occurrence Evidence}
    (among : field ∈ objects.fields) :
    1 ≤ Samples.holders field.1 (Samples.objects values) ∧
      Samples.holders field.1 (Samples.objects values) ≤ (Samples.objects values).length := by
  obtain ⟨_, some⟩ := field_tally found among
  refine ⟨?_, List.countP_le_length⟩
  rw [← Samples.length_values]
  exact List.length_pos_iff.mpr some

/-- A number below the words is that of its word. -/
theorem toNat_ofNat_of_le {number limit : Nat} (within : number ≤ limit) (small : limit < 2 ^ 64) :
    (UInt64.ofNat number).toNat = number :=
  UInt64.toNat_ofNat_of_lt' (Nat.lt_of_le_of_lt within small)

/-- Counts of fewer objects than there are words are their numbers. -/
theorem exact_of_few {values : List Json} {objects : Objects Evidence}
    (found : (tally values).objects = some objects)
    (few : (Samples.objects values).length < 2 ^ 64) :
    objects.seen.toNat = (Samples.objects values).length ∧
      ∀ field ∈ objects.fields,
        field.2.count.toNat = Samples.holders field.1 (Samples.objects values) ∧
          1 ≤ field.2.count ∧ field.2.count ≤ objects.seen := by
  have counts := counts_tally values
  have seen : objects.seen.toNat = (Samples.objects values).length := by
    rw [counts.seen objects found]
    exact toNat_ofNat_of_le (Nat.le_refl _) few
  refine ⟨seen, fun field among => ?_⟩
  obtain ⟨positive, bound⟩ := field_count_le found among
  have number : field.2.count.toNat = Samples.holders field.1 (Samples.objects values) := by
    rw [counts.count objects found field among]
    exact toNat_ofNat_of_le bound few
  rw [UInt64.le_iff_toNat_le, UInt64.le_iff_toNat_le, number, seen]
  exact ⟨rfl, positive, bound⟩

/-- Samples that hold fewer objects than there are words are joined within the words. -/
theorem allFit_of_few {samples : List Json} (few : Json.itemsObjectCount samples < 2 ^ 64) :
    empty.AllFit samples ∧ ∀ sample ∈ samples, sample.Countable := by
  have each : ∀ sample ∈ samples, sample.Countable ∧ Within sample.objectCount (ofJson sample) :=
    fun sample among => countable_of_objectCount
      (Nat.lt_of_le_of_lt (Json.objectCount_le_items among) few)
  have nothing : Within 0 empty := Everywhere.empty
  have room : 0 + Json.itemsObjectCount samples < 2 ^ 64 := by rwa [Nat.zero_add]
  exact ⟨(nothing.joinAll (fun sample among => (each sample among).2) room).1,
    fun sample among => (each sample among).1⟩

/-- At every position the evidence of a sequence of samples counts what stands there, and it has
every position at which something stands. A field is in one of the objects of its position at least
and in no more than there are, and these are no more than all objects of the samples. Something was
seen of every field, so each is lowered to a shape. While the samples hold fewer objects than there
are words, no sum of counts leaves the words and every count is its number. -/
theorem counters_exact {samples : List Json} (distinct : ∀ sample ∈ samples, sample.Distinct) :
    let evidence := (Inference.start.observeAll samples).evidence
    (∀ position, valuesAt position samples ≠ [] → (evidence.at? position).isSome) ∧
    (∀ position found, evidence.at? position = some found →
      found.Counts (valuesAt position samples) ∧
      ∀ objects, found.objects = some objects →
        let members := Samples.objects (valuesAt position samples)
        members.length ≤ Json.itemsObjectCount samples ∧
        (∀ field ∈ objects.fields,
          1 ≤ Samples.holders field.1 members ∧
          Samples.holders field.1 members ≤ members.length ∧
          field.2.evidence.isBottom = false ∧
          (field.2.evidence.shape? (field.2.count < objects.seen)).isSome) ∧
        (Json.itemsObjectCount samples < 2 ^ 64 →
          objects.seen.toNat = members.length ∧
          ∀ field ∈ objects.fields,
            field.2.count.toNat = Samples.holders field.1 members ∧
            1 ≤ field.2.count ∧ field.2.count ≤ objects.seen)) ∧
    (Json.itemsObjectCount samples < 2 ^ 64 →
      empty.AllFit samples ∧ ∀ sample ∈ samples, sample.Countable) := by
  intro evidence
  have joined : evidence = joinAll empty samples := Inference.evidence_observeAll .start samples
  rw [joined]
  refine ⟨fun position some => ?_, fun position found here => ?_, allFit_of_few⟩
  · exact Option.isSome_iff_exists.mpr (exists_at? distinct some)
  · have same : found = tally (valuesAt position samples) := by
      rw [at?_joinAll distinct here, joinAll_tally (Samples.distinct_valuesAt distinct position)]
    rw [same]
    refine ⟨counts_tally _, fun objects there => ?_⟩
    have total : (Samples.objects (valuesAt position samples)).length ≤
        Json.itemsObjectCount samples :=
      Nat.le_trans (Samples.length_objects_le _) (Samples.objectCount_valuesAt_le position samples)
    refine ⟨total, fun field among => ?_, fun small => ?_⟩
    · obtain ⟨positive, bound⟩ := field_count_le there among
      exact ⟨positive, bound, field_isSome_shape? there among _⟩
    · exact exact_of_few there (Nat.lt_of_le_of_lt total small)

/-- The rows of two samples stand at one position, where three objects are counted, two of which
have a mark. -/
theorem counters_exact_rows :
    let samples : List Json :=
      [.object [("rows", .array [.object [("id", .null)], .object [("mark", .bool true)]])], .null,
        .object [("rows", .array [.object [("mark", .null), ("id", .null)], .string "none"])]]
    let position : List Descent := [.field "rows", .element]
    (∀ sample ∈ samples, sample.Distinct) ∧ Json.itemsObjectCount samples < 2 ^ 64 ∧
      empty.AllFit samples ∧
      ∃ found objects, (Inference.start.observeAll samples).evidence.at? position = some found ∧
        found.objects = some objects ∧ found.string = true ∧ objects.seen.toNat = 3 ∧
        ∀ field ∈ objects.fields, field.1 = "mark" → field.2.count.toNat = 2 := by
  intro samples position
  have distinct : ∀ sample ∈ samples, sample.Distinct := by
    simp [samples, Json.Distinct, Json.DistinctMembers, Json.DistinctItems, Fields.Distinct]
  have small : Json.itemsObjectCount samples < 2 ^ 64 := by decide
  obtain ⟨there, counts, fits⟩ := counters_exact distinct
  have stands : valuesAt position samples =
      [.object [("id", .null)], .object [("mark", .bool true)],
        .object [("mark", .null), ("id", .null)], .string "none"] := rfl
  obtain ⟨found, here⟩ := Option.isSome_iff_exists.mp
    (there position (by rw [stands]; exact List.cons_ne_nil _ _))
  obtain ⟨counted, exactly⟩ := counts position found here
  rw [stands] at counted exactly
  obtain ⟨objects, held⟩ := Option.isSome_iff_exists.mp
    (counted.object.mpr ⟨_, List.mem_cons_self⟩)
  obtain ⟨seen, each⟩ := (exactly objects held).2.2 small
  refine ⟨distinct, small, (fits small).1, found, objects, here, held, ?_, seen, ?_⟩
  · exact counted.string.mpr ⟨"none", by simp⟩
  · intro field among mark
    rw [(each field among).1, mark]
    rfl

end Evidence

end JsonShape
