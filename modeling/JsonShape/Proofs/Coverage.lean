import JsonShape.Proofs.Counters
import JsonShape.Proofs.Lowering

/-!
# Inferred shapes accept their samples

Joining more samples can tighten a shape: an array of anything becomes an array of strings, and new
fields are declared. So acceptance itself is no invariant. What is kept is that evidence covers a
value: it has the value's kind, covers its elements and members, and has counted the value among
the objects, so that a field which the value lacks occurs in fewer objects than there were.
Evidence that covers a value is lowered to a shape that accepts it.
-/
namespace JsonShape

namespace Evidence

/-- Evidence that has taken a value into account. -/
inductive Covers : Evidence → Json → Prop where
  /-- Null occurred. -/
  | null {evidence : Evidence} : evidence.nullable → Covers evidence .null
  /-- A truth value occurred. -/
  | bool {evidence : Evidence} (value : Bool) : evidence.bool → Covers evidence (.bool value)
  /-- A number occurred. -/
  | number {evidence : Evidence} (value : Number) :
      evidence.number → Covers evidence (.number value)
  /-- A string occurred. -/
  | string {evidence : Evidence} (value : String) :
      evidence.string → Covers evidence (.string value)
  /-- An array occurred, and each element was taken into account. -/
  | array {evidence elements : Evidence} {items : List Json} : evidence.items = some elements →
      (∀ item ∈ items, Covers elements item) → Covers evidence (.array items)
  /-- An object occurred, each member was taken into account, and each field that the object lacks
  was counted less often than the objects. -/
  | object {evidence : Evidence} {objects : Objects Evidence} {members : List (String × Json)} :
      evidence.objects = some objects → 0 < objects.seen →
      (∀ name ∈ Fields.names members, name ∈ Fields.names objects.fields) →
      (∀ field ∈ objects.fields, ∀ value, Fields.get? field.1 members = some value →
        Covers field.2.evidence value) →
      (∀ field ∈ objects.fields, Fields.get? field.1 members = none →
        field.2.count < objects.seen) →
      Covers evidence (.object members)

/-! ## Coverage is kept -/

/-- Fields that were counted less often than the objects of a first lot are so in both lots as
one, when there was an object in the first. -/
theorem fewer_joined_left {objects others : Objects Evidence} (lacking : String → Prop)
    (fits : ObjectsFit objects others) (seen : 0 < objects.seen)
    (fewer : ∀ field ∈ objects.fields, lacking field.1 → field.2.count < objects.seen)
    (counts : ∀ field ∈ others.fields, field.2.count ≤ others.seen) :
    ∀ field ∈ (joinedObjects objects others).fields, lacking field.1 →
      field.2.count < (joinedObjects objects others).seen := by
  intro field among lacks
  have total : (joinedObjects objects others).seen.toNat =
      objects.seen.toNat + others.seen.toNat := fits.1.toNat_add
  rw [UInt64.lt_iff_toNat_lt, total]
  rcases mem_joinedObjects among with ⟨old, _⟩ | ⟨part, old, other, shared, rfl⟩ | ⟨new, _⟩
  · have less := UInt64.lt_iff_toNat_lt.mp (fewer field old lacks)
    omega
  · have less := UInt64.lt_iff_toNat_lt.mp (fewer part old lacks)
    have bound : other.count.toNat ≤ others.seen.toNat :=
      UInt64.le_iff_toNat_le.mp (counts _ (Fields.mem_of_get? shared))
    rw [(fits.2 part old other shared).toNat_add]
    omega
  · have bound := UInt64.le_iff_toNat_le.mp (counts field new)
    have positive : 0 < objects.seen.toNat := UInt64.lt_iff_toNat_lt.mp seen
    omega

/-- Fields that were counted less often than the objects of a second lot are so in both lots as
one, when there was an object in the second. -/
theorem fewer_joined_right {objects others : Objects Evidence} (lacking : String → Prop)
    (fits : ObjectsFit objects others) (seen : 0 < others.seen)
    (counts : ∀ field ∈ objects.fields, field.2.count ≤ objects.seen)
    (fewer : ∀ field ∈ others.fields, lacking field.1 → field.2.count < others.seen) :
    ∀ field ∈ (joinedObjects objects others).fields, lacking field.1 →
      field.2.count < (joinedObjects objects others).seen := by
  intro field among lacks
  have total : (joinedObjects objects others).seen.toNat =
      objects.seen.toNat + others.seen.toNat := fits.1.toNat_add
  rw [UInt64.lt_iff_toNat_lt, total]
  rcases mem_joinedObjects among with ⟨old, _⟩ | ⟨part, old, other, shared, rfl⟩ | ⟨new, _⟩
  · have bound := UInt64.le_iff_toNat_le.mp (counts field old)
    have positive : 0 < others.seen.toNat := UInt64.lt_iff_toNat_lt.mp seen
    omega
  · have bound := UInt64.le_iff_toNat_le.mp (counts part old)
    have less : other.count.toNat < others.seen.toNat :=
      UInt64.lt_iff_toNat_lt.mp (fewer _ (Fields.mem_of_get? shared) lacks)
    rw [(fits.2 part old other shared).toNat_add]
    omega
  · have less := UInt64.lt_iff_toNat_lt.mp (fewer field new lacks)
    omega

/-- There were objects in two lots when there were in one of them. -/
theorem seen_joinedObjects {objects others : Objects Evidence} (fits : ObjectsFit objects others)
    (seen : 0 < objects.seen ∨ 0 < others.seen) : 0 < (joinedObjects objects others).seen := by
  have total : (joinedObjects objects others).seen.toNat =
      objects.seen.toNat + others.seen.toNat := fits.1.toNat_add
  rw [UInt64.lt_iff_toNat_lt, total]
  simp only [UInt64.lt_iff_toNat_lt, UInt64.toNat_zero] at seen ⊢
  omega

/-- What a first lot covers is covered by its join with any other. -/
theorem Covers.join_left {left right : Evidence} {value : Json} (covers : left.Covers value)
    (bounded : right.Bounded) (fits : left.SumsFit right) : (left.join right).Covers value := by
  induction covers generalizing right with
  | null seen => exact .null (by simp [seen])
  | bool value seen => exact .bool value (by simp [seen])
  | number value seen => exact .number value (by simp [seen])
  | string value seen => exact .string value (by simp [seen])
  | @array left elements items here covered ih =>
    obtain ⟨boundedItems, _, _⟩ := bounded
    obtain ⟨fitsItems, _, _⟩ := fits
    cases also : right.items with
    | none => exact .array (by simp [here, also, joinItems]) covered
    | some others =>
      exact .array (by simp [here, also, joinItems]) fun item among =>
        ih item among (boundedItems others also) (fitsItems elements others here also)
  | @object left objects members here seen names covered fewer ih =>
    obtain ⟨_, counts, boundedFields⟩ := bounded
    obtain ⟨_, fitsObjects, fitsFields⟩ := fits
    cases also : right.objects with
    | none => exact .object (by simp [here, also, joinObjects]) seen names covered fewer
    | some others =>
      have sums := fitsObjects objects others here also
      have whole : (left.join right).objects = some (joinedObjects objects others) := by
        simp [here, also, joinObjects, joinedObjects]
      refine .object whole (seen_joinedObjects sums (.inl seen))
        (fun name among => mem_names_joinedObjects.mpr (.inl (names name among))) ?_
        (fewer_joined_left (fun name => Fields.get? name members = none) sums seen fewer
          (counts others also))
      intro field among value found
      rcases mem_joinedObjects among with ⟨old, _⟩ | ⟨part, old, other, shared, rfl⟩ | ⟨_, new⟩
      · exact covered field old value found
      · exact ih part old value found (boundedFields others also _ (Fields.mem_of_get? shared))
          (fitsFields objects others here also part old other shared)
      · have there := names _ (Fields.get?_isSome_iff.mp (Option.isSome_of_mem found))
        exact absurd there (Fields.get?_eq_none_iff.mp new)

/-- What a second lot covers is covered by the join of any other with it. -/
theorem Covers.join_right {left right : Evidence} {value : Json} (covers : right.Covers value)
    (bounded : left.Bounded) (fits : left.SumsFit right) : (left.join right).Covers value := by
  induction covers generalizing left with
  | null seen => exact .null (by simp [seen])
  | bool value seen => exact .bool value (by simp [seen])
  | number value seen => exact .number value (by simp [seen])
  | string value seen => exact .string value (by simp [seen])
  | @array right elements items here covered ih =>
    obtain ⟨boundedItems, _, _⟩ := bounded
    obtain ⟨fitsItems, _, _⟩ := fits
    cases also : left.items with
    | none => exact .array (by simp [here, also, joinItems]) covered
    | some others =>
      exact .array (by simp [here, also, joinItems]) fun item among =>
        ih item among (boundedItems others also) (fitsItems others elements also here)
  | @object right objects members here seen names covered fewer ih =>
    obtain ⟨_, counts, boundedFields⟩ := bounded
    obtain ⟨_, fitsObjects, fitsFields⟩ := fits
    cases also : left.objects with
    | none => exact .object (by simp [here, also, joinObjects]) seen names covered fewer
    | some others =>
      have sums := fitsObjects others objects also here
      have whole : (left.join right).objects = some (joinedObjects others objects) := by
        simp [here, also, joinObjects, joinedObjects]
      refine .object whole (seen_joinedObjects sums (.inr seen))
        (fun name among => mem_names_joinedObjects.mpr (.inr (names name among))) ?_
        (fewer_joined_right (fun name => Fields.get? name members = none) sums seen
          (counts others also) fewer)
      intro field among value found
      rcases mem_joinedObjects among with ⟨_, only⟩ | ⟨part, old, other, shared, rfl⟩ | ⟨new, _⟩
      · have there := names _ (Fields.get?_isSome_iff.mp (Option.isSome_of_mem found))
        exact absurd there (Fields.get?_eq_none_iff.mp only)
      · exact ih _ (Fields.mem_of_get? shared) value found (boundedFields others also part old)
          (fitsFields others objects also here part old other shared)
      · exact covered field new value found

/-- What is covered stays covered while more values are joined. -/
theorem Covers.joinAll {start : Evidence} {value : Json} {items : List Json}
    (covers : start.Covers value) (each : ∀ item ∈ items, item.Countable)
    (fits : start.AllFit items) : (start.joinAll items).Covers value := by
  induction items generalizing start with
  | nil => exact covers
  | cons item rest ih =>
    exact ih (covers.join_left (bounded_ofJson (each item List.mem_cons_self)) fits.1)
      (fun other among => each other (List.mem_cons_of_mem _ among)) fits.2

/-- Evidence of values joined one after the other covers each of them. -/
theorem covers_joinAll {start : Evidence} {items : List Json} (bounded : start.Bounded)
    (each : ∀ item ∈ items, item.Countable) (self : ∀ item ∈ items, (ofJson item).Covers item)
    (fits : start.AllFit items) : ∀ item ∈ items, (start.joinAll items).Covers item := by
  induction items generalizing start with
  | nil => exact fun _ none => by cases none
  | cons first rest ih =>
    have others : ∀ item ∈ rest, item.Countable :=
      fun item among => each item (List.mem_cons_of_mem _ among)
    have boundedFirst := bounded_ofJson (each first List.mem_cons_self)
    intro item among
    rcases List.mem_cons.mp among with rfl | later
    · exact ((self item List.mem_cons_self).join_right bounded fits.1).joinAll others fits.2
    · exact ih (bounded.join boundedFirst fits.1) others
        (fun item among => self item (List.mem_cons_of_mem _ among)) fits.2 item later

/-- Evidence of a value covers it. -/
theorem covers_ofJson {value : Json} (distinct : value.Distinct) (countable : value.Countable) :
    (ofJson value).Covers value := by
  induction countable with
  | scalar value =>
    cases value with
    | null => exact .null rfl
    | bool value => exact .bool value rfl
    | number value => exact .number value rfl
    | string value => exact .string value rfl
  | array each fits ih =>
    have parts := Json.distinct_array_iff.mp distinct
    exact .array rfl (covers_joinAll Everywhere.empty each
      (fun item among => ih item among (parts item among)) fits)
  | @object members _ ih =>
    obtain ⟨names, parts⟩ := Json.distinct_object_iff.mp distinct
    refine .object rfl (show (0 : UInt64) < 1 by decide) (fun name among => ?_)
      (fun field among value found => ?_) (fun field among lacking => ?_)
    · rwa [names_ofMembers]
    · rw [ofMembers_eq_map] at among
      obtain ⟨member, there, rfl⟩ := List.mem_map.mp among
      obtain rfl : member.2 = value :=
        Option.some.inj ((Fields.get?_of_mem names there).symm.trans found)
      exact ih member there (parts member there)
    · rw [ofMembers_eq_map] at among
      obtain ⟨member, there, rfl⟩ := List.mem_map.mp among
      rw [Fields.get?_of_mem names there] at lacking
      cases lacking

/-! ## Lowering -/

/-- Evidence that covers a value is lowered to a shape to which the value conforms. -/
theorem Covers.conforms {evidence : Evidence} {value : Json} (covers : evidence.Covers value)
    (optional : Bool) :
    ∃ shape, evidence.shape? optional = some shape ∧ Conforms shape (some value) := by
  induction covers generalizing optional with
  | null seen =>
    exact conforms_of_arm (mem_arms.mpr (.inr (.inr (.inr (.inr (.inr ⟨.inl seen, rfl⟩)))))) .null
  | bool value seen =>
    exact conforms_of_arm (mem_arms.mpr (.inr (.inr (.inl ⟨seen, rfl⟩)))) (.ofKind (.boolean value))
  | number value seen =>
    exact conforms_of_arm (mem_arms.mpr (.inr (.inl ⟨seen, rfl⟩))) (.ofKind (.number value))
  | string value seen =>
    exact conforms_of_arm (mem_arms.mpr (.inl ⟨seen, rfl⟩)) (.ofKind (.string value))
  | @array evidence elements items here _ ih =>
    refine conforms_of_arm
      (mem_arms.mpr (.inr (.inr (.inr (.inr (.inl ⟨elements, here, rfl⟩)))))) ?_
    unfold arrayShape
    split
    · exact .anyArray items
    · rename_i element lowered
      refine .array fun item among => ?_
      obtain ⟨shape, found, conforms⟩ := ih item among false
      obtain rfl : element = shape := Option.some.inj (lowered.symm.trans found)
      exact conforms
  | @object evidence objects members here _ _ _ fewer ih =>
    refine conforms_of_arm
      (mem_arms.mpr (.inr (.inr (.inr (.inl ⟨objects, here, rfl⟩)))))
      (.object fun field among => ?_)
    rw [fieldShapes_eq_map] at among
    obtain ⟨part, there, rfl⟩ := List.mem_map.mp among
    cases found : Fields.get? part.1 members with
    | none =>
      have less := fewer part there found
      obtain ⟨shape, lowered, conforms⟩ := absent_conforms part.2.evidence
      simpa [fieldShape, less, lowered, found] using conforms
    | some value =>
      obtain ⟨shape, lowered, conforms⟩ := ih part there value found (part.2.count < objects.seen)
      simpa [fieldShape, lowered, found] using conforms

/-- Evidence that covers a value is lowered to a shape that finds no failure in the value. -/
theorem Covers.validates {evidence : Evidence} {value : Json} (covers : evidence.Covers value) :
    ∃ shape, evidence.toShape? = some shape ∧ shape.validate value = [] := by
  obtain ⟨shape, lowered, conforms⟩ := covers.conforms false
  exact ⟨shape, lowered, Shape.check_of_conforms conforms⟩

end Evidence

/-! ## Samples -/

/-- Samples observed one after the other are joined one after the other. -/
theorem Inference.evidence_observeAll (inference : Inference) (values : List Json) :
    (inference.observeAll values).evidence = inference.evidence.joinAll values := by
  induction values generalizing inference with
  | nil => rfl
  | cons value rest ih => exact ih (inference.observe value)

/-- What can be observed of samples can be observed of the first of them. -/
theorem Evidence.AllFit.of_append {start : Evidence} {seen later : List Json}
    (fits : start.AllFit (seen ++ later)) : start.AllFit seen := by
  induction seen generalizing start with
  | nil => trivial
  | cons sample rest ih => exact ⟨fits.1, ih fits.2⟩

/-- Every one of some observed samples is covered by their evidence. -/
theorem Inference.covers_observeAll {samples : List Json}
    (distinct : ∀ sample ∈ samples, sample.Distinct)
    (each : ∀ sample ∈ samples, sample.Countable) (fits : Evidence.empty.AllFit samples) :
    ∀ sample ∈ samples, (start.observeAll samples).evidence.Covers sample := by
  rw [evidence_observeAll]
  exact Evidence.covers_joinAll Evidence.Everywhere.empty each
    (fun sample among => Evidence.covers_ofJson (distinct sample among) (each sample among)) fits

/-- A value joined on either side of some evidence is accepted by the shape of the join, and every
sample is accepted by the shape that is inferred from it and any samples before and after it, as
long as no sum of counts leaves the words. -/
theorem Shape.infer_accepts_observed :
    (∀ (value : Json) (evidence : Evidence), value.Distinct → value.Countable →
      evidence.Bounded →
      (evidence.SumsFit (.ofJson value) →
        ∃ shape, (evidence.join (.ofJson value)).toShape? = some shape ∧
          shape.validate value = []) ∧
      ((Evidence.ofJson value).SumsFit evidence →
        ∃ shape, ((Evidence.ofJson value).join evidence).toShape? = some shape ∧
          shape.validate value = [])) ∧
    ∀ samples seen : List Json, (∀ sample ∈ samples, sample.Distinct) →
      (∀ sample ∈ samples, sample.Countable) → Evidence.empty.AllFit samples →
      seen <+: samples → ∀ sample ∈ seen,
        ∃ shape, (Inference.start.observeAll seen).shape? = some shape ∧
          Shape.infer? seen = some shape ∧ shape.validate sample = [] := by
  constructor
  · intro value evidence distinct countable bounded
    have covers := Evidence.covers_ofJson distinct countable
    exact ⟨fun fits => (covers.join_right bounded fits).validates,
      fun fits => (covers.join_left bounded fits).validates⟩
  · rintro samples seen distinct countable fits ⟨later, rfl⟩ sample among
    have covers := Inference.covers_observeAll
      (fun sample among => distinct sample (List.mem_append_left _ among))
      (fun sample among => countable sample (List.mem_append_left _ among)) fits.of_append
      sample among
    obtain ⟨shape, lowered, valid⟩ := covers.validates
    exact ⟨shape, lowered, lowered, valid⟩

/-- Evidence of three objects accepts a further one of other fields, and an array that was empty
at first is accepted when its elements are known. -/
theorem Shape.infer_accepts_later_fields :
    let first : Json := .object [("id", .bool true), ("tags", .array [])]
    let second : Json := .object [("tags", .array [.string "x", .null])]
    let evidence : Evidence :=
      ⟨false, false, false, false, none, some ⟨3, [("name", ⟨2, .ofJson .null⟩)]⟩⟩
    evidence.Bounded ∧ evidence.SumsFit (.ofJson first) ∧
      (∃ shape, (evidence.join (.ofJson first)).toShape? = some shape ∧
        shape.validate first = []) ∧
      Evidence.empty.AllFit [first, second] ∧
      ∃ shape, Shape.infer? [first, second] = some shape ∧ shape.validate first = [] := by
  intro first second evidence
  have within : evidence.Within 3 := by
    refine .intro (fun _ none => by cases none) (fun objects there => ?_) (fun objects there => ?_)
    · obtain rfl : ⟨3, [("name", ⟨2, .ofJson .null⟩)]⟩ = objects := Option.some.inj there
      simp
    · obtain rfl : ⟨3, [("name", ⟨2, .ofJson .null⟩)]⟩ = objects := Option.some.inj there
      intro field among
      obtain rfl := List.mem_singleton.mp among
      exact Evidence.everywhere_ofScalar .null
  have bounded : evidence.Bounded := Evidence.Everywhere.mono (fun _ => And.right) within
  have firstDistinct : first.Distinct := by
    simp [first, Json.Distinct, Json.DistinctMembers, Json.DistinctItems, Fields.Distinct]
  have secondDistinct : second.Distinct := by
    simp [second, Json.Distinct, Json.DistinctMembers, Json.DistinctItems, Fields.Distinct]
  obtain ⟨firstCountable, firstWithin⟩ :=
    Evidence.countable_of_objectCount (show first.objectCount < 2 ^ 64 by decide)
  obtain ⟨secondCountable, secondWithin⟩ :=
    Evidence.countable_of_objectCount (show second.objectCount < 2 ^ 64 by decide)
  have fits : evidence.SumsFit (.ofJson first) := within.sumsFit (by decide) firstWithin
  have nothing : Evidence.empty.Within 0 := Evidence.Everywhere.empty
  have all : Evidence.empty.AllFit [first, second] :=
    (nothing.joinAll (by simp [firstWithin, secondWithin]) (by decide)).1
  obtain ⟨joins, sequences⟩ := Shape.infer_accepts_observed
  have accepted := (joins first evidence firstDistinct firstCountable bounded).1 fits
  refine ⟨bounded, fits, accepted, all, ?_⟩
  obtain ⟨shape, _, inferred, valid⟩ := sequences [first, second] [first, second]
    (by simp [firstDistinct, secondDistinct]) (by simp [firstCountable, secondCountable]) all
    (List.prefix_refl _) first List.mem_cons_self
  exact ⟨shape, inferred, valid⟩

end JsonShape
