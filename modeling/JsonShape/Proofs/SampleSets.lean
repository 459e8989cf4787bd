import JsonShape.Proofs.Grouping
import JsonShape.Proofs.Unordered

/-!
# Inference forgets order and repetition

The counters of evidence add up when samples are repeated, so it is no function of the set of
samples. The shape is: which kinds occur, which names there are and whether an object lacks one is
told by the set, and so are the sets of samples one level further in, to which the same law applies.
Values are compared without regard to the order of members.
-/
namespace JsonShape

namespace Json

variable {value other : Json}

/-- Of two equal values, both are null or neither is. -/
theorem isNull_of_same (same : value.same other) : value.isNull = other.isNull := by
  unfold Json.same at same
  split at same
  · rename_i first second
    cases first <;> cases second <;> first | rfl | cases same
  · rfl
  · rfl
  · cases same

/-- A value that equals an array is an array of elements that are equal one by one. -/
theorem same_array_left {items : List Json} (same : (Json.array items).same other) :
    ∃ others, other = .array others ∧
      List.Forall₂ (fun item other => item.same other) items others := by
  cases other with
  | array others => exact ⟨others, rfl, same_array_iff.mp same⟩
  | scalar value => simp [Json.same] at same
  | object members => simp [Json.same] at same

/-- A value that equals an object is an object in which each name has an equal value. -/
theorem same_object_left {members : List (String × Json)} (same : (Json.object members).same other)
    (distinct : (Json.object members).Distinct) (otherDistinct : other.Distinct) :
    ∃ others, other = .object others ∧
      Fields.Matched (fun value other => value.same other) members others := by
  cases other with
  | object others =>
    exact ⟨others, rfl, (same_object_iff (distinct_object_iff.mp distinct).1
      (distinct_object_iff.mp otherDistinct).1).mp same⟩
  | scalar value => simp [Json.same] at same
  | array items => simp [Json.same] at same

end Json

namespace Samples

variable {samples others : List Json}

/-- Every one of some samples equals one of other samples. -/
def Among (samples others : List Json) : Prop :=
  ∀ sample ∈ samples, ∃ other ∈ others, sample.same other

namespace Among

/-- Nothing is among no samples. -/
theorem eq_nil (among : Among samples others) (none : others = []) : samples = [] := by
  refine List.eq_nil_iff_forall_not_mem.mpr fun sample inside => ?_
  obtain ⟨other, also, _⟩ := among sample inside
  rw [none] at also
  cases also

/-- A kind that occurs among some samples occurs among the others. -/
theorem occurs (among : Among samples others) {kind : Kind} (there : Samples.occurs kind samples) :
    Samples.occurs kind others := by
  obtain ⟨sample, inside, here⟩ := List.any_eq_true.mp there
  obtain ⟨other, also, same⟩ := among sample inside
  refine List.any_eq_true.mpr ⟨other, also, ?_⟩
  rwa [← Json.kind_of_same same]

/-- If null is among some samples, it is among the others. -/
theorem null (among : Among samples others) (there : samples.any Json.isNull) :
    others.any Json.isNull := by
  obtain ⟨sample, inside, here⟩ := List.any_eq_true.mp there
  obtain ⟨other, also, same⟩ := among sample inside
  refine List.any_eq_true.mpr ⟨other, also, ?_⟩
  rwa [← Json.isNull_of_same same]

/-- An array among some samples has an equal one among the others. -/
theorem arrays (among : Among samples others) {items : List Json}
    (there : items ∈ Samples.arrays samples) : ∃ elements ∈ Samples.arrays others,
      List.Forall₂ (fun item other => item.same other) items elements := by
  obtain ⟨other, also, same⟩ := among _ (mem_arrays_iff.mp there)
  obtain ⟨elements, rfl, one⟩ := Json.same_array_left same
  exact ⟨elements, mem_arrays_iff.mpr also, one⟩

/-- Without arrays among the others there are none among the samples. -/
theorem arrays_eq_nil (among : Among samples others) (none : Samples.arrays others = []) :
    Samples.arrays samples = [] := by
  refine List.eq_nil_iff_forall_not_mem.mpr fun items there => ?_
  obtain ⟨elements, also, _⟩ := among.arrays there
  rw [none] at also
  cases also

/-- The elements of some samples are among those of the others. -/
theorem elements (among : Among samples others) :
    Among (Samples.arrays samples).flatten (Samples.arrays others).flatten := by
  intro item there
  obtain ⟨items, array, inside⟩ := List.mem_flatten.mp there
  obtain ⟨elements, also, one⟩ := among.arrays array
  obtain ⟨index, here, rfl⟩ := List.getElem_of_mem inside
  have within : index < elements.length := one.length_eq ▸ here
  exact ⟨elements[index], List.mem_flatten.mpr ⟨elements, also, List.getElem_mem within⟩,
    one.get here within⟩

section Objects

variable (distinct : ∀ sample ∈ samples, sample.Distinct)
  (otherDistinct : ∀ other ∈ others, other.Distinct)

include distinct otherDistinct

/-- An object among some samples has one with equal members among the others. -/
theorem objects (among : Among samples others) {members : List (String × Json)}
    (there : members ∈ Samples.objects samples) : ∃ other ∈ Samples.objects others,
      Fields.Matched (fun value other => value.same other) members other := by
  have inside := mem_objects_iff.mp there
  obtain ⟨other, also, same⟩ := among _ inside
  obtain ⟨found, rfl, matched⟩ :=
    Json.same_object_left same (distinct _ inside) (otherDistinct _ also)
  exact ⟨found, mem_objects_iff.mpr also, matched⟩

/-- Without objects among the others there are none among the samples. -/
theorem objects_eq_nil (among : Among samples others) (none : Samples.objects others = []) :
    Samples.objects samples = [] := by
  refine List.eq_nil_iff_forall_not_mem.mpr fun members there => ?_
  obtain ⟨other, also, _⟩ := among.objects distinct otherDistinct there
  rw [none] at also
  cases also

/-- A name of some samples is a name of the others. -/
theorem names (among : Among samples others) {name : String}
    (there : name ∈ Samples.names (Samples.objects samples)) :
    name ∈ Samples.names (Samples.objects others) := by
  obtain ⟨members, object, has⟩ := mem_names_iff.mp there
  obtain ⟨other, also, matched⟩ := among.objects distinct otherDistinct object
  refine mem_names_iff.mpr ⟨other, also, ?_⟩
  rw [Fields.get?_isSome_iff] at has ⊢
  exact (matched.mem_names_iff name).mp has

/-- A name that an object among some samples lacks is lacked among the others. -/
theorem lacked (among : Among samples others) {name : String}
    (there : Samples.lacked name (Samples.objects samples)) :
    Samples.lacked name (Samples.objects others) := by
  obtain ⟨members, object, lacks⟩ := List.any_eq_true.mp there
  obtain ⟨other, also, matched⟩ := among.objects distinct otherDistinct object
  refine List.any_eq_true.mpr ⟨other, also, ?_⟩
  rw [Option.isNone_iff_eq_none, Fields.get?_eq_none_iff] at lacks ⊢
  exact fun has => lacks ((matched.mem_names_iff name).mpr has)

/-- The samples of a name are among those that the others have of it. -/
theorem under (among : Among samples others) (name : String) :
    Among (Samples.under name (Samples.objects samples))
      (Samples.under name (Samples.objects others)) := by
  intro value there
  rcases List.mem_append.mp there with found | missing
  · obtain ⟨members, object, has⟩ := List.mem_filterMap.mp found
    obtain ⟨other, also, matched⟩ := among.objects distinct otherDistinct object
    rcases optionRel_iff.mp (matched name) with ⟨none, _⟩ | ⟨first, second, here, too, same⟩
    · cases has.symm.trans none
    · obtain rfl : value = first := Option.some.inj (has.symm.trans here)
      exact ⟨second, List.mem_append_left _ (List.mem_filterMap.mpr ⟨other, also, too⟩), same⟩
  · cases lacks : Samples.lacked name (Samples.objects samples) with
    | false => rw [lacks] at missing; cases missing
    | true =>
      rw [lacks, if_pos rfl] at missing
      obtain rfl := List.mem_singleton.mp missing
      have too := among.lacked distinct otherDistinct lacks
      refine ⟨.null, List.mem_append_right _ ?_, rfl⟩
      rw [too, if_pos rfl]
      exact List.mem_singleton_self _

end Objects

end Among

/-! ## The same set of samples -/

/-- The shape by groups is that of the alternatives as arms. -/
theorem shape?_eq_shapeOfArms (infer : List Json → Option Shape) (samples : List Json) :
    shape? infer samples = Evidence.shapeOfArms (alternatives infer samples) := by
  rw [shape?]
  rcases alternatives infer samples with _ | ⟨only, _ | ⟨second, rest⟩⟩ <;> rfl

/-- A name of some objects has the shape of its samples. -/
theorem get?_fields (infer : List Json → Option Shape) (name : String)
    (objects : List (List (String × Json))) :
    Fields.get? name (fields infer objects) =
      if name ∈ names objects then some ((infer (under name objects)).getD .null) else none := by
  rw [fields]
  induction names objects with
  | nil => rfl
  | cons first rest ih =>
    by_cases same : first = name
    · simp [Fields.get?, same]
    · simp [Fields.get?, same, Ne.symm same, ih]

/-- The fields by groups repeat no names. -/
theorem distinct_fields (infer : List Json → Option Shape)
    (objects : List (List (String × Json))) : Fields.Distinct (fields infer objects) := by
  have same : Fields.names (fields infer objects) = names objects := by
    simp [Fields.names, fields, Function.comp_def]
  rw [Fields.Distinct, same]
  exact nodup_eraseDups _

section Arms

variable (infer : List Json → Option Shape)

/-- Equal sets of samples have equal alternatives for objects, once their samples of each name have
equal shapes. -/
theorem same_objectArm (among : Among samples others) (back : Among others samples)
    (distinct : ∀ sample ∈ samples, sample.Distinct)
    (otherDistinct : ∀ other ∈ others, other.Distinct)
    (inside : ∀ name ∈ names (objects samples),
      Option.Rel (fun shape other => shape.same other) (infer (under name (objects samples)))
        (infer (under name (objects others)))) :
    List.Forall₂ (fun arm other => arm.same other)
      (if (objects samples).isEmpty then [] else [Shape.object (fields infer (objects samples))])
      (if (objects others).isEmpty then []
        else [Shape.object (fields infer (objects others))]) := by
  have empty : (objects samples).isEmpty = (objects others).isEmpty := by
    rw [Bool.eq_iff_iff, List.isEmpty_iff, List.isEmpty_iff]
    exact ⟨back.objects_eq_nil otherDistinct distinct, among.objects_eq_nil distinct otherDistinct⟩
  rw [← empty]
  split
  · exact .nil
  · refine .cons ((Shape.same_object_iff (distinct_fields _ _) (distinct_fields _ _)).mpr
      fun name => ?_) .nil
    rw [get?_fields, get?_fields]
    by_cases there : name ∈ names (objects samples)
    · rw [if_pos there, if_pos (among.names distinct otherDistinct there)]
      exact .some (Evidence.same_getD (inside name there))
    · have missing : name ∉ names (objects others) :=
        fun also => there (back.names otherDistinct distinct also)
      rw [if_neg there, if_neg missing]
      exact .none

/-- Equal sets of samples have equal alternatives for arrays, once their elements have equal
shapes. -/
theorem same_arrayArm (among : Among samples others) (back : Among others samples)
    (inside : (arrays samples).flatten ≠ [] →
      Option.Rel (fun shape other => shape.same other) (infer (arrays samples).flatten)
        (infer (arrays others).flatten)) :
    List.Forall₂ (fun arm other => arm.same other)
      (if (arrays samples).isEmpty then [] else [array infer (arrays samples)])
      (if (arrays others).isEmpty then [] else [array infer (arrays others)]) := by
  have empty : (arrays samples).isEmpty = (arrays others).isEmpty := by
    rw [Bool.eq_iff_iff, List.isEmpty_iff, List.isEmpty_iff]
    exact ⟨back.arrays_eq_nil, among.arrays_eq_nil⟩
  have bare : (arrays samples).flatten.isEmpty = (arrays others).flatten.isEmpty := by
    rw [Bool.eq_iff_iff, List.isEmpty_iff, List.isEmpty_iff]
    exact ⟨back.elements.eq_nil, among.elements.eq_nil⟩
  rw [← empty]
  split
  · exact .nil
  · refine .cons ?_ .nil
    rw [array, array, ← bare]
    split
    · rfl
    · rename_i some
      exact Evidence.same_getD (inside fun none => some (List.isEmpty_iff.mpr none))

/-- The law gives equal sets of samples equal shapes, once it has done so one level further in. -/
theorem same_shape? (among : Among samples others) (back : Among others samples)
    (distinct : ∀ sample ∈ samples, sample.Distinct)
    (otherDistinct : ∀ other ∈ others, other.Distinct)
    (fields : ∀ name ∈ names (objects samples),
      Option.Rel (fun shape other => shape.same other) (infer (under name (objects samples)))
        (infer (under name (objects others))))
    (elements : (arrays samples).flatten ≠ [] →
      Option.Rel (fun shape other => shape.same other) (infer (arrays samples).flatten)
        (infer (arrays others).flatten)) :
    Option.Rel (fun shape other => shape.same other) (shape? infer samples)
      (shape? infer others) := by
  have kinds (kind : Kind) : occurs kind samples = occurs kind others :=
    Bool.eq_iff_iff.mpr ⟨among.occurs, back.occurs⟩
  have nulls : samples.any Json.isNull = others.any Json.isNull :=
    Bool.eq_iff_iff.mpr ⟨among.null, back.null⟩
  have objectArms := same_objectArm infer among back distinct otherDistinct fields
  have arrayArms := same_arrayArm infer among back elements
  rw [shape?_eq_shapeOfArms, shape?_eq_shapeOfArms, alternatives, alternatives, kinds, kinds,
    kinds, nulls]
  exact Evidence.same_shapeOfKinds _ _ _ _ objectArms arrayArms

end Arms

end Samples

/-- Two sequences of samples in which the same values occur, whatever their order, the order of
their members and how often each is repeated, have no shape both or shapes that are the same up to
the order of fields. Objects name no field twice, and no position of either sequence holds as many
objects as there are words. -/
theorem Shape.infer?_of_same_set (samples others : List Json)
    (distinct : ∀ sample ∈ samples, sample.Distinct)
    (otherDistinct : ∀ other ∈ others, other.Distinct)
    (countable : Samples.Countable samples) (otherCountable : Samples.Countable others)
    (among : Samples.Among samples others) (back : Samples.Among others samples) :
    Option.Rel (fun shape other => shape.same other) (Shape.infer? samples)
      (Shape.infer? others) := by
  induction countable generalizing others with
  | @intro samples few _ _ ihFields ihElements =>
    obtain ⟨otherFew, otherFields, otherElements⟩ := otherCountable
    rw [Samples.infer?_eq_shape? distinct few, Samples.infer?_eq_shape? otherDistinct otherFew]
    refine Samples.same_shape? Shape.infer? among back distinct otherDistinct
      (fun name there => ?_) (fun some => ?_)
    · exact ihFields name there _ (Samples.distinct_under distinct name)
        (Samples.distinct_under otherDistinct name)
        (otherFields name (among.names distinct otherDistinct there))
        (among.under distinct otherDistinct name) (back.under otherDistinct distinct name)
    · exact ihElements some _ (Samples.distinct_elements distinct)
        (Samples.distinct_elements otherDistinct)
        (otherElements fun none => some (among.elements.eq_nil none)) among.elements back.elements

/-- An object that occurs once, or twice with its members in another order and its zero of the other
sign, beside an object that lacks a name. -/
theorem Shape.infer?_of_same_set_repeated :
    let zero (negative : Bool) : Json := .number (.double (.zero negative))
    let samples : List Json :=
      [.object [("id", zero true)], .null, .object [("id", zero false), ("tags", .array [])]]
    let others : List Json :=
      [.object [("tags", .array []), ("id", zero true)], .object [("id", zero false)],
        .object [("id", zero true), ("tags", .array [])], .null]
    let shape : Shape :=
      .union [.object [("id", .number), ("tags", .union [.anyArray, .null])], .null]
    let other : Shape :=
      .union [.object [("tags", .union [.anyArray, .null]), ("id", .number)], .null]
    (∀ sample ∈ samples, sample.Distinct) ∧ (∀ other ∈ others, other.Distinct) ∧
      Samples.Countable samples ∧ Samples.Countable others ∧
      Samples.Among samples others ∧ Samples.Among others samples ∧
      Shape.infer? samples = some shape ∧ Shape.infer? others = some other ∧
      shape.same other := by
  intro zero samples others shape other
  have distinct : ∀ sample ∈ samples, sample.Distinct := by
    simp [samples, zero, Json.Distinct, Json.DistinctMembers, Json.DistinctItems, Fields.Distinct]
  have otherDistinct : ∀ other ∈ others, other.Distinct := by
    simp [others, zero, Json.Distinct, Json.DistinctMembers, Json.DistinctItems, Fields.Distinct]
  have countable : Samples.Countable samples :=
    Samples.countable_of_objectCount (show Json.itemsObjectCount samples < 2 ^ 64 by decide)
  have otherCountable : Samples.Countable others :=
    Samples.countable_of_objectCount (show Json.itemsObjectCount others < 2 ^ 64 by decide)
  have among : ∀ sample ∈ samples, ∃ other ∈ others, sample.same other := by decide
  have back : ∀ other ∈ others, ∃ sample ∈ samples, other.same sample := by decide
  have here : Shape.infer? samples = some shape := rfl
  have there : Shape.infer? others = some other := rfl
  have shapes := Shape.infer?_of_same_set samples others distinct otherDistinct countable
    otherCountable among back
  rw [here, there] at shapes
  cases shapes with
  | some same =>
    exact ⟨distinct, otherDistinct, countable, otherCountable, among, back, here, there, same⟩

end JsonShape
