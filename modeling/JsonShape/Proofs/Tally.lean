import JsonShape.Proofs.Associativity
import JsonShape.Proofs.Coverage
import JsonShape.Proofs.Samples

/-!
# Evidence counts its samples

Evidence is joined from one sample after the other, and groups nothing. It is nevertheless what the
groups of the samples give: a name is counted once for each object that has it, in order of first
appearance, with the joined evidence of the values under it, and the elements of all arrays are
joined as if they were one array's.
-/
namespace JsonShape.Evidence

open Samples (names values)

/-- The occurrences of a name in some objects. -/
def tallied (objects : List (List (String × Json))) (name : String) :
    String × Occurrence Evidence :=
  (name, ⟨.ofNat (values name objects).length, joinAll empty (values name objects)⟩)

/-- What some objects give, counted name by name. -/
def tallyObjects (objects : List (List (String × Json))) : Objects Evidence :=
  ⟨.ofNat objects.length, (names objects).map (tallied objects)⟩

/-- What samples give, counted group by group. -/
def tally (samples : List Json) : Evidence where
  nullable := samples.any Json.isNull
  bool := Samples.occurs .boolean samples
  number := Samples.occurs .number samples
  string := Samples.occurs .string samples
  items :=
    match Samples.arrays samples with
    | [] => none
    | arrays => some (joinAll empty arrays.flatten)
  objects :=
    match Samples.objects samples with
    | [] => none
    | objects => some (tallyObjects objects)

/-! ## One more sample -/

/-- A name has one occurrence in an object that has it. -/
theorem get?_ofMembers (name : String) (members : List (String × Json)) :
    Fields.get? name (ofMembers members) =
      (Fields.get? name members).map fun value => ⟨1, ofJson value⟩ := by
  rw [ofMembers_eq_map, Fields.get?_map fun _ value => (⟨1, ofJson value⟩ : Occurrence Evidence)]

/-- An object adds the fields whose names are new. -/
theorem newFields_ofMembers (fields : List (String × Occurrence Evidence))
    (members : List (String × Json)) :
    newFields fields (ofMembers members) =
      ofMembers (members.filter fun member => member.1 ∉ Fields.names fields) := by
  rw [newFields, ofMembers_eq_map, ofMembers_eq_map, List.filter_map]
  refine congrArg (List.map _) (List.filter_congr fun member _ => ?_)
  rw [Bool.eq_iff_iff, Function.comp_apply, Option.isNone_iff_eq_none, Fields.get?_eq_none_iff]
  simp

/-- Tallied names keep their order. -/
theorem names_tallied (objects : List (List (String × Json))) :
    Fields.names ((names objects).map (tallied objects)) = names objects := by
  simp [Fields.names, tallied, Function.comp_def]

/-- A further object adds what it has under a name, if anything, behind the others. -/
theorem joinAll_values_append (name : String) (objects : List (List (String × Json)))
    (members : List (String × Json)) :
    joinAll empty (values name (objects ++ [members])) =
      (joinAll empty (values name objects)).joinAll (Fields.get? name members).toList := by
  rw [Samples.values_append, joinAll_append]

/-- One more object is counted under each of its names. -/
theorem joinedObjects_tallyObjects {members : List (String × Json)}
    (distinct : Fields.Distinct members) (objects : List (List (String × Json))) :
    joinedObjects (tallyObjects objects) ⟨1, ofMembers members⟩ =
      tallyObjects (objects ++ [members]) := by
  have old : ((names objects).map (tallied objects)).map (joinedField (ofMembers members)) =
      (names objects).map (tallied (objects ++ [members])) := by
    rw [List.map_map]
    refine List.map_congr_left fun name _ => ?_
    have again := get?_ofMembers name members
    rw [Function.comp_apply, joinedField_eq, tallied, tallied, again, joinAll_values_append,
      Samples.values_append]
    cases Fields.get? name members with
    | none => simp [joinAll]
    | some value => simp [joinAll, joinedOccurrence, UInt64.ofNat_add]
  have new : newFields ((names objects).map (tallied objects)) (ofMembers members) =
      (Fields.names (members.filter fun member => member.1 ∉ names objects)).map
        (tallied (objects ++ [members])) := by
    rw [newFields_ofMembers, names_tallied, ofMembers_eq_map, Fields.names, List.map_map]
    refine List.map_congr_left fun member among => ?_
    obtain ⟨there, new⟩ := List.mem_filter.mp among
    have found := Fields.get?_of_mem distinct there
    have none := Samples.values_eq_nil_iff.mpr (of_decide_eq_true new)
    simp [tallied, Samples.values_append, none, found, joinAll, empty_join]
  have seen : UInt64.ofNat objects.length + 1 = UInt64.ofNat (objects ++ [members]).length := by
    rw [List.length_append]
    exact (UInt64.ofNat_add _ _).symm
  rw [joinedObjects, joinFields_eq_map, tallyObjects, tallyObjects, old, new, seen,
    Samples.names_append distinct, List.map_append]

/-- The elements of one more array come behind those of other arrays. -/
theorem joinItems_arrays (arrays : List (List Json)) (items : Option (List Json)) :
    joinItems
        (match arrays with | [] => none | arrays => some (joinAll empty arrays.flatten))
        (items.map (joinAll empty)) =
      match arrays ++ items.toList with
      | [] => none
      | arrays => some (joinAll empty arrays.flatten) := by
  cases items with
  | none => cases arrays <;> simp [joinItems]
  | some items =>
    cases arrays with
    | nil => simp [joinItems]
    | cons first rest =>
      have behind : ((first :: rest) ++ [items]).flatten = (first :: rest).flatten ++ items := by
        simp
      show some _ = some (joinAll empty ((first :: rest) ++ [items]).flatten)
      rw [behind, joinAll_append, ← join_joinAll (joinAll empty (first :: rest).flatten)]

/-- One more object is counted whether or not there were others. -/
theorem joinObjects_objects {members : Option (List (String × Json))}
    (distinct : ∀ some ∈ members, Fields.Distinct some)
    (objects : List (List (String × Json))) :
    joinObjects (match objects with | [] => none | objects => some (tallyObjects objects))
        (members.map fun members => ⟨1, ofMembers members⟩) =
      match objects ++ members.toList with
      | [] => none
      | objects => some (tallyObjects objects) := by
  cases members with
  | none => cases objects <;> simp [joinObjects]
  | some members =>
    have counted := joinedObjects_tallyObjects (distinct members rfl) objects
    cases objects with
    | nil =>
      have nothing : joinedObjects (tallyObjects []) ⟨1, ofMembers members⟩ =
          ⟨1, ofMembers members⟩ := by
        simp [joinedObjects, tallyObjects, names, joinFields, newFields]
      show some _ = some (tallyObjects ([] ++ [members]))
      rw [← counted, nothing]
    | cons first rest =>
      show some _ = some (tallyObjects ((first :: rest) ++ [members]))
      rw [← counted]
      rfl

/-- One value gives what it is. -/
theorem ofJson_eq (value : Json) :
    ofJson value =
      ⟨value.isNull, Kind.ofSlot (some value) = .boolean, Kind.ofSlot (some value) = .number,
        Kind.ofSlot (some value) = .string, value.items?.map (joinAll empty),
        value.members?.map fun members => ⟨1, ofMembers members⟩⟩ := by
  cases value with
  | scalar value => cases value <;> rfl
  | array items => rfl
  | object members => rfl

/-- One more sample is counted in its group. -/
theorem join_tally {sample : Json} (distinct : sample.Distinct) (samples : List Json) :
    (tally samples).join (ofJson sample) = tally (samples ++ [sample]) := by
  have arrays : Samples.arrays (samples ++ [sample]) =
      Samples.arrays samples ++ sample.items?.toList := by
    cases found : sample.items? <;> simp [Samples.arrays, found]
  have objects : Samples.objects (samples ++ [sample]) =
      Samples.objects samples ++ sample.members?.toList := by
    cases found : sample.members? <;> simp [Samples.objects, found]
  have names : ∀ members ∈ sample.members?, Fields.Distinct members := by
    intro members there
    cases sample with
    | object found =>
      cases there
      exact (Json.distinct_object_iff.mp distinct).1
    | scalar value => cases there
    | array items => cases there
  rw [ofJson_eq]
  refine eq_of_parts ?_ ?_ ?_ ?_ ?_ ?_
  · simp [tally]
  · simp [tally, Samples.occurs]
  · simp [tally, Samples.occurs]
  · simp [tally, Samples.occurs]
  · rw [join_items, tally, joinItems_arrays, ← arrays]
    rfl
  · rw [join_objects, tally, joinObjects_objects names, ← objects]
    rfl

/-- The evidence of samples is what their groups give. -/
theorem joinAll_tally {samples : List Json} (distinct : ∀ sample ∈ samples, sample.Distinct) :
    joinAll empty samples = tally samples := by
  have behind : ∀ seen : List Json, (tally seen).joinAll samples = tally (seen ++ samples) := by
    induction samples with
    | nil =>
      intro seen
      rw [List.append_nil]
      rfl
    | cons sample rest ih =>
      intro seen
      rw [joinAll, join_tally (distinct sample List.mem_cons_self),
        ih fun other among => distinct other (List.mem_cons_of_mem _ among), List.append_assoc]
      rfl
  exact behind []

end JsonShape.Evidence
