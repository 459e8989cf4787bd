import JsonShape.Proofs.Counters

/-!
# Groups of samples

Samples are grouped by what they are: the objects among them, with the names of those and the
values under each name, and the arrays, with their elements. The samples of a name and the elements
are samples again, one level further in.
-/
namespace JsonShape

namespace Json

/-- The members of an object. -/
def members? : Json → Option (List (String × Json))
  | .object members => some members
  | _ => none

/-- The elements of an array. -/
def items? : Json → Option (List Json)
  | .array items => some items
  | _ => none

/-- Whether a value is null. -/
def isNull : Json → Bool
  | .null => true
  | _ => false

end Json

namespace Samples

/-- Whether one of some samples is of a kind. -/
def occurs (kind : Kind) (samples : List Json) : Bool :=
  samples.any fun sample => Kind.ofSlot (some sample) = kind

/-- The objects among samples, as their members. -/
def objects (samples : List Json) : List (List (String × Json)) :=
  samples.filterMap Json.members?

/-- The arrays among samples, as their elements. -/
def arrays (samples : List Json) : List (List Json) :=
  samples.filterMap Json.items?

/-- The names in some objects, in order of first appearance. -/
def names (objects : List (List (String × Json))) : List String :=
  (objects.flatMap Fields.names).eraseDups

/-- The values that some objects have under a name. -/
def values (name : String) (objects : List (List (String × Json))) : List Json :=
  objects.filterMap (Fields.get? name)

/-- Whether one of some objects lacks a name. -/
def lacked (name : String) (objects : List (List (String × Json))) : Bool :=
  objects.any fun members => (Fields.get? name members).isNone

/-- The samples of a name: the values under it, and null behind them if an object lacks it. -/
def under (name : String) (objects : List (List (String × Json))) : List Json :=
  values name objects ++ if lacked name objects then [.null] else []

/-- At no position of some samples are there as many objects as words, so no count overflows. -/
inductive Countable : List Json → Prop where
  /-- The objects here, those under every name and those among the elements. -/
  | intro {samples : List Json} : (objects samples).length < 2 ^ 64 →
      (∀ name ∈ names (objects samples), Countable (under name (objects samples))) →
      ((arrays samples).flatten ≠ [] → Countable (arrays samples).flatten) → Countable samples

/-! ## One more object -/

/-- A list without repetitions is left as it is. -/
theorem eraseDups_of_nodup {list : List String} (once : list.Nodup) : list.eraseDups = list := by
  induction list with
  | nil => rfl
  | cons first rest ih =>
    obtain ⟨new, others⟩ := List.nodup_cons.mp once
    have kept : (rest.filter fun other => !other == first) = rest := by
      rw [List.filter_eq_self]
      intro other among
      have differ : other ≠ first := fun same => new (same ▸ among)
      simp [differ]
    rw [List.eraseDups_cons, kept, ih others]

/-- What is left when repetitions are erased has none. -/
theorem nodup_eraseDups (list : List String) : list.eraseDups.Nodup := by
  match list with
  | [] => exact List.nodup_nil
  | first :: rest =>
    rw [List.eraseDups_cons, List.nodup_cons]
    refine ⟨?_, nodup_eraseDups _⟩
    simp
termination_by list.length
decreasing_by
  exact Nat.lt_succ_of_le (List.length_filter_le _ rest)

variable {name : String} {members : List (String × Json)} {samples : List Json} {value : Json}

/-- An object adds its new names behind those of other objects. -/
theorem names_append (distinct : Fields.Distinct members)
    (objects : List (List (String × Json))) :
    names (objects ++ [members]) =
      names objects ++ Fields.names (members.filter fun member => member.1 ∉ names objects) := by
  have one : [members].flatMap Fields.names = Fields.names members := by simp
  have new : (Fields.names members).removeAll (objects.flatMap Fields.names) =
      Fields.names (members.filter fun member => member.1 ∉ names objects) := by
    rw [List.removeAll, Fields.names, List.filter_map, Fields.names]
    refine congrArg (List.map Prod.fst) (List.filter_congr fun member _ => ?_)
    rw [Bool.eq_iff_iff]
    simp [names]
  have once : (Fields.names (members.filter fun member => member.1 ∉ names objects)).Nodup :=
    distinct.sublist (List.filter_sublist.map _)
  rw [names, List.flatMap_append, one, List.eraseDups_append, new, eraseDups_of_nodup once]
  rfl

/-- An object adds what it has under a name. -/
theorem values_append (name : String) (objects : List (List (String × Json)))
    (members : List (String × Json)) :
    values name (objects ++ [members]) =
      values name objects ++ (Fields.get? name members).toList := by
  cases found : Fields.get? name members <;> simp [values, found]

/-- A name is among those of some objects when one of them has it. -/
theorem mem_names_iff {objects : List (List (String × Json))} :
    name ∈ names objects ↔ ∃ members ∈ objects, (Fields.get? name members).isSome := by
  simp [names, Fields.get?_isSome_iff]

/-- A name that no object has has no values. -/
theorem values_eq_nil_iff {objects : List (List (String × Json))} :
    values name objects = [] ↔ name ∉ names objects := by
  simp [mem_names_iff, values]

/-! ## Samples of samples -/

/-- The objects among samples are the samples that are objects. -/
theorem mem_objects_iff {members : List (String × Json)} :
    members ∈ objects samples ↔ Json.object members ∈ samples := by
  rw [objects, List.mem_filterMap]
  constructor
  · rintro ⟨sample, there, found⟩
    cases sample with
    | object other =>
      cases found
      exact there
    | scalar value => cases found
    | array items => cases found
  · exact fun there => ⟨_, there, rfl⟩

/-- The arrays among samples are the samples that are arrays. -/
theorem mem_arrays_iff {items : List Json} :
    items ∈ arrays samples ↔ Json.array items ∈ samples := by
  rw [arrays, List.mem_filterMap]
  constructor
  · rintro ⟨sample, there, found⟩
    cases sample with
    | array other =>
      cases found
      exact there
    | scalar value => cases found
    | object members => cases found
  · exact fun there => ⟨_, there, rfl⟩

/-- A sample of a name is null or a value of an object. -/
theorem mem_under {name : String} (there : value ∈ under name (objects samples)) :
    value = .null ∨ ∃ members, Json.object members ∈ samples ∧ (name, value) ∈ members := by
  rcases List.mem_append.mp there with found | missing
  · obtain ⟨members, among, has⟩ := List.mem_filterMap.mp found
    exact .inr ⟨members, mem_objects_iff.mp among, Fields.mem_of_get? has⟩
  · refine .inl ?_
    split at missing
    · exact List.mem_singleton.mp missing
    · cases missing

/-- An element is one of an array. -/
theorem mem_elements (there : value ∈ (arrays samples).flatten) :
    ∃ items, Json.array items ∈ samples ∧ value ∈ items := by
  obtain ⟨items, among, inside⟩ := List.mem_flatten.mp there
  exact ⟨items, mem_arrays_iff.mp among, inside⟩

/-- The samples of a name repeat no names when the objects they are taken from do not. -/
theorem distinct_under (distinct : ∀ sample ∈ samples, sample.Distinct) (name : String) :
    ∀ sample ∈ under name (objects samples), sample.Distinct := by
  intro sample there
  rcases mem_under there with rfl | ⟨members, among, inside⟩
  · trivial
  · exact (Json.distinct_object_iff.mp (distinct _ among)).2 _ inside

/-- The elements of all arrays repeat no names when the arrays do not. -/
theorem distinct_elements (distinct : ∀ sample ∈ samples, sample.Distinct) :
    ∀ sample ∈ (arrays samples).flatten, sample.Distinct := by
  intro sample there
  obtain ⟨items, among, inside⟩ := mem_elements there
  exact Json.distinct_array_iff.mp (distinct _ among) sample inside

/-! ## Few objects -/

/-- The objects in two lists of values add up. -/
theorem itemsObjectCount_append (items others : List Json) :
    Json.itemsObjectCount (items ++ others) =
      Json.itemsObjectCount items + Json.itemsObjectCount others := by
  induction items with
  | nil => simp [Json.itemsObjectCount]
  | cons item rest ih =>
    rw [List.cons_append, Json.itemsObjectCount, ih, Json.itemsObjectCount, Nat.add_assoc]

/-- Every object counts. -/
theorem length_objects_le (samples : List Json) :
    (objects samples).length ≤ Json.itemsObjectCount samples := by
  induction samples with
  | nil => exact Nat.le_refl 0
  | cons sample rest ih =>
    cases sample with
    | object members =>
      show (objects rest).length + 1 ≤ _
      rw [Json.itemsObjectCount, Json.objectCount]
      omega
    | scalar value => exact Nat.le_add_left_of_le ih
    | array items => exact Nat.le_add_left_of_le ih

/-- The samples of a name hold no more objects than those that it stands in. -/
theorem objectCount_under_le (name : String) (samples : List Json) :
    Json.itemsObjectCount (under name (objects samples)) ≤ Json.itemsObjectCount samples := by
  have noMore : Json.itemsObjectCount (values name (objects samples)) ≤
      Json.itemsObjectCount samples := by
    induction samples with
    | nil => exact Nat.le_refl 0
    | cons sample rest ih =>
      cases sample with
      | scalar value => exact Nat.le_add_left_of_le ih
      | array items => exact Nat.le_add_left_of_le ih
      | object members =>
        have part : values name (objects (.object members :: rest)) =
            (Fields.get? name members).toList ++ values name (objects rest) := by
          cases found : Fields.get? name members <;>
            simp [values, objects, Json.members?, found]
        have one : Json.itemsObjectCount (Fields.get? name members).toList ≤
            Json.membersObjectCount members := by
          cases found : Fields.get? name members with
          | none => exact Nat.zero_le _
          | some value => exact Json.objectCount_le_members (Fields.mem_of_get? found)
        rw [part, itemsObjectCount_append, Json.itemsObjectCount, Json.objectCount]
        omega
  have none :
      Json.itemsObjectCount (if lacked name (objects samples) then [.null] else []) = 0 := by
    split <;> rfl
  rw [under, itemsObjectCount_append, none]
  exact noMore

/-- The elements of samples hold no more objects than the samples. -/
theorem objectCount_elements_le (samples : List Json) :
    Json.itemsObjectCount (arrays samples).flatten ≤ Json.itemsObjectCount samples := by
  induction samples with
  | nil => exact Nat.le_refl 0
  | cons sample rest ih =>
    cases sample with
    | scalar value => exact Nat.le_add_left_of_le ih
    | object members => exact Nat.le_add_left_of_le ih
    | array items =>
      have part : (arrays (.array items :: rest)).flatten = items ++ (arrays rest).flatten := by
        simp [arrays, Json.items?]
      rw [part, itemsObjectCount_append, Json.itemsObjectCount, Json.objectCount]
      omega

/-- Samples with fewer objects than words can be counted. -/
theorem countable_of_objectCount (few : Json.itemsObjectCount samples < 2 ^ 64) :
    Countable samples := by
  have bounded : ∀ depth, Json.itemsDepth samples < depth → Countable samples := by
    intro depth
    induction depth generalizing samples with
    | zero => exact fun impossible => absurd impossible (Nat.not_lt_zero _)
    | succ depth ih =>
      intro shallow
      have flat := Json.itemsDepth_le_iff.mp (Nat.le_of_lt_succ shallow)
      have members_lt {members : List (String × Json)} (there : Json.object members ∈ samples) :
          Json.membersDepth members < depth := flat _ there
      have items_lt {items : List Json} (there : Json.array items ∈ samples) :
          Json.itemsDepth items < depth := flat _ there
      have below {others : List Json} (some : 0 < depth)
          (each : ∀ other ∈ others, other.depth < depth) : Json.itemsDepth others < depth := by
        have le : Json.itemsDepth others ≤ depth - 1 :=
          Json.itemsDepth_le_iff.mpr fun other among => Nat.le_sub_one_of_lt (each other among)
        omega
      refine .intro (Nat.lt_of_le_of_lt (length_objects_le samples) few)
        (fun name among => ih ?_ (below ?_ fun value there => ?_))
        (fun nonempty => ih ?_ (below ?_ fun value there => ?_))
      · exact Nat.lt_of_le_of_lt (objectCount_under_le name samples) few
      · obtain ⟨members, there, _⟩ := mem_names_iff.mp among
        exact Nat.zero_lt_of_lt (members_lt (mem_objects_iff.mp there))
      · rcases mem_under there with rfl | ⟨members, inside, found⟩
        · obtain ⟨members, there, _⟩ := mem_names_iff.mp among
          exact Nat.zero_lt_of_lt (members_lt (mem_objects_iff.mp there))
        · exact Nat.lt_of_le_of_lt
            (Json.membersDepth_le_iff.mp (Nat.le_refl _) _ found) (members_lt inside)
      · exact Nat.lt_of_le_of_lt (objectCount_elements_le samples) few
      · obtain ⟨value, there⟩ := List.exists_mem_of_ne_nil _ nonempty
        obtain ⟨items, inside, _⟩ := mem_elements there
        exact Nat.zero_lt_of_lt (items_lt inside)
      · obtain ⟨items, inside, found⟩ := mem_elements there
        exact Nat.lt_of_le_of_lt
          (Json.itemsDepth_le_iff.mp (Nat.le_refl _) _ found) (items_lt inside)
  exact bounded _ (Nat.lt_succ_self _)

end Samples

end JsonShape
