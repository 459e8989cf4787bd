import JsonShape.Proofs.Joining

/-!
# Joins can be regrouped

Joining is associative, fields in order and counts included, and nothing seen is its unit. So
values can be joined in portions: the evidence of all is the join of the portions' evidence, in
order.
-/
namespace JsonShape

namespace Fields

variable {α β : Type}

/-- What a name has in two lists is what it has in the first, or else in the second. -/
theorem get?_append (name : String) (fields others : List (String × α)) :
    get? name (fields ++ others) = (get? name fields).or (get? name others) := by
  induction fields with
  | nil => rfl
  | cons field rest ih =>
    by_cases same : field.1 = name
    · simp [get?, same]
    · simp [get?, same, ih]

/-- Changing every value with regard to its name changes what each name has. -/
theorem get?_map (f : String → α → β) (name : String) (fields : List (String × α)) :
    get? name (fields.map fun field => (field.1, f field.1 field.2)) =
      (get? name fields).map (f name) := by
  induction fields with
  | nil => rfl
  | cons field rest ih =>
    by_cases same : field.1 = name
    · subst same
      simp [get?]
    · simp [get?, same, ih]

/-- Keeping the fields of some names keeps what those names have. -/
theorem get?_filter (keep : String → Bool) (name : String) (fields : List (String × α)) :
    get? name (fields.filter fun field => keep field.1) =
      if keep name then get? name fields else none := by
  induction fields with
  | nil => simp
  | cons field rest ih =>
    by_cases same : field.1 = name
    · subst same
      by_cases kept : keep field.1 <;> simp [get?, kept, ih]
    · by_cases kept : keep field.1 <;> simp [get?, kept, same, ih]

end Fields

namespace Evidence

/-! ## Occurrences of a field in two lots -/

/-- Two occurrences of a field as one. -/
def joinedOccurrence (first second : Occurrence Evidence) : Occurrence Evidence :=
  ⟨first.count + second.count, first.evidence.join second.evidence⟩

/-- What two lots have of a field. -/
def joinedOccurrences :
    Option (Occurrence Evidence) → Option (Occurrence Evidence) → Option (Occurrence Evidence)
  | none, other => other
  | some first, none => some first
  | some first, some second => some (joinedOccurrence first second)

/-- A field of a first lot is what both lots have of it. -/
theorem joinedField_eq (others : List (String × Occurrence Evidence))
    (field : String × Occurrence Evidence) :
    joinedField others field =
      (field.1, ((Fields.get? field.1 others).map (joinedOccurrence field.2)).getD field.2) := by
  cases found : Fields.get? field.1 others <;> simp [joinedField, found, joinedOccurrence]

/-- A name has in a join what it has in both lots. -/
theorem get?_joinedObjects (name : String) (objects others : Objects Evidence) :
    Fields.get? name (joinedObjects objects others).fields =
      joinedOccurrences (Fields.get? name objects.fields) (Fields.get? name others.fields) := by
  rw [joinedObjects, Fields.get?_append, joinFields_eq_map, newFields,
    Fields.get?_filter fun name => (Fields.get? name objects.fields).isNone,
    funext (joinedField_eq others.fields),
    Fields.get?_map fun name occurrence =>
      ((Fields.get? name others.fields).map (joinedOccurrence occurrence)).getD occurrence]
  cases Fields.get? name objects.fields <;> cases Fields.get? name others.fields <;>
    simp [joinedOccurrences]

/-! ## Regrouping -/

/-- Evidence is told by its six parts. -/
theorem eq_of_parts {left right : Evidence} (nullable : left.nullable = right.nullable)
    (bool : left.bool = right.bool) (number : left.number = right.number)
    (string : left.string = right.string) (items : left.items = right.items)
    (objects : left.objects = right.objects) : left = right := by
  cases left
  cases right
  simp_all

/-- A field of a first lot meets a second and a third lot as it meets both as one. -/
theorem joinedField_joinedField {field : String × Occurrence Evidence}
    (second third : Objects Evidence)
    (regroups : ∀ other another,
      (field.2.evidence.join other).join another = field.2.evidence.join (other.join another)) :
    joinedField third.fields (joinedField second.fields field) =
      joinedField (joinedObjects second third).fields field := by
  rw [joinedField_eq, joinedField_eq, joinedField_eq, get?_joinedObjects]
  cases Fields.get? field.1 second.fields with
  | none => rfl
  | some other =>
    cases Fields.get? field.1 third.fields with
    | none => rfl
    | some another =>
      simp [joinedOccurrences, joinedOccurrence, UInt64.add_assoc, regroups]

/-- Three lots of objects can be regrouped when the evidence of each field of the first can. -/
theorem joinedObjects_assoc {first : Objects Evidence} (second third : Objects Evidence)
    (regroups : ∀ field ∈ first.fields, ∀ other another,
      (field.2.evidence.join other).join another = field.2.evidence.join (other.join another)) :
    joinedObjects (joinedObjects first second) third =
      joinedObjects first (joinedObjects second third) := by
  have old : (first.fields.map (joinedField second.fields)).map (joinedField third.fields) =
      first.fields.map (joinedField (joinedObjects second third).fields) := by
    rw [List.map_map]
    exact List.map_congr_left fun field among =>
      joinedField_joinedField second third (regroups field among)
  -- Whether a field is new is told by its name, which meeting another lot does not change.
  have added : (newFields first.fields second.fields).map (joinedField third.fields) =
      newFields first.fields (second.fields.map (joinedField third.fields)) := by
    rw [newFields, newFields, List.filter_map]
    rfl
  have last : newFields (joinedObjects first second).fields third.fields =
      newFields first.fields (newFields second.fields third.fields) := by
    rw [newFields, newFields, newFields, List.filter_filter]
    refine List.filter_congr fun field _ => ?_
    rw [get?_joinedObjects]
    cases Fields.get? field.1 first.fields <;> cases Fields.get? field.1 second.fields <;> rfl
  have fields : (joinedObjects (joinedObjects first second) third).fields =
      (joinedObjects first (joinedObjects second third)).fields := by
    calc (joinedObjects (joinedObjects first second) third).fields
      _ = (first.fields.map (joinedField second.fields) ++
            newFields first.fields second.fields).map (joinedField third.fields) ++
          newFields (joinedObjects first second).fields third.fields := by
        rw [← joinFields_eq_map, ← joinFields_eq_map]
        rfl
      _ = first.fields.map (joinedField (joinedObjects second third).fields) ++
          (newFields first.fields (second.fields.map (joinedField third.fields)) ++
            newFields first.fields (newFields second.fields third.fields)) := by
        rw [List.map_append, old, added, last, List.append_assoc]
      _ = (joinedObjects first (joinedObjects second third)).fields := by
        rw [newFields, newFields, ← List.filter_append, ← joinFields_eq_map, ← joinFields_eq_map]
        rfl
  have seen : (joinedObjects (joinedObjects first second) third).seen =
      (joinedObjects first (joinedObjects second third)).seen :=
    UInt64.add_assoc first.seen second.seen third.seen
  show Objects.mk _ _ = Objects.mk _ _
  exact congr (congrArg Objects.mk seen) fields

/-- Joins can be regrouped. -/
theorem join_assoc (first second third : Evidence) :
    (first.join second).join third = first.join (second.join third) := by
  induction first using Evidence.induction generalizing second third with
  | intro first items fields =>
    refine eq_of_parts (by simp [Bool.or_assoc]) (by simp [Bool.or_assoc])
      (by simp [Bool.or_assoc]) (by simp [Bool.or_assoc]) ?_ ?_
    · simp only [join_items]
      cases here : first.items <;> cases second.items <;> cases third.items <;>
        simp only [joinItems]
      exact congrArg some (items _ here _ _)
    · simp only [join_objects]
      cases here : first.objects with
      | none => rfl
      | some objects =>
        cases second.objects with
        | none => rfl
        | some others =>
          cases third.objects with
          | none => rfl
          | some another =>
            exact congrArg some (joinedObjects_assoc others another
              fun field among _ _ => fields objects here field among _ _)

/-- Elements joined with no array stay as they are. -/
theorem joinItems_none (items : Option Evidence) : joinItems items none = items := by
  cases items <;> rfl

/-- Objects joined with no object stay as they are. -/
theorem joinObjects_none (objects : Option (Objects Evidence)) :
    joinObjects objects none = objects := by
  cases objects <;> rfl

/-- Nothing seen adds nothing to what was seen. -/
theorem join_empty (evidence : Evidence) : evidence.join empty = evidence :=
  eq_of_parts (by simp [empty]) (by simp [empty]) (by simp [empty]) (by simp [empty])
    (by rw [join_items, empty, joinItems_none]) (by rw [join_objects, empty, joinObjects_none])

/-! ## Portions of values -/

/-- Values are joined behind other values. -/
theorem joinAll_append (start : Evidence) (items others : List Json) :
    start.joinAll (items ++ others) = (start.joinAll items).joinAll others := by
  induction items generalizing start with
  | nil => rfl
  | cons item rest ih => exact ih (start.join (ofJson item))

/-- Values can be joined on their own first. -/
theorem join_joinAll (start : Evidence) (items : List Json) :
    start.join (joinAll empty items) = start.joinAll items := by
  have portion : ∀ middle : Evidence,
      start.join (middle.joinAll items) = (start.join middle).joinAll items := by
    induction items with
    | nil => exact fun _ => rfl
    | cons item rest ih =>
      intro middle
      rw [joinAll, joinAll, ih, join_assoc]
  rw [portion, join_empty]

end Evidence

end JsonShape
