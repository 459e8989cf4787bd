import JsonShape.Proofs.Trees

/-!
# Joined evidence

What the join of two lots of evidence holds, said once for elements, objects and fields, and how a
property of the objects at every position of two lots carries over to their join.
-/
namespace JsonShape.Evidence

/-! ## What a join holds -/

/-- The objects of two lots as one. -/
def joinedObjects (objects others : Objects Evidence) : Objects Evidence :=
  ⟨objects.seen + others.seen,
    joinFields objects.fields others.fields ++ newFields objects.fields others.fields⟩

variable {left right : Evidence}

/-- Joined evidence has seen null when either side has. -/
@[simp] theorem join_nullable : (left.join right).nullable = (left.nullable || right.nullable) := by
  cases left
  rfl

/-- It has seen a truth value when either side has. -/
@[simp] theorem join_bool : (left.join right).bool = (left.bool || right.bool) := by
  cases left
  rfl

/-- It has seen a number when either side has. -/
@[simp] theorem join_number : (left.join right).number = (left.number || right.number) := by
  cases left
  rfl

/-- It has seen a string when either side has. -/
@[simp] theorem join_string : (left.join right).string = (left.string || right.string) := by
  cases left
  rfl

/-- Its arrays are those of both sides, joined. -/
@[simp] theorem join_items : (left.join right).items = joinItems left.items right.items := by
  cases left
  rfl

/-- Its objects are those of both sides, joined. -/
@[simp] theorem join_objects :
    (left.join right).objects = joinObjects left.objects right.objects := by
  cases left
  rfl

/-- Elements of a join are those of one lot that alone has arrays, or the join of both. -/
theorem joinItems_eq_some {items others : Option Evidence} {joined : Evidence} :
    joinItems items others = some joined ↔
      (items = some joined ∧ others = none) ∨ (items = none ∧ others = some joined) ∨
        ∃ first second, items = some first ∧ others = some second ∧ joined = first.join second := by
  cases items <;> cases others <;> simp [joinItems, eq_comm]

/-- Objects of a join are those of one lot that alone has objects, or those of both as one. -/
theorem joinObjects_eq_some {objects others : Option (Objects Evidence)}
    {joined : Objects Evidence} :
    joinObjects objects others = some joined ↔
      (objects = some joined ∧ others = none) ∨ (objects = none ∧ others = some joined) ∨
        ∃ first second, objects = some first ∧ others = some second ∧
          joined = joinedObjects first second := by
  cases objects <;> cases others <;> simp [joinObjects, joinedObjects, eq_comm]

/-- A field of a first lot with what a second lot adds to it. -/
def joinedField (others : List (String × Occurrence Evidence))
    (field : String × Occurrence Evidence) : String × Occurrence Evidence :=
  (field.1, match Fields.get? field.1 others with
    | none => field.2
    | some other => ⟨field.2.count + other.count, field.2.evidence.join other.evidence⟩)

/-- The fields of a first lot are joined one by one. -/
theorem joinFields_eq_map (fields others : List (String × Occurrence Evidence)) :
    joinFields fields others = fields.map (joinedField others) := by
  induction fields with
  | nil => rfl
  | cons field rest ih => rw [joinFields, ih]; rfl

/-- A field of a join is one that only the first lot has, one that both lots have, or one that only
the second lot has. -/
theorem mem_joinedObjects {objects others : Objects Evidence}
    {field : String × Occurrence Evidence}
    (among : field ∈ (joinedObjects objects others).fields) :
    (field ∈ objects.fields ∧ Fields.get? field.1 others.fields = none) ∨
      (∃ first ∈ objects.fields, ∃ other, Fields.get? first.1 others.fields = some other ∧
        field = (first.1,
          ⟨first.2.count + other.count, first.2.evidence.join other.evidence⟩)) ∨
      (field ∈ others.fields ∧ Fields.get? field.1 objects.fields = none) := by
  simp only [joinedObjects, joinFields_eq_map, newFields, List.mem_append, List.mem_map,
    List.mem_filter, Option.isNone_iff_eq_none] at among
  rcases among with ⟨first, there, rfl⟩ | new
  · cases found : Fields.get? first.1 others.fields with
    | none => exact .inl ⟨by simpa [joinedField, found] using there, found⟩
    | some other => exact .inr (.inl ⟨first, there, other, found, by simp [joinedField, found]⟩)
  · exact .inr (.inr new)

/-- Joined fields have the names of the first lot, then those that only the second lot has. -/
theorem names_joinedObjects (objects others : Objects Evidence) :
    Fields.names (joinedObjects objects others).fields =
      Fields.names objects.fields ++ Fields.names (newFields objects.fields others.fields) := by
  rw [joinedObjects, Fields.names_append, joinFields_eq_map]
  simp [Fields.names, joinedField, Function.comp_def]

/-- The names that only the second lot has. -/
theorem mem_names_newFields {fields others : List (String × Occurrence Evidence)} {name : String} :
    name ∈ Fields.names (newFields fields others) ↔
      name ∈ Fields.names others ∧ name ∉ Fields.names fields := by
  simp only [newFields, Fields.names, List.mem_map, List.mem_filter, Option.isNone_iff_eq_none,
    Fields.get?_eq_none_iff]
  constructor
  · rintro ⟨field, ⟨there, new⟩, rfl⟩
    exact ⟨⟨field, there, rfl⟩, by simpa using new⟩
  · rintro ⟨⟨field, there, rfl⟩, new⟩
    exact ⟨field, ⟨there, by simpa using new⟩, rfl⟩

/-- A name is among the joined fields when it is in one of the two lots. -/
theorem mem_names_joinedObjects {objects others : Objects Evidence} {name : String} :
    name ∈ Fields.names (joinedObjects objects others).fields ↔
      name ∈ Fields.names objects.fields ∨ name ∈ Fields.names others.fields := by
  rw [names_joinedObjects, List.mem_append, mem_names_newFields]
  by_cases there : name ∈ Fields.names objects.fields <;> simp [there]

/-- Joining gives no name a second field. -/
theorem distinct_joinedObjects {objects others : Objects Evidence}
    (first : Fields.Distinct objects.fields) (second : Fields.Distinct others.fields) :
    Fields.Distinct (joinedObjects objects others).fields := by
  have new : (Fields.names (newFields objects.fields others.fields)).Nodup :=
    second.sublist (List.filter_sublist.map _)
  rw [Fields.Distinct, names_joinedObjects, List.nodup_append]
  refine ⟨first, new, ?_⟩
  intro name there other only same
  exact (mem_names_newFields.mp only).2 (same ▸ there)

/-- Nothing seen adds nothing. -/
theorem empty_join (evidence : Evidence) : empty.join evidence = evidence := by
  cases evidence
  simp [join, empty, joinItems, joinObjects]

/-- Nothing was seen in two lots when nothing was seen in either. -/
theorem isBottom_join (left right : Evidence) :
    (left.join right).isBottom = (left.isBottom && right.isBottom) := by
  have items (first second : Option Evidence) :
      (joinItems first second).isNone = (first.isNone && second.isNone) := by
    cases first <;> cases second <;> rfl
  have objects (first second : Option (Objects Evidence)) :
      (joinObjects first second).isNone = (first.isNone && second.isNone) := by
    cases first <;> cases second <;> rfl
  simp only [isBottom, join_nullable, join_bool, join_number, join_string, join_items,
    join_objects, items, objects, Bool.not_or]
  ac_rfl

/-- A value is something seen. -/
theorem isBottom_ofJson (value : Json) : (ofJson value).isBottom = false := by
  cases value with
  | scalar value => cases value <;> rfl
  | array items => rfl
  | object members => rfl

/-- Something is seen in values joined one after the other when there is one. -/
theorem isBottom_joinAll (start : Evidence) (items : List Json) :
    (start.joinAll items).isBottom = (start.isBottom && items.isEmpty) := by
  induction items generalizing start with
  | nil => simp [joinAll]
  | cons item rest ih => simp [joinAll, ih, isBottom_join, isBottom_ofJson]

/-! ## Properties of the objects at every position -/

/-- The objects of every position have a property. -/
inductive Everywhere (P : Objects Evidence → Prop) : Evidence → Prop where
  /-- Those here, those of the elements and those of every field. -/
  | intro {evidence : Evidence}
      (items : ∀ items, evidence.items = some items → Everywhere P items)
      (objects : ∀ objects, evidence.objects = some objects → P objects)
      (fields : ∀ objects, evidence.objects = some objects →
        ∀ field ∈ objects.fields, Everywhere P field.2.evidence) :
      Everywhere P evidence

/-- The objects of every position that two lots share have a relation. -/
inductive Paired (J : Objects Evidence → Objects Evidence → Prop) :
    Evidence → Evidence → Prop where
  /-- Those here, those of the elements and those of every shared field. -/
  | intro {left right : Evidence}
      (items : ∀ first second, left.items = some first → right.items = some second →
        Paired J first second)
      (objects : ∀ first second, left.objects = some first → right.objects = some second →
        J first second)
      (fields : ∀ first second, left.objects = some first → right.objects = some second →
        ∀ field ∈ first.fields, ∀ other, Fields.get? field.1 second.fields = some other →
          Paired J field.2.evidence other.evidence) :
      Paired J left right

variable {P Q R : Objects Evidence → Prop} {J : Objects Evidence → Objects Evidence → Prop}

/-- Nothing seen has every property. -/
theorem Everywhere.empty : Everywhere P Evidence.empty :=
  .intro (fun _ none => by cases none) (fun _ none => by cases none) (fun _ none => by cases none)

/-- A property gives way to a weaker one. -/
theorem Everywhere.mono (weaker : ∀ objects, P objects → Q objects) {evidence : Evidence}
    (holds : Everywhere P evidence) : Everywhere Q evidence := by
  induction holds with
  | intro _ objects _ items fields =>
    exact .intro items (fun inner there => weaker inner (objects inner there)) fields

/-- Properties of two lots give a property of their join when they do so for the objects of one
lot alone and for those of both as one. -/
theorem Everywhere.join (first : ∀ objects, P objects → R objects)
    (second : ∀ objects, Q objects → R objects)
    (both : ∀ objects others, P objects → Q others → J objects others →
      R (joinedObjects objects others))
    {left right : Evidence} (holdsLeft : Everywhere P left) (holdsRight : Everywhere Q right)
    (paired : Paired J left right) : Everywhere R (left.join right) := by
  induction holdsLeft generalizing right with
  | @intro left items objects fields ihItems ihFields =>
    obtain ⟨otherItems, otherObjects, otherFields⟩ := holdsRight
    obtain ⟨pairedItems, pairedObjects, pairedFields⟩ := paired
    refine .intro (fun joined there => ?_) (fun joined there => ?_)
      (fun joined there field among => ?_)
    · rw [join_items, joinItems_eq_some] at there
      rcases there with ⟨here, _⟩ | ⟨_, here⟩ | ⟨one, two, here, also, rfl⟩
      · exact (items joined here).mono first
      · exact (otherItems joined here).mono second
      · exact ihItems one here (otherItems two also) (pairedItems one two here also)
    · rw [join_objects, joinObjects_eq_some] at there
      rcases there with ⟨here, _⟩ | ⟨_, here⟩ | ⟨one, two, here, also, rfl⟩
      · exact first joined (objects joined here)
      · exact second joined (otherObjects joined here)
      · exact both one two (objects one here) (otherObjects two also)
          (pairedObjects one two here also)
    · rw [join_objects, joinObjects_eq_some] at there
      rcases there with ⟨here, _⟩ | ⟨_, here⟩ | ⟨one, two, here, also, rfl⟩
      · exact (fields joined here field among).mono first
      · exact (otherFields joined here field among).mono second
      · rcases mem_joinedObjects among with ⟨old, _⟩ | ⟨part, old, other, found, rfl⟩ | ⟨new, _⟩
        · exact (fields one here field old).mono first
        · exact ihFields one here part old
            (otherFields two also _ (Fields.mem_of_get? found))
            (pairedFields one two here also part old other found)
        · exact (otherFields two also field new).mono second

/-- Any two lots have a relation that always holds. -/
theorem Paired.trivial (holds : ∀ objects others, J objects others) (left right : Evidence) :
    Paired J left right := by
  induction left using Evidence.induction generalizing right with
  | intro left items fields =>
    exact .intro (fun first second here _ => items first here second)
      (fun first second _ _ => holds first second)
      (fun first second here _ field among other _ => fields first here field among other.evidence)

end JsonShape.Evidence
