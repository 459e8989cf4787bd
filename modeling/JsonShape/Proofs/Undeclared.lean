import JsonShape.Proofs.Conformance
import JsonShape.Proofs.Unordered

/-!
# Undeclared data has no influence

A shape speaks of the names it declares and of no others. Two values that become equal once all
other members are deleted, in every object at any depth, have the same failures at the same places;
only the texts that show what was found may differ. The deletion reaches every part of the values,
those that no declared field leads to included, and names are compared with those declared anywhere
in the shape.
-/
namespace JsonShape

/-! ## Declared names -/

namespace Shape

mutual

/-- The names of the fields declared at any depth. -/
def declared : Shape → List String
  | .ofKind _ => []
  | .null => []
  | .anyArray => []
  | .array element => element.declared
  | .object fields => declaredInFields fields
  | .union alternatives => declaredInAlternatives alternatives

/-- The names of fields, and those declared in their shapes. -/
def declaredInFields : List (String × Shape) → List String
  | [] => []
  | (name, shape) :: rest => name :: shape.declared ++ declaredInFields rest

/-- The names declared in any alternative. -/
def declaredInAlternatives : List Shape → List String
  | [] => []
  | alternative :: rest => alternative.declared ++ declaredInAlternatives rest

end

/-- An object shape declares the names of its fields and what their shapes declare. -/
theorem mem_declared_object_iff {fields : List (String × Shape)} {name : String} :
    name ∈ (Shape.object fields).declared ↔
      ∃ field ∈ fields, name = field.1 ∨ name ∈ field.2.declared := by
  rw [declared]
  induction fields with
  | nil => simp [declaredInFields]
  | cons field rest ih => simp [declaredInFields, ih, or_assoc]

/-- A union declares what its alternatives declare. -/
theorem mem_declared_union_iff {alternatives : List Shape} {name : String} :
    name ∈ (Shape.union alternatives).declared ↔
      ∃ alternative ∈ alternatives, name ∈ alternative.declared := by
  rw [declared]
  induction alternatives with
  | nil => simp [declaredInAlternatives]
  | cons alternative rest ih => simp [declaredInAlternatives, ih]

end Shape

/-! ## Deleting members -/

namespace Json

mutual

/-- The value without the members that have other names than the given ones, in every object at any
depth. -/
def keeping (names : List String) : Json → Json
  | .scalar value => .scalar value
  | .array items => .array (keepingItems names items)
  | .object members => .object (keepingMembers names members)

/-- Every element, with members deleted. -/
def keepingItems (names : List String) : List Json → List Json
  | [] => []
  | item :: rest => item.keeping names :: keepingItems names rest

/-- The members of the given names, with members of their values deleted. -/
def keepingMembers (names : List String) : List (String × Json) → List (String × Json)
  | [] => []
  | (name, value) :: rest =>
    if name ∈ names then (name, value.keeping names) :: keepingMembers names rest
    else keepingMembers names rest

end

variable {names : List String}

/-- Members are deleted from elements one by one. -/
theorem keepingItems_eq_map (items : List Json) :
    keepingItems names items = items.map (keeping names) := by
  induction items with
  | nil => rfl
  | cons item rest ih => rw [keepingItems, ih, List.map_cons]

/-- A kept name has the value it had, with members deleted. -/
theorem get?_keepingMembers {name : String} (kept : name ∈ names)
    (members : List (String × Json)) :
    Fields.get? name (keepingMembers names members) =
      (Fields.get? name members).map (keeping names) := by
  induction members with
  | nil => rfl
  | cons member rest ih =>
    obtain ⟨key, value⟩ := member
    by_cases asked : key = name
    · subst asked
      simp [keepingMembers, kept, Fields.get?]
    · by_cases inside : key ∈ names <;> simp [keepingMembers, inside, Fields.get?, asked, ih]

/-- Deleting members repeats no names. -/
theorem distinct_keepingMembers {members : List (String × Json)}
    (distinct : Fields.Distinct members) : Fields.Distinct (keepingMembers names members) := by
  have fewer : (Fields.names (keepingMembers names members)).Sublist (Fields.names members) := by
    clear distinct
    induction members with
    | nil => exact .slnil
    | cons member rest ih =>
      rw [keepingMembers]
      split
      · exact ih.cons_cons _
      · exact ih.cons _
  exact fewer.nodup distinct

/-! ## Values that agree on names -/

/-- Values of unique names that become equal when the members of other names are deleted. -/
structure AgreeOn (names : List String) (left right : Json) : Prop where
  /-- No object in the first value has two members of one name. -/
  distinct : left.Distinct
  /-- No object in the second value has two members of one name. -/
  otherDistinct : right.Distinct
  /-- What is kept is equal. -/
  same : (left.keeping names).same (right.keeping names)

/-- Values that agree are equal scalars, arrays whose elements agree one by one, or objects in which
every kept name has values that agree. -/
theorem AgreeOn.parts {left right : Json} (agree : AgreeOn names left right) :
    (∃ value other, left = .scalar value ∧ right = .scalar other ∧ value.same other) ∨
      (∃ items others, left = .array items ∧ right = .array others ∧
        List.Forall₂ (AgreeOn names) items others) ∨
      (∃ members others, left = .object members ∧ right = .object others ∧ ∀ name ∈ names,
        Option.Rel (AgreeOn names) (Fields.get? name members) (Fields.get? name others)) := by
  obtain ⟨distinct, otherDistinct, same⟩ := agree
  match left, right with
  | .scalar value, .scalar other => exact .inl ⟨value, other, rfl, rfl, same⟩
  | .array items, .array others =>
    refine .inr (.inl ⟨items, others, rfl, rfl, ?_⟩)
    rw [distinct_array_iff] at distinct otherDistinct
    rw [keeping, keeping, same_array_iff, keepingItems_eq_map, keepingItems_eq_map,
      List.forall₂_map_left_iff, List.forall₂_map_right_iff] at same
    rw [List.forall₂_iff_get] at same ⊢
    refine ⟨same.1, fun position before after => ?_⟩
    exact ⟨distinct _ (List.get_mem items _), otherDistinct _ (List.get_mem others _),
      same.2 position before after⟩
  | .object members, .object others =>
    refine .inr (.inr ⟨members, others, rfl, rfl, fun name kept => ?_⟩)
    obtain ⟨unique, each⟩ := distinct_object_iff.mp distinct
    obtain ⟨otherUnique, otherEach⟩ := distinct_object_iff.mp otherDistinct
    rw [keeping, keeping, same_object_iff (distinct_keepingMembers unique)
      (distinct_keepingMembers otherUnique)] at same
    have matched := same name
    rw [get?_keepingMembers kept, get?_keepingMembers kept] at matched
    cases found : Fields.get? name members with
    | none =>
      cases also : Fields.get? name others with
      | none => exact .none
      | some other =>
        rw [found, also] at matched
        cases matched
    | some value =>
      cases also : Fields.get? name others with
      | none =>
        rw [found, also] at matched
        cases matched
      | some other =>
        rw [found, also] at matched
        cases matched with
        | some same =>
          exact .some ⟨each _ (Fields.mem_of_get? found), otherEach _ (Fields.mem_of_get? also),
            same⟩
  | .scalar _, .array _ | .scalar _, .object _ | .array _, .scalar _ | .array _, .object _
  | .object _, .scalar _ | .object _, .array _ => simp [keeping, Json.same] at same

/-- Values that agree have the same kind. -/
theorem AgreeOn.kind_eq {left right : Json} (agree : AgreeOn names left right) :
    Kind.ofSlot (some left) = Kind.ofSlot (some right) := by
  rcases agree.parts with ⟨_, _, rfl, rfl, same⟩ | ⟨_, _, rfl, rfl, _⟩ | ⟨_, _, rfl, rfl, _⟩
  · exact kind_of_same same
  · rfl
  · rfl

end Json

/-! ## Failures but for what was found -/

mutual

/-- The mismatch without the text of what was found. -/
def Mismatch.blanked : Mismatch → Mismatch
  | .notArray _ => .notArray ""
  | .notObject _ => .notObject ""
  | .notNull _ => .notNull ""
  | .notOfKind expected _ => .notOfKind expected ""
  | .noAlternative failures => .noAlternative (blankedAll failures)

/-- The failures without the texts of what was found. -/
def blankedAll : List (AtPath Mismatch) → List (AtPath Mismatch)
  | [] => []
  | ⟨path, mismatch⟩ :: rest => ⟨path, mismatch.blanked⟩ :: blankedAll rest

end

/-- The failure without the texts of what was found; its path, the kind of mismatch, the expected
kind and the failures of alternatives stay. -/
def Failure.blanked (failure : Failure) : Failure :=
  ⟨failure.path, failure.what.blanked⟩

/-- Failures are blanked one by one. -/
theorem blankedAll_eq_map (failures : List Failure) :
    blankedAll failures = failures.map Failure.blanked := by
  induction failures with
  | nil => rfl
  | cons failure rest ih => rw [blankedAll, ih, List.map_cons, Failure.blanked]

/-- Failures that are the same but for what was found are so from one segment further out. -/
theorem blanked_under {failures others : List Failure} (segment : Segment)
    (agree : failures.map Failure.blanked = others.map Failure.blanked) :
    (failures.map (Failure.under segment)).map Failure.blanked =
      (others.map (Failure.under segment)).map Failure.blanked := by
  have commute : Failure.blanked ∘ Failure.under segment =
      Failure.under segment ∘ Failure.blanked := rfl
  calc (failures.map (Failure.under segment)).map Failure.blanked
    _ = (failures.map Failure.blanked).map (Failure.under segment) := by
      rw [List.map_map, commute, ← List.map_map]
    _ = (others.map Failure.blanked).map (Failure.under segment) := by rw [agree]
    _ = (others.map (Failure.under segment)).map Failure.blanked := by
      rw [List.map_map, ← commute, ← List.map_map]

/-- Failures gathered from parts are the same, but for what was found, when those of every part
are. -/
theorem blanked_flatMap {α : Type} {parts : List α} {failures others : α → List Failure}
    (each : ∀ part ∈ parts,
      (failures part).map Failure.blanked = (others part).map Failure.blanked) :
    (parts.flatMap failures).map Failure.blanked = (parts.flatMap others).map Failure.blanked := by
  rw [List.map_flatMap, List.map_flatMap]
  exact List.flatMap_congr each

/-- Elements that correspond one by one have the same failures, but for what was found, if
corresponding elements have. -/
theorem blanked_itemFailures {R : Json → Json → Prop} {check : Json → List Failure}
    (checked : ∀ item other, R item other →
      (check item).map Failure.blanked = (check other).map Failure.blanked)
    {items others : List Json} (agree : List.Forall₂ R items others) (index : Nat) :
    (itemFailures check index items).map Failure.blanked =
      (itemFailures check index others).map Failure.blanked := by
  induction agree generalizing index with
  | nil => rfl
  | cons first _ ih =>
    rw [itemFailures, itemFailures, List.map_append, List.map_append,
      blanked_under _ (checked _ _ first), ih]

/-! ## Checking values that agree -/

namespace Shape

variable {left right : Slot}

/-- Slots fail a union alike, but for what was found, when they fail every alternative alike. -/
theorem blanked_check_union {alternatives : List Shape}
    (each : ∀ alternative ∈ alternatives,
      (alternative.check left).map Failure.blanked =
        (alternative.check right).map Failure.blanked) :
    ((Shape.union alternatives).check left).map Failure.blanked =
      ((Shape.union alternatives).check right).map Failure.blanked := by
  by_cases passed : ∃ alternative ∈ alternatives, alternative.check left = []
  · obtain ⟨alternative, among, free⟩ := passed
    have also : alternative.check right = [] := by
      have same := each alternative among
      rw [free] at same
      exact List.map_eq_nil_iff.mp same.symm
    rw [check, check, checkAlternatives_eq_none_iff.mpr ⟨alternative, among, free⟩,
      checkAlternatives_eq_none_iff.mpr ⟨alternative, among, also⟩]
  · have failed : ∀ alternative ∈ alternatives, alternative.check left ≠ [] :=
      fun alternative among free => passed ⟨alternative, among, free⟩
    have alsoFailed : ∀ alternative ∈ alternatives, alternative.check right ≠ [] := by
      intro alternative among free
      have same := each alternative among
      rw [free] at same
      exact failed alternative among (List.map_eq_nil_iff.mp same)
    rw [check, check, checkAlternatives_eq_some failed, checkAlternatives_eq_some alsoFailed]
    simp only [failHere, List.map_cons, List.map_nil, Failure.blanked, Mismatch.blanked,
      blankedAll_eq_map, blanked_flatMap each]

/-- Slots whose values agree on all declared names have the same failures, but for what was
found. -/
theorem blanked_check {names : List String} (shape : Shape) (covered : shape.declared ⊆ names)
    (agree : Option.Rel (Json.AgreeOn names) left right) :
    (shape.check left).map Failure.blanked = (shape.check right).map Failure.blanked := by
  induction shape generalizing left right with
  | ofKind kind =>
    have kinds : Kind.ofSlot left = Kind.ofSlot right := by
      cases agree with
      | none => rfl
      | some agree => exact agree.kind_eq
    rw [check, check, kinds]
    split <;> rfl
  | null =>
    cases agree with
    | none => rfl
    | some agree =>
      rcases agree.parts with ⟨value, other, rfl, rfl, same⟩ | ⟨_, _, rfl, rfl, _⟩ |
        ⟨_, _, rfl, rfl, _⟩
      · cases value <;> cases other <;> first | rfl | cases same
      · rfl
      · rfl
  | object fields ih =>
    cases agree with
    | none => rfl
    | some agree =>
      rcases agree.parts with ⟨_, _, rfl, rfl, _⟩ | ⟨_, _, rfl, rfl, _⟩ |
        ⟨members, others, rfl, rfl, matched⟩
      · rfl
      · rfl
      · rw [check, check, checkFields_eq_flatMap, checkFields_eq_flatMap]
        refine blanked_flatMap fun field among => blanked_under _ (ih field among ?_ ?_)
        · exact fun name there =>
            covered (mem_declared_object_iff.mpr ⟨field, among, .inr there⟩)
        · exact matched field.1 (covered (mem_declared_object_iff.mpr ⟨field, among, .inl rfl⟩))
  | anyArray =>
    cases agree with
    | none => rfl
    | some agree =>
      rcases agree.parts with ⟨_, _, rfl, rfl, _⟩ | ⟨_, _, rfl, rfl, _⟩ | ⟨_, _, rfl, rfl, _⟩
      · rfl
      · rfl
      · rfl
  | array element ih =>
    cases agree with
    | none => rfl
    | some agree =>
      rcases agree.parts with ⟨_, _, rfl, rfl, _⟩ | ⟨items, others, rfl, rfl, elements⟩ |
        ⟨_, _, rfl, rfl, _⟩
      · rfl
      · rw [check, check]
        exact blanked_itemFailures (fun item other agree => ih covered (.some agree)) elements 0
      · rfl
  | union alternatives ih =>
    exact blanked_check_union fun alternative among => ih alternative among
      (fun name there => covered (mem_declared_union_iff.mpr ⟨alternative, among, there⟩)) agree

/-- Members of undeclared names have no influence: values of unique names that become equal when
such members are deleted at every depth fail alike, in number, order, path, kind of mismatch,
expected kind and failures of alternatives, and conform alike. -/
theorem validate_ignores_undeclared (shape : Shape) (left right : Json)
    (distinct : left.Distinct) (otherDistinct : right.Distinct)
    (same : (left.keeping shape.declared).same (right.keeping shape.declared)) :
    (shape.validate left).length = (shape.validate right).length ∧
      (shape.validate left).map Failure.blanked = (shape.validate right).map Failure.blanked ∧
      (Conforms shape (some left) ↔ Conforms shape (some right)) := by
  have agree : (shape.validate left).map Failure.blanked =
      (shape.validate right).map Failure.blanked :=
    blanked_check shape (List.Subset.refl _) (.some ⟨distinct, otherDistinct, same⟩)
  have lengths : (shape.validate left).length = (shape.validate right).length := by
    have mapped := congrArg List.length agree
    rwa [List.length_map, List.length_map] at mapped
  refine ⟨lengths, agree, ?_⟩
  rw [← check_eq_nil_iff_conforms, ← check_eq_nil_iff_conforms, ← List.length_eq_zero_iff,
    ← List.length_eq_zero_iff]
  exact lengths ▸ Iff.rfl

/-- Members are reordered, and undeclared ones deleted and changed inside an element that both
alternatives reject and inside a value of the wrong kind: its text is all that tells the failures
apart. -/
theorem validate_ignores_undeclared_nested :
    let shape : Shape :=
      .object [("id", .string), ("tags", .array (.union [.string, .object [("name", .string)]]))]
    let left : Json :=
      .object [("id", .object [("note", .null)]),
        ("tags", .array [.object [("note", .bool true), ("name", .null)]])]
    let right : Json :=
      .object [("tags", .array [.object [("name", .null), ("note", .array [.null])]]),
        ("extra", .string "id"), ("id", .object [])]
    let mismatches (note : String) (text : String) : List Failure :=
      [⟨[.field "id"], .notOfKind .string note⟩,
        ⟨[.field "tags", .index 0], .noAlternative
          [⟨[], .notOfKind .string text⟩, ⟨[.field "name"], .notOfKind .string "null"⟩]⟩]
    left.Distinct ∧ right.Distinct ∧
      (left.keeping shape.declared).same (right.keeping shape.declared) ∧
      shape.validate left =
        mismatches "\x7b\"note\":null\x7d" "\x7b\"note\":true,\"name\":null\x7d" ∧
      shape.validate right =
        mismatches "\x7b\x7d" "\x7b\"name\":null,\"note\":[null]\x7d" ∧
      (shape.validate left).map Failure.blanked = (shape.validate right).map Failure.blanked := by
  intro shape left right mismatches
  have distinct : left.Distinct := by
    simp [left, Json.Distinct, Json.DistinctMembers, Json.DistinctItems, Fields.Distinct]
  have otherDistinct : right.Distinct := by
    simp [right, Json.Distinct, Json.DistinctMembers, Json.DistinctItems, Fields.Distinct]
  have same : (left.keeping shape.declared).same (right.keeping shape.declared) := by decide
  exact ⟨distinct, otherDistinct, same, by rfl, by rfl,
    (validate_ignores_undeclared shape left right distinct otherDistinct same).2.1⟩

end Shape

end JsonShape
