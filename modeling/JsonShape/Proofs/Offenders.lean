import JsonShape.Proofs.RoundTrip

/-!
# The first leaf that is no notation

A value that writes no shape is refused for the first of its leaves, in document order, that is
neither null nor the name of a kind. The error has the trail that leads to this leaf and says what
is wrong with it. The leaves before it are all notations, and the ones behind it have no influence.
-/
namespace JsonShape

namespace Text

/-- The text of a step with a number of steps before it: an index in brackets, a key as it is, and a
point before every key but a first one. -/
def Step.textBehind (before : Nat) : Step → String
  | .key name => if before = 0 then name else "." ++ name
  | .index position => "[" ++ toString position ++ "]"
  | .unknown => if before = 0 then "?" else ".?"

/-- The steps of a trail as texts one after the other; a point stands for no steps. -/
def Trail.spelled (trail : Trail) : String :=
  if trail = [] then "." else String.join (trail.mapIdx Step.textBehind)

/-- Behind no steps a step has the text of a first one. -/
theorem Step.textBehind_zero (step : Step) : step.textBehind 0 = step.firstText := by
  cases step with
  | key name => rfl
  | index position => rfl
  | unknown => rfl

/-- Behind others it has its own text. -/
theorem Step.textBehind_succ (before : Nat) (step : Step) :
    step.textBehind (before + 1) = step.text := by
  cases step with
  | key name => rfl
  | index position => rfl
  | unknown => rfl

/-- The text of a trail is that of its steps. -/
theorem Trail.text_eq_spelled (trail : Trail) : Trail.text trail = trail.spelled := by
  cases trail with
  | nil => rfl
  | cons first rest =>
    have behind : rest.mapIdx (fun before step => step.textBehind (before + 1)) =
        rest.map Step.text :=
      List.ext_getElem (by simp) fun index _ _ => by simp [Step.textBehind_succ]
    rw [spelled, if_neg (List.cons_ne_nil first rest), List.mapIdx_cons, behind,
      Step.textBehind_zero, Trail.text, String.join, List.foldl_cons, List.foldl_map,
      String.empty_append]

end Text

/-! ## Where leaves stand -/

namespace Json

open Text (Trail Step)

/-- The steps that lead from a value to a part of it. -/
inductive Leads : Json → Trail → Json → Prop where
  /-- No step leads to the value itself. -/
  | here {value : Json} : Leads value [] value
  /-- A step into an element. -/
  | element {items : List Json} {index : Nat} {item part : Json} {trail : Trail} :
      items[index]? = some item → Leads item trail part →
      Leads (.array items) (.index index :: trail) part
  /-- A step into a member. -/
  | member {members : List (String × Json)} {name : String} {value part : Json} {trail : Trail} :
      (name, value) ∈ members → Leads value trail part →
      Leads (.object members) (.key name :: trail) part

/-- A leaf of some elements is a leaf of one of them, under its index. -/
theorem mem_itemsLeaves {index : Nat} {items : List Json} {leaf : Trail × Scalar}
    (among : leaf ∈ itemsLeaves index items) :
    ∃ position item inner, items[position]? = some item ∧ inner ∈ item.leaves ∧
      leaf = leafUnder (.index (index + position)) inner := by
  induction items generalizing index with
  | nil => cases among
  | cons item rest ih =>
    rw [itemsLeaves, List.mem_append, List.mem_map] at among
    rcases among with ⟨inner, within, rfl⟩ | later
    · exact ⟨0, item, inner, rfl, within, rfl⟩
    · obtain ⟨position, other, inner, found, within, rfl⟩ := ih later
      refine ⟨position + 1, other, inner, found, within, ?_⟩
      rw [Nat.add_assoc, Nat.add_comm 1 position]

/-- A leaf of some members is a leaf of one of them, under its key. -/
theorem mem_membersLeaves {members : List (String × Json)} {leaf : Trail × Scalar}
    (among : leaf ∈ membersLeaves members) :
    ∃ member ∈ members, ∃ inner ∈ member.2.leaves, leaf = leafUnder (.key member.1) inner := by
  induction members with
  | nil => cases among
  | cons member rest ih =>
    rw [membersLeaves, List.mem_append, List.mem_map] at among
    rcases among with ⟨inner, within, rfl⟩ | later
    · exact ⟨member, List.mem_cons_self, inner, within, rfl⟩
    · obtain ⟨other, there, inner, within, rfl⟩ := ih later
      exact ⟨other, List.mem_cons_of_mem _ there, inner, within, rfl⟩

/-- The trail of a leaf leads to it. -/
theorem leads_of_mem_leaves {value : Json} {leaf : Trail × Scalar} (among : leaf ∈ value.leaves) :
    value.Leads leaf.1 (.scalar leaf.2) := by
  induction value generalizing leaf with
  | scalar value =>
    obtain rfl := List.mem_singleton.mp among
    exact .here
  | array items ih =>
    obtain ⟨position, item, inner, found, within, rfl⟩ := mem_itemsLeaves among
    rw [Nat.zero_add]
    exact .element found (ih item (List.mem_of_getElem? found) within)
  | object members ih =>
    obtain ⟨member, there, inner, within, rfl⟩ := mem_membersLeaves among
    exact .member there (ih member there within)

end Json

/-! ## Refusals -/

/-- The values without parts that are no notation, with what is wrong with them. -/
inductive Scalar.Offends : Scalar → NotationFault → Prop where
  /-- A truth value. -/
  | bool (value : Bool) : Offends (.bool value) (.wrongType (.bool value))
  /-- A number. -/
  | number (value : Number) : Offends (.number value) (.wrongType (.number value))
  /-- A string that is the name of no kind. -/
  | string {name : String} : (∀ kind : Kind, name ≠ kind.name) →
      Offends (.string name) (.unknownKind name)

namespace Shape

open Text (Trail Refusal)

/-- What writes no shape offends. -/
theorem offends_of_ofScalar {value : Scalar} {fault : NotationFault}
    (refused : ofScalar value = .error fault) : value.Offends fault := by
  cases value with
  | null => cases refused
  | bool value =>
    cases refused
    exact .bool value
  | number value =>
    cases refused
    exact .number value
  | string name =>
    rw [ofScalar] at refused
    cases found : Kind.ofName? name with
    | some kind =>
      rw [found] at refused
      cases refused
    | none =>
      rw [found] at refused
      cases refused
      refine .string fun kind same => ?_
      rw [same, Kind.ofName?_name] at found
      cases found

/-- A value is refused for a leaf when the leaves before it are notations and it is none. -/
theorem refused_of_leaves {value : Json} {before later : List (Trail × Scalar)} {trail : Trail}
    {offender : Scalar} {fault : NotationFault}
    (split : value.leaves = before ++ (trail, offender) :: later)
    (earlier : ∀ leaf ∈ before, leaf.2.IsNotation) (refused : ofScalar offender = .error fault) :
    notationReading.ofJson value = .error ⟨trail, fault⟩ := by
  have passed : before.findSome? notationReading.refusal? = none := by
    rw [List.findSome?_eq_none_iff]
    intro leaf among
    exact Option.map_eq_none_iff.mpr
      (errorOf?_eq_none_iff.mpr (ofScalar_isOk_iff.mpr (earlier leaf among)))
  have stopped : notationReading.refusal? (trail, offender) = some ⟨trail, fault⟩ :=
    Option.map_eq_some_iff.mpr ⟨fault, errorOf?_eq_some_iff.mpr refused, rfl⟩
  rw [← errorOf?_eq_some_iff, Text.Reading.errorOf?_ofJson, split, List.findSome?_append, passed,
    Option.none_or, List.findSome?_cons, stopped]

/-- A value that is refused has a first leaf that is no notation. -/
theorem exists_leaf_of_refused {value : Json} {refusal : Refusal NotationFault}
    (refused : notationReading.ofJson value = .error refusal) :
    ∃ before offender later, value.leaves = before ++ (refusal.trail, offender) :: later ∧
      (∀ leaf ∈ before, leaf.2.IsNotation) ∧ ofScalar offender = .error refusal.reason := by
  rw [← errorOf?_eq_some_iff, Text.Reading.errorOf?_ofJson, List.findSome?_eq_some_iff] at refused
  obtain ⟨before, leaf, later, split, here, earlier⟩ := refused
  obtain ⟨fault, wrong, rfl⟩ := Option.map_eq_some_iff.mp here
  refine ⟨before, leaf.2, later, split, fun other among => ?_, errorOf?_eq_some_iff.mp wrong⟩
  have accepted := Option.map_eq_none_iff.mp (earlier other among)
  exact ofScalar_isOk_iff.mp (errorOf?_eq_none_iff.mp accepted)

/-- An error names the first leaf in document order that is no notation: its trail leads to the
leaf, has the text of its steps and says what is wrong there. The leaves before it are notations,
and every value with the same leaves up to this one is refused alike. -/
theorem ofJson_names_first_offender (value : Json) (error : ShapeError)
    (refused : Shape.ofJson value = .error error) :
    ∃ before trail offender later fault,
      value.leaves = before ++ (trail, offender) :: later ∧
      (∀ leaf ∈ before, leaf.2.IsNotation) ∧
      value.Leads trail (.scalar offender) ∧ offender.Offends fault ∧
      error = .invalid trail (.refused fault) none ∧
      Trail.text trail = trail.spelled ∧
      ShapeError.reason (.refused fault) none = fault.message ∧
      ∀ (other : Json) (others : List (Trail × Scalar)),
        other.leaves = before ++ (trail, offender) :: others →
        Shape.ofJson other = .error error := by
  cases found : notationReading.ofJson value with
  | ok shape =>
    rw [Shape.ofJson, found] at refused
    cases refused
  | error refusal =>
    obtain ⟨before, offender, later, split, earlier, wrong⟩ := exists_leaf_of_refused found
    have named : error = .invalid refusal.trail (.refused refusal.reason) none := by
      rw [Shape.ofJson, found] at refused
      cases refused
      rfl
    have there : (refusal.trail, offender) ∈ value.leaves := by
      rw [split]
      exact List.mem_append_right before List.mem_cons_self
    refine ⟨before, refusal.trail, offender, later, refusal.reason, split, earlier,
      Json.leads_of_mem_leaves there, offends_of_ofScalar wrong, named,
      Trail.text_eq_spelled _, String.append_empty, fun other others same => ?_⟩
    rw [named, Shape.ofJson, refused_of_leaves same earlier wrong]
    rfl

/-- A misspelt kind behind a null, under two keys of which the first is empty: neither the truth
value behind it nor what stands in its place counts. -/
theorem ofJson_names_first_offender_nested :
    let inner : Json := .object [("a", .string "strin")]
    let value : Json := .array [.null, .object [("", inner), ("b", .bool true)]]
    let other : Json := .array [.null, .object [("", inner)], .object []]
    let trail : Trail := [.index 1, .key "", .key "a"]
    let error : ShapeError := .invalid trail (.refused (.unknownKind "strin")) none
    Shape.ofJson value = .error error ∧ value.Leads trail (.string "strin") ∧
      trail.spelled = "[1]..a" ∧ Shape.ofJson other = .error error := by
  intro inner value other trail error
  have refused : Shape.ofJson value = .error error := by cbv
  obtain ⟨before, found, offender, later, fault, split, earlier, leads, offends, named, spelled, _,
    alike⟩ := ofJson_names_first_offender value error refused
  obtain ⟨rfl, same, _⟩ := ShapeError.invalid.inj named
  cases same
  cases offends
  refine ⟨refused, leads, by decide, alike other [] ?_⟩
  have listed : value.leaves =
      [([.index 0], .null), (trail, .string "strin"), ([.index 1, .key "b"], .bool true)] := rfl
  rw [listed] at split
  -- The misspelt kind is the second of three leaves, so only one can be before it.
  rcases before with _ | ⟨first, _ | ⟨second, _ | ⟨third, more⟩⟩⟩
  · simp at split
  · obtain ⟨rfl, _⟩ := List.cons.inj split
    rfl
  · simp at split
  · simp at split

end Shape

end JsonShape
