import JsonShape.Proofs.NormalForms
import JsonShape.Proofs.Positions
import JsonShape.Proofs.RoundTrip

/-!
# Building shapes

Of the operations that give a shape, one refuses a union of too few alternatives; the others that
build a union have two alternatives at hand or more. So the shapes that they give, in whatever
combination, are plural. Where a slot fails a union, each alternative reports a failure, so that the
failure of the union holds no fewer of them than the union has alternatives, also where it is itself
inside the failure of another union.
-/
namespace JsonShape

namespace Shape

/-! ## What the operations give -/

/-- The shapes that operations give. An operation that fails gives none. -/
inductive Obtainable : Shape → Prop where
  /-- A slot of a kind. -/
  | ofKind (kind : Kind) : Obtainable (.ofKind kind)
  /-- Null. -/
  | null : Obtainable .null
  /-- Any array. -/
  | anyArray : Obtainable .anyArray
  /-- An array of elements of a shape. -/
  | array {element : Shape} : Obtainable element → Obtainable (.array element)
  /-- An object of declared fields. -/
  | ofFields {fields : List (String × Shape)} : (∀ field ∈ fields, Obtainable field.2) →
      Obtainable (ofFields fields)
  /-- One of two shapes. -/
  | either {first second : Shape} : Obtainable first → Obtainable second →
      Obtainable (either first second)
  /-- One of several shapes, unless they are too few. -/
  | oneOf {alternatives : List Shape} {shape : Shape} :
      (∀ alternative ∈ alternatives, Obtainable alternative) →
      Shape.oneOf alternatives = .ok shape → Obtainable shape
  /-- What a sequence of shapes stands for. -/
  | ofSequence {shapes : List Shape} : (∀ shape ∈ shapes, Obtainable shape) →
      Obtainable (ofSequence shapes)
  /-- What a value writes, if it is a notation. -/
  | ofJson {value : Json} {shape : Shape} : Shape.ofJson value = .ok shape → Obtainable shape
  /-- What a text writes, if it is a notation. -/
  | read {text : String} {shape : Shape} : Shape.read text = .ok shape → Obtainable shape
  /-- What evidence is lowered to, if it is evidence of anything. -/
  | lowered {evidence : Evidence} {shape : Shape} : evidence.toShape? = some shape →
      Obtainable shape

/-- A choice is built from two alternatives or more, and is their union. -/
theorem oneOf_eq_ok_iff {alternatives : List Shape} {shape : Shape} :
    oneOf alternatives = .ok shape ↔ 2 ≤ alternatives.length ∧ shape = .union alternatives := by
  by_cases few : alternatives.length < 2
  · simp [oneOf, few, Nat.not_le_of_lt few]
  · simp [oneOf, few, Nat.le_of_not_lt few, eq_comm]

/-- Every well-formed shape can be built. -/
theorem WellFormed.obtainable {shape : Shape} (wellFormed : shape.WellFormed) :
    shape.Obtainable := by
  induction shape with
  | ofKind kind => exact .ofKind kind
  | null => exact .null
  | anyArray => exact .anyArray
  | array element ih => exact .array (ih wellFormed)
  | object fields ih =>
    obtain ⟨distinct, each⟩ := wellFormed_object_iff.mp wellFormed
    have built : (Shape.ofFields fields).Obtainable :=
      .ofFields fun field among => ih field among (each field among)
    rwa [Shape.ofFields, Fields.ofEntries_of_distinct distinct] at built
  | union alternatives ih =>
    obtain ⟨several, each⟩ := wellFormed_union_iff.mp wellFormed
    exact .oneOf (fun alternative among => ih alternative among (each alternative among))
      (oneOf_eq_ok_iff.mpr ⟨several, rfl⟩)

/-- The shape of a sequence of plural shapes is plural. -/
theorem plural_ofSequence {shapes : List Shape} (each : ∀ shape ∈ shapes, shape.Plural) :
    (Shape.ofSequence shapes).Plural := by
  match shapes with
  | [] => exact plural_anyArray
  | [element] => exact plural_array_iff.mpr (each element List.mem_cons_self)
  | first :: second :: rest =>
    exact plural_union_iff.mpr ⟨Nat.le_add_left 2 rest.length, each⟩

/-- Shapes in normal form are plural. -/
theorem Normal.plural {shape : Shape} (normal : shape.Normal) : shape.Plural := by
  rintro inner inside ⟨alternatives, rfl⟩
  have union : NormalUnion alternatives := normal _ inside
  exact union.several

/-- The operations keep unions of two alternatives or more. -/
theorem Obtainable.plural {shape : Shape} (obtainable : shape.Obtainable) : shape.Plural := by
  induction obtainable with
  | ofKind kind => exact plural_ofKind kind
  | null => exact plural_null
  | anyArray => exact plural_anyArray
  | array _ element => exact plural_array_iff.mpr element
  | ofFields _ each =>
    exact plural_object_iff.mpr fun field there => each field (Fields.mem_of_mem_ofEntries there)
  | either _ _ first second =>
    refine plural_union_iff.mpr ⟨Nat.le_refl 2, ?_⟩
    simp only [List.forall_mem_cons]
    exact ⟨first, second, fun _ none => by cases none⟩
  | oneOf _ made each =>
    obtain ⟨several, rfl⟩ := oneOf_eq_ok_iff.mp made
    exact plural_union_iff.mpr ⟨several, each⟩
  | ofSequence _ each => exact plural_ofSequence each
  | ofJson read =>
    exact (Text.Reading.ofJson_keeps notationReading_keeps_wellFormed
      (mapError_eq_ok.mp read)).plural
  | read read =>
    exact (Text.Reading.ofText_keeps notationReading_keeps_wellFormed
      (mapError_eq_ok.mp read)).plural
  | lowered lowered => exact (Evidence.normal_shape? _ lowered).plural

/-! ## What a check compares -/

/-- Checking a slot against a shape compares an inner shape with the part of the slot at a path. -/
inductive ComparedAt (inner : Shape) (part : Slot) : Path → Shape → Slot → Prop where
  /-- The shape itself, with the whole slot. -/
  | self : ComparedAt inner part [] inner part
  /-- What is inside the shape of a declared field, with parts of what the field holds. -/
  | field {fields : List (String × Shape)} {members : List (String × Json)}
      {field : String × Shape} {path : Path} : field ∈ fields →
      ComparedAt inner part path field.2 (Fields.get? field.1 members) →
      ComparedAt inner part (.field field.1 :: path) (.object fields) (some (.object members))
  /-- What is inside the shape of the elements, with parts of each. -/
  | element {element : Shape} {items : List Json} {index : Nat} {item : Json} {path : Path} :
      items[index]? = some item → ComparedAt inner part path element (some item) →
      ComparedAt inner part (.index index :: path) (.array element) (some (.array items))
  /-- What is inside an alternative, with parts of the same slot. -/
  | alternative {alternatives : List Shape} {alternative : Shape} {slot : Slot} {path : Path} :
      alternative ∈ alternatives → ComparedAt inner part path alternative slot →
      ComparedAt inner part path (.union alternatives) slot

/-- A shape that is compared is found inside the shape that is checked. -/
theorem ComparedAt.inside {inner shape : Shape} {part slot : Slot} {path : Path}
    (compared : inner.ComparedAt part path shape slot) : inner.Inside shape := by
  induction compared with
  | self => exact .self
  | field among _ ih => exact .field among ih
  | element _ _ ih => exact .element ih
  | alternative among _ ih => exact .alternative among ih

/-- What a part of the root is compared with is compared from the root. -/
theorem ComparedAt.of_part {inner shape : Shape} {part slot : Slot} {path : Path}
    {step : Segment × Position} (among : step ∈ Position.parts shape slot)
    (compared : inner.ComparedAt part path step.2.shape step.2.slot) :
    inner.ComparedAt part (step.1 :: path) shape slot := by
  unfold Position.parts at among
  split at among
  · obtain ⟨field, declared, rfl⟩ := List.mem_map.mp among
    exact .field declared compared
  · obtain ⟨⟨item, index⟩, found, rfl⟩ := List.mem_map.mp among
    exact .element (List.mk_mem_zipIdx_iff_getElem?.mp found) compared
  · cases among

end Shape

/-! ## Failures inside failures -/

/-- The mismatches that a failure is made of: its own and, if it is that of a union, those of the
failures inside, the paths of which start at the union. -/
inductive Failure.Holds (mismatch : Mismatch) : Path → Failure → Prop where
  /-- Its own. -/
  | self {path : Path} : Holds mismatch path ⟨path, mismatch⟩
  /-- That of a failure inside. -/
  | inside {path rest : Path} {failures : List Failure} {failure : Failure} :
      failure ∈ failures → Holds mismatch rest failure →
      Holds mismatch (path ++ rest) ⟨path, .noAlternative failures⟩

/-- A failure that was moved under a segment holds its mismatches under that segment. -/
theorem Failure.Holds.of_under {mismatch : Mismatch} {path : Path} {segment : Segment}
    {failure : Failure} (holds : (failure.under segment).Holds mismatch path) :
    ∃ rest, path = segment :: rest ∧ failure.Holds mismatch rest := by
  obtain ⟨inner, what⟩ := failure
  cases holds with
  | self => exact ⟨inner, rfl, .self⟩
  | inside among holds => exact ⟨_, rfl, .inside among holds⟩

/-- The failure of a union is that of an inner union which the check compares with a part, at the
path of the part; every alternative of the union reports a failure, and these are its failures. -/
theorem Shape.compared_of_holds {shape : Shape} {slot : Slot} {failure : Failure} {path : Path}
    {failures : List Failure} (among : failure ∈ shape.check slot)
    (holds : failure.Holds (.noAlternative failures) path) :
    ∃ alternatives part, (Shape.union alternatives).ComparedAt part path shape slot ∧
      (∀ alternative ∈ alternatives, alternative.check part ≠ []) ∧
      failures = alternatives.flatMap (·.check part) := by
  induction shape, slot using Position.induction_parts_alternatives generalizing failure path with
  | step shape slot parts alternatives =>
    by_cases fails : Position.Fails ⟨[], slot, shape⟩
    · rw [Position.check_of_fails fails, List.mem_singleton] at among
      subst among
      -- Only the failure of a union is made of others, and they start where it does.
      cases shape with
      | union others =>
        cases holds with
        | self =>
          exact ⟨others, slot, .self,
            fun alternative there free => fails alternative there (conforms_of_check free), rfl⟩
        | inside listed holds =>
          obtain ⟨alternative, there, below⟩ := List.mem_flatMap.mp listed
          obtain ⟨inner, part, compared, same⟩ := alternatives alternative there below holds
          exact ⟨inner, part, .alternative there compared, same⟩
      | _ => cases holds
    · rw [Position.check_of_not_fails fails] at among
      obtain ⟨step, there, listed⟩ := List.mem_flatMap.mp among
      obtain ⟨below, found, rfl⟩ := List.mem_map.mp listed
      obtain ⟨rest, rfl, within⟩ := holds.of_under
      obtain ⟨inner, part, compared, same⟩ := parts step there found within
      exact ⟨inner, part, .of_part there compared, same⟩

/-- In a shape that operations give, every union has two alternatives or more. Whenever the failure
of a union occurs in a check, be it inside other failures, it is that of such a union, compared with
the part of the slot at its path: it holds the failures of all alternatives, of which there are as
many as alternatives or more, so two at least. -/
theorem Shape.Obtainable.failures_of_union (shape : Shape) (obtainable : shape.Obtainable) :
    (∀ alternatives, (Shape.union alternatives).Inside shape → 2 ≤ alternatives.length) ∧
    ∀ slot path failures,
      (∃ failure ∈ shape.check slot, failure.Holds (.noAlternative failures) path) →
      ∃ alternatives part, (Shape.union alternatives).ComparedAt part path shape slot ∧
        failures = alternatives.flatMap (·.check part) ∧
        alternatives.length ≤ failures.length ∧ 2 ≤ failures.length := by
  have several : ∀ alternatives, (Shape.union alternatives).Inside shape →
      2 ≤ alternatives.length :=
    fun alternatives inside => obtainable.plural _ inside ⟨alternatives, rfl⟩
  refine ⟨several, fun slot path failures ⟨failure, among, holds⟩ => ?_⟩
  obtain ⟨alternatives, part, compared, failing, rfl⟩ := compared_of_holds among holds
  have counted := length_le_flatMap failing
  exact ⟨alternatives, part, compared, rfl, counted,
    Nat.le_trans (several alternatives compared.inside) counted⟩

/-- Elements of a union of one union that was read and one that evidence of truth values and empty
arrays was lowered to. The second element is none of these, and the failure of the innermost union
is inside two others. -/
theorem Shape.Obtainable.failures_of_union_nested :
    let written := "[\"string\",[null,\"number\"]]"
    let evidence : Evidence := { Evidence.empty with bool := true, items := some .empty }
    let left : Shape := .union [.string, .union [.null, .number]]
    let right : Shape := .union [.boolean, .anyArray]
    let shape : Shape := .array (.either left right)
    let slot : Slot := some (.array [.string "a", .object []])
    let found := "\x7b\x7d"
    let innermost : List Failure := [⟨[], .notNull found⟩, ⟨[], .notOfKind .number found⟩]
    let first : List Failure := [⟨[], .notOfKind .string found⟩, ⟨[], .noAlternative innermost⟩]
    let second : List Failure := [⟨[], .notOfKind .boolean found⟩, ⟨[], .notArray found⟩]
    Shape.read written = .ok left ∧ evidence.toShape? = some right ∧ shape.Obtainable ∧
      shape.check slot = [⟨[.index 1],
        .noAlternative [⟨[], .noAlternative first⟩, ⟨[], .noAlternative second⟩]⟩] ∧
      (∃ failure ∈ shape.check slot, failure.Holds (.noAlternative innermost) [.index 1]) ∧
      ∃ alternatives part, (Shape.union alternatives).ComparedAt part [.index 1] shape slot ∧
        innermost = alternatives.flatMap (·.check part) ∧
        alternatives.length ≤ innermost.length := by
  intro written evidence left right shape slot found innermost first second
  have read : Shape.read written = .ok left := by
    simp only [written, Shape.read, String.reduceToList]
    rfl
  have lowered : evidence.toShape? = some right := rfl
  have obtainable : shape.Obtainable := .array (.either (.read read) (.lowered lowered))
  have checked : shape.check slot = [⟨[.index 1],
      .noAlternative [⟨[], .noAlternative first⟩, ⟨[], .noAlternative second⟩]⟩] := rfl
  have here : Failure.Holds (.noAlternative innermost) [] ⟨[], .noAlternative innermost⟩ := .self
  have within : Failure.Holds (.noAlternative innermost) ([] ++ []) ⟨[], .noAlternative first⟩ :=
    .inside (List.mem_cons_of_mem _ List.mem_cons_self) here
  have occurs : ∃ failure ∈ shape.check slot,
      failure.Holds (.noAlternative innermost) ([.index 1] ++ []) := by
    rw [checked]
    exact ⟨_, List.mem_cons_self, .inside List.mem_cons_self within⟩
  obtain ⟨_, failed⟩ := Shape.Obtainable.failures_of_union shape obtainable
  obtain ⟨alternatives, part, compared, same, counted, _⟩ :=
    failed slot [.index 1] innermost occurs
  exact ⟨read, lowered, obtainable, checked, occurs, alternatives, part, compared, same, counted⟩

end JsonShape
