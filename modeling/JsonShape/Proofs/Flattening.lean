import JsonShape.Proofs.Conformance
import JsonShape.Proofs.Inside
import JsonShape.Report
import Mathlib.Data.List.Basic

/-!
# Unions inside unions

A union that is an alternative of another union can be replaced by its own alternatives. Doing so at
every depth changes the failures of a slot, for a failed union inside a failed union becomes a part
of it, but it changes none of their lines: the line of a failed union joins those of its
alternatives, and joining joined lines is joining all of them.
-/
namespace JsonShape

namespace Shape

/-! ## Replacing inner unions -/

/-- What a shape contributes to a union around it: its alternatives if it is one, else itself. -/
def choices : Shape → List Shape
  | .union alternatives => alternatives
  | shape => [shape]

mutual

/-- The shape in which, at every depth, each union that is an alternative of a union is replaced by
its own alternatives. -/
def flattened : Shape → Shape
  | .ofKind kind => .ofKind kind
  | .null => .null
  | .object fields => .object (flattenedFields fields)
  | .anyArray => .anyArray
  | .array element => .array element.flattened
  | .union alternatives => .union (flattenedAlternatives alternatives)

/-- The fields with their shapes flattened. -/
def flattenedFields : List (String × Shape) → List (String × Shape)
  | [] => []
  | (name, shape) :: rest => (name, shape.flattened) :: flattenedFields rest

/-- What the flattened alternatives contribute, one after the other. -/
def flattenedAlternatives : List Shape → List Shape
  | [] => []
  | alternative :: rest => alternative.flattened.choices ++ flattenedAlternatives rest

end

/-- Fields are flattened one by one. -/
theorem flattenedFields_eq_map (fields : List (String × Shape)) :
    flattenedFields fields = fields.map fun field => (field.1, field.2.flattened) := by
  induction fields with
  | nil => rfl
  | cons field rest ih => rw [flattenedFields, ih, List.map_cons]

/-- A flattened alternative that is a union gives its own alternatives. -/
theorem flattenedAlternatives_eq_flatMap (alternatives : List Shape) :
    flattenedAlternatives alternatives = alternatives.flatMap (·.flattened.choices) := by
  induction alternatives with
  | nil => rfl
  | cons alternative rest ih => rw [flattenedAlternatives, ih, List.flatMap_cons]

/-- A shape that is no union contributes itself. -/
theorem choices_of_not_isUnion {shape : Shape} (other : ¬ shape.IsUnion) :
    shape.choices = [shape] := by
  cases shape with
  | union alternatives => exact absurd ⟨alternatives, rfl⟩ other
  | _ => rfl

/-- A shape contributes something. -/
theorem Plural.choices_ne_nil {shape : Shape} (plural : shape.Plural) : shape.choices ≠ [] := by
  by_cases union : shape.IsUnion
  · obtain ⟨alternatives, rfl⟩ := union
    exact List.ne_nil_of_length_pos
      (Nat.zero_lt_of_lt (plural_union_iff.mp plural).1)
  · rw [choices_of_not_isUnion union]
    exact List.cons_ne_nil shape []

/-- What a flat shape contributes is flat and no union. -/
theorem Flat.choices {shape : Shape} (flat : shape.Flat) :
    ∀ choice ∈ shape.choices, ¬ choice.IsUnion ∧ choice.Flat := by
  by_cases union : shape.IsUnion
  · obtain ⟨alternatives, rfl⟩ := union
    obtain ⟨others, each⟩ := flat_union_iff.mp flat
    exact fun choice among => ⟨others choice among, each choice among⟩
  · rw [choices_of_not_isUnion union]
    intro choice among
    obtain rfl := List.mem_singleton.mp among
    exact ⟨union, flat⟩

/-- In a flattened shape no alternative is a union. -/
theorem flat_flattened (shape : Shape) : shape.flattened.Flat := by
  induction shape with
  | ofKind kind => rintro _ ⟨⟩ _ ⟨⟩
  | null => rintro _ ⟨⟩ _ ⟨⟩
  | anyArray => rintro _ ⟨⟩ _ ⟨⟩
  | array element ih => exact flat_array_iff.mpr ih
  | object fields ih =>
    rw [flattened, flattenedFields_eq_map, flat_object_iff, List.forall_mem_map]
    exact ih
  | union alternatives ih =>
    have each : ∀ choice ∈ flattenedAlternatives alternatives, ¬ choice.IsUnion ∧ choice.Flat := by
      rw [flattenedAlternatives_eq_flatMap]
      intro choice among
      obtain ⟨alternative, there, inside⟩ := List.mem_flatMap.mp among
      exact (ih alternative there).choices choice inside
    exact flat_union_iff.mpr
      ⟨fun choice among => (each choice among).1, fun choice among => (each choice among).2⟩

/-- Flattening takes no alternatives away. -/
theorem Plural.flattened {shape : Shape} (plural : shape.Plural) : shape.flattened.Plural := by
  induction shape with
  | ofKind kind => exact plural_ofKind kind
  | null => exact plural_null
  | anyArray => exact plural_anyArray
  | array element ih => exact plural_array_iff.mpr (ih (plural_array_iff.mp plural))
  | object fields ih =>
    have each := plural_object_iff.mp plural
    rw [Shape.flattened, flattenedFields_eq_map, plural_object_iff, List.forall_mem_map]
    exact fun field among => ih field among (each field among)
  | union alternatives ih =>
    obtain ⟨several, each⟩ := plural_union_iff.mp plural
    have kept : ∀ alternative ∈ alternatives, alternative.flattened.Plural :=
      fun alternative among => ih alternative among (each alternative among)
    rw [Shape.flattened, flattenedAlternatives_eq_flatMap, plural_union_iff]
    constructor
    · have contribute := length_le_flatMap fun alternative among =>
        (kept alternative among).choices_ne_nil
      exact Nat.le_trans several contribute
    · intro choice among
      obtain ⟨alternative, there, inside⟩ := List.mem_flatMap.mp among
      have outer := kept alternative there
      by_cases union : alternative.flattened.IsUnion
      · obtain ⟨others, same⟩ := union
        rw [same] at inside outer
        exact (plural_union_iff.mp outer).2 choice inside
      · rw [choices_of_not_isUnion union, List.mem_singleton] at inside
        exact inside ▸ outer

end Shape

/-! ## The lines of failures -/

/-- Seen from one segment further out, a failure has the segment in front of its line. -/
theorem Failure.text_under (segment : Segment) (failure : Failure) :
    (failure.under segment).text = segment.text ++ failure.text := by
  simp [Failure.text, Failure.under, Path.text, String.append_assoc]

/-- The line of a union that fails at the root is what its failures are worded as. -/
theorem Failure.text_noAlternative (failures : List Failure) :
    Failure.text ⟨[], .noAlternative failures⟩ = joinedText failures := by
  show "" ++ "" ++ joinedText failures = _
  rw [String.empty_append, String.empty_append]

/-- Further failures are worded behind a joiner. -/
theorem moreText_cons (failure : Failure) (rest : List Failure) :
    moreText (failure :: rest) = alternativeJoiner ++ joinedText (failure :: rest) := by
  simp [moreText, joinedText, String.append_assoc]

/-- A failed union is worded as the lines of its failures with the joiner between them. -/
theorem joinedText_eq_intercalate (failures : List Failure) :
    joinedText failures = alternativeJoiner.intercalate (failures.map Failure.text) := by
  induction failures with
  | nil => simp [joinedText]
  | cons failure rest ih =>
    have first : joinedText (failure :: rest) = failure.text ++ moreText rest := rfl
    cases rest with
    | nil => simp [first, moreText]
    | cons second others =>
      have some : (second :: others).map Failure.text ≠ [] := List.cons_ne_nil _ _
      rw [first, moreText_cons, ih, List.map_cons (l := second :: others),
        String.intercalate_cons_of_ne_nil some, String.append_assoc]

/-- Joining the lines of some parts only looks at how the lines of each part are joined. -/
theorem intercalate_flatMap_congr {α : Type} {joiner : String} {parts : List α}
    {lines others : α → List String}
    (each : ∀ part ∈ parts, lines part ≠ [] ∧ others part ≠ [] ∧
      joiner.intercalate (lines part) = joiner.intercalate (others part)) :
    joiner.intercalate (parts.flatMap lines) = joiner.intercalate (parts.flatMap others) := by
  induction parts with
  | nil => rfl
  | cons part rest ih =>
    obtain ⟨some, also, same⟩ := each part List.mem_cons_self
    have further := fun other among => each other (List.mem_cons_of_mem _ among)
    rw [List.flatMap_cons, List.flatMap_cons]
    by_cases last : rest = []
    · rw [last, List.flatMap_nil, List.flatMap_nil, List.append_nil, List.append_nil, same]
    · obtain ⟨second, among⟩ := List.exists_mem_of_ne_nil rest last
      have more : rest.flatMap lines ≠ [] := fun none =>
        (further second among).1 (List.flatMap_eq_nil_iff.mp none second among)
      have alsoMore : rest.flatMap others ≠ [] := fun none =>
        (further second among).2.1 (List.flatMap_eq_nil_iff.mp none second among)
      rw [String.intercalate_append_of_ne_nil some more,
        String.intercalate_append_of_ne_nil also alsoMore, same, ih further]

namespace Shape

/-- The lines of the failures of a slot. -/
def lines (shape : Shape) (slot : Slot) : List String :=
  (shape.check slot).map Failure.text

/-- No lines are printed exactly when no failures are found. -/
theorem lines_eq_nil_iff {shape : Shape} {slot : Slot} :
    shape.lines slot = [] ↔ shape.check slot = [] :=
  List.map_eq_nil_iff

/-- The report of a value has the label in front of each of its lines. -/
theorem report_eq_map_lines (shape : Shape) (rootLabel : String) (value : Json) :
    shape.report rootLabel value = (shape.lines (some value)).map (rootLabel ++ ·) := by
  rw [lines, List.map_map]
  rfl

section Union

variable {alternatives : List Shape} {slot : Slot}

/-- A union with an alternative that passes prints nothing. -/
theorem lines_union_of_passing
    (passing : ∃ alternative ∈ alternatives, alternative.lines slot = []) :
    (Shape.union alternatives).lines slot = [] := by
  simp only [lines_eq_nil_iff] at passing ⊢
  rw [check, checkAlternatives_eq_none_iff.mpr passing]

/-- A failed union prints the lines of all its alternatives in one. -/
theorem lines_union_of_failing
    (failing : ∀ alternative ∈ alternatives, alternative.lines slot ≠ []) :
    (Shape.union alternatives).lines slot =
      [alternativeJoiner.intercalate (alternatives.flatMap (·.lines slot))] := by
  have failed : ∀ alternative ∈ alternatives, alternative.check slot ≠ [] :=
    fun alternative among free => failing alternative among (lines_eq_nil_iff.mpr free)
  have joined : (alternatives.flatMap (·.check slot)).map Failure.text =
      alternatives.flatMap (·.lines slot) := List.map_flatMap
  rw [lines, check, checkAlternatives_eq_some failed, ← joined, ← joinedText_eq_intercalate]
  exact congrArg (fun line => [line]) (Failure.text_noAlternative _)

/-- A slot passes a shape when it passes something that the shape contributes to a union. -/
theorem lines_eq_nil_iff_choices {shape : Shape} :
    shape.lines slot = [] ↔ ∃ choice ∈ shape.choices, choice.lines slot = [] := by
  by_cases union : shape.IsUnion
  · obtain ⟨alternatives, rfl⟩ := union
    by_cases passing : ∃ alternative ∈ alternatives, alternative.lines slot = []
    · exact iff_of_true (lines_union_of_passing passing) passing
    · have failing : ∀ alternative ∈ alternatives, alternative.lines slot ≠ [] :=
        fun alternative among free => passing ⟨alternative, among, free⟩
      rw [lines_union_of_failing failing]
      exact iff_of_false (List.cons_ne_nil _ _) passing
  · rw [choices_of_not_isUnion union]
    simp

/-- Where a shape fails, its line joins the lines of all that it contributes to a union. -/
theorem intercalate_choices {shape : Shape} (failing : shape.lines slot ≠ []) :
    alternativeJoiner.intercalate (shape.choices.flatMap (·.lines slot)) =
      alternativeJoiner.intercalate (shape.lines slot) := by
  by_cases union : shape.IsUnion
  · obtain ⟨alternatives, rfl⟩ := union
    have each : ∀ alternative ∈ alternatives, alternative.lines slot ≠ [] :=
      fun alternative among free => failing (lines_union_of_passing ⟨alternative, among, free⟩)
    rw [lines_union_of_failing each, String.intercalate_singleton]
    rfl
  · rw [choices_of_not_isUnion union, List.flatMap_singleton]

end Union

/-! ## Flattening changes no line -/

/-- A union of flattened alternatives has the lines of the union of the alternatives. -/
theorem lines_flattened_union {alternatives : List Shape} {slot : Slot}
    (plural : ∀ alternative ∈ alternatives, alternative.Plural)
    (same : ∀ alternative ∈ alternatives,
      alternative.flattened.lines slot = alternative.lines slot) :
    (Shape.union alternatives).flattened.lines slot = (Shape.union alternatives).lines slot := by
  rw [flattened, flattenedAlternatives_eq_flatMap]
  -- The joined lines speak of all alternatives only where none passes, so that is settled first.
  by_cases passing : ∃ alternative ∈ alternatives, alternative.lines slot = []
  · rw [lines_union_of_passing passing]
    obtain ⟨alternative, among, free⟩ := passing
    rw [← same alternative among, lines_eq_nil_iff_choices] at free
    obtain ⟨choice, inside, free⟩ := free
    exact lines_union_of_passing ⟨choice, List.mem_flatMap.mpr ⟨alternative, among, inside⟩, free⟩
  · have fails : ∀ alternative ∈ alternatives, alternative.lines slot ≠ [] :=
      fun alternative among free => passing ⟨alternative, among, free⟩
    have failing : ∀ choice ∈ alternatives.flatMap (·.flattened.choices),
        choice.lines slot ≠ [] := by
      intro choice among free
      obtain ⟨alternative, there, inside⟩ := List.mem_flatMap.mp among
      have passes := lines_eq_nil_iff_choices.mpr ⟨choice, inside, free⟩
      exact fails alternative there ((same alternative there).symm.trans passes)
    rw [lines_union_of_failing fails, lines_union_of_failing failing, List.flatMap_assoc]
    refine congrArg (fun line => [line]) (intercalate_flatMap_congr fun alternative among => ?_)
    refine ⟨?_, fails alternative among, ?_⟩
    · obtain ⟨choice, inside⟩ := List.exists_mem_of_ne_nil _
        (plural alternative among).flattened.choices_ne_nil
      intro none
      exact failing choice (List.mem_flatMap.mpr ⟨alternative, among, inside⟩)
        (List.flatMap_eq_nil_iff.mp none choice inside)
    · rw [intercalate_choices (same alternative among ▸ fails alternative among),
        same alternative among]

/-- Failures under a segment have the same lines when they have the same lines without it. -/
theorem lines_under_congr {failures others : List Failure} (segment : Segment)
    (same : failures.map Failure.text = others.map Failure.text) :
    (failures.map (Failure.under segment)).map Failure.text =
      (others.map (Failure.under segment)).map Failure.text := by
  have prefixed (failures : List Failure) :
      (failures.map (Failure.under segment)).map Failure.text =
        (failures.map Failure.text).map (segment.text ++ ·) := by
    simp [Failure.text_under]
  rw [prefixed, prefixed, same]

/-- Flattening leaves the lines of every slot as they are. -/
theorem lines_flattened {shape : Shape} (plural : shape.Plural) (slot : Slot) :
    shape.flattened.lines slot = shape.lines slot := by
  induction shape generalizing slot with
  | ofKind kind => rfl
  | null => rfl
  | anyArray => rfl
  | array element ih =>
    have inner := fun slot => ih (plural_array_iff.mp plural) slot
    cases slot with
    | none => rfl
    | some value =>
      cases value with
      | scalar value => rfl
      | object members => rfl
      | array items =>
        rw [lines, lines, flattened, check, check, itemFailures_eq_flatMap,
          itemFailures_eq_flatMap, List.map_flatMap, List.map_flatMap]
        exact congrArg (items.zipIdx.flatMap ·)
          (funext fun part => lines_under_congr _ (inner (some part.1)))
  | object fields ih =>
    have each := plural_object_iff.mp plural
    cases slot with
    | none => rfl
    | some value =>
      cases value with
      | scalar value => rfl
      | array items => rfl
      | object members =>
        rw [lines, lines, flattened, check, check, checkFields_eq_flatMap, checkFields_eq_flatMap,
          flattenedFields_eq_map, List.flatMap_map, List.map_flatMap, List.map_flatMap]
        refine List.flatMap_congr fun field among => lines_under_congr _ ?_
        exact ih field among (each field among) (Fields.get? field.1 members)
  | union alternatives ih =>
    obtain ⟨_, each⟩ := plural_union_iff.mp plural
    exact lines_flattened_union each fun alternative among =>
      ih alternative among (each alternative among) slot

/-- Replacing each union that is an alternative of a union, at every depth, by its own alternatives
leaves no such union and no fewer alternatives, and changes no line: every slot has the same lines,
so it passes one shape when it passes the other, and the reports of every value are the same under
every label. -/
theorem report_flattened (shape : Shape) (plural : shape.Plural) :
    shape.flattened.Flat ∧ shape.flattened.Plural ∧
    (∀ slot, (shape.flattened.check slot).map Failure.text =
      (shape.check slot).map Failure.text) ∧
    (∀ slot, shape.flattened.check slot = [] ↔ shape.check slot = []) ∧
    ∀ rootLabel value, shape.flattened.report rootLabel value = shape.report rootLabel value := by
  refine ⟨flat_flattened shape, plural.flattened, lines_flattened plural, fun slot => ?_,
    fun rootLabel value => ?_⟩
  · rw [← lines_eq_nil_iff, ← lines_eq_nil_iff, lines_flattened plural]
  · rw [report_eq_map_lines, report_eq_map_lines, lines_flattened plural]

/-- Three unions in each other around an object with two more: one element fails as a whole, the
other fails in its field too, and each has one line that joins all alternatives. -/
theorem report_flattened_nested :
    let field : Shape := .either (.either .null .boolean) .string
    let shape : Shape := .object [("items", .array (.either
      (.either .string (.either .number (.object [("a", field)]))) .null))]
    let flat : Shape := .object [("items", .array (.union [.string, .number,
      .object [("a", .union [.null, .boolean, .string])], .null]))]
    let value : Json := .object [("items", .array [.bool true, .object [("a", .array [])]])]
    let lines := [
      "object.items[0] is not a string: true and is not a number: true" ++
        " and is not an object: true and is not null: true",
      "object.items[1] is not a string: \x7b\"a\":[]\x7d and is not a number: \x7b\"a\":[]\x7d" ++
        " and.a is not null: [] and is not a boolean: [] and is not a string: []" ++
        " and is not null: \x7b\"a\":[]\x7d"]
    shape.Plural ∧ shape.flattened = flat ∧ flat.Flat ∧
      shape.report defaultRootLabel value = lines ∧ flat.report defaultRootLabel value = lines := by
  intro field shape flat value lines
  have plural : shape.Plural := by
    apply WellFormed.plural
    simp [shape, field, either, WellFormed, WellFormedFields, WellFormedAlternatives,
      Fields.Distinct]
  have flattens : shape.flattened = flat := rfl
  have reported : shape.report defaultRootLabel value = lines := by decide +kernel
  obtain ⟨isFlat, _, _, _, reports⟩ := report_flattened shape plural
  rw [flattens] at isFlat reports
  exact ⟨plural, flattens, isFlat, reported, (reports defaultRootLabel value).trans reported⟩

end Shape

end JsonShape
