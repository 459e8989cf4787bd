import JsonShape.Proofs.Documents
import JsonShape.Proofs.Inferred
import JsonShape.Proofs.Leaves
import JsonShape.Proofs.Meanings
import JsonShape.Proofs.Notation

/-!
# Shapes and their notations, there and back

A value is a notation exactly when each of its leaves is null or the name of a kind, and then it is
the notation of one well-formed shape and of no other. The texts of a shape read back as the shape
while its notation is nested within the limit, and are refused for the limit otherwise.
-/
namespace JsonShape

/-- The values without parts that notations are made of: null and the names of kinds. -/
def Scalar.IsNotation : Scalar → Prop
  | .null => True
  | .string name => ∃ kind : Kind, name = kind.name
  | .bool _ => False
  | .number _ => False

namespace Shape

open Text

/-! ## Values -/

/-- A value without parts is a shape exactly when it is a notation. -/
theorem ofScalar_isOk_iff {value : Scalar} :
    (∃ shape, ofScalar value = .ok shape) ↔ value.IsNotation := by
  cases value with
  | null => exact ⟨fun _ => trivial, fun _ => ⟨_, rfl⟩⟩
  | bool value => exact iff_of_false (by rintro ⟨_, ⟨⟩⟩) id
  | number value => exact iff_of_false (by rintro ⟨_, ⟨⟩⟩) id
  | string name =>
    constructor
    · rintro ⟨shape, made⟩
      rw [ofScalar] at made
      cases found : Kind.ofName? name with
      | none =>
        rw [found] at made
        cases made
      | some kind => exact ⟨kind, Kind.ofName?_eq_some_iff.mp found⟩
    · rintro ⟨kind, rfl⟩
      exact ⟨.ofKind kind, ofScalar_kindName kind⟩

/-- A value without parts is the notation of the shape that it writes. -/
theorem toJson_of_ofScalar {value : Scalar} {shape : Shape} (made : ofScalar value = .ok shape) :
    shape.toJson = .scalar value := by
  have accepted := ofScalar_isOk_iff.mp ⟨shape, made⟩
  cases value with
  | null =>
    cases made
    rfl
  | bool value => cases accepted
  | number value => cases accepted
  | string name =>
    obtain ⟨kind, rfl⟩ := accepted
    rw [ofScalar_kindName] at made
    cases made
    rfl

/-- Sequences of any length are written as their members' notations. -/
theorem toJson_ofSequence (shapes : List Shape) :
    (ofSequence shapes).toJson = .array (shapes.map toJson) := by
  match shapes with
  | [] => rfl
  | [element] => rfl
  | first :: second :: rest =>
    show Json.array (alternativesToJson (first :: second :: rest)) = _
    rw [alternativesToJson_eq_map]

/-- The shape of a sequence of well-formed shapes is well-formed. -/
theorem wellFormed_ofSequence {shapes : List Shape} (each : ∀ shape ∈ shapes, shape.WellFormed) :
    (ofSequence shapes).WellFormed := by
  match shapes with
  | [] => trivial
  | [element] => exact each element List.mem_cons_self
  | first :: second :: rest =>
    exact wellFormed_union_iff.mpr ⟨Nat.le_add_left 2 rest.length, each⟩

/-- A value is the notation of the shape that it writes. -/
theorem toJson_of_ofJson {value : Json} (distinct : value.Distinct) {shape : Shape}
    (read : notationReading.ofJson value = .ok shape) : shape.toJson = value := by
  induction value generalizing shape with
  | scalar value =>
    rw [Reading.ofJson] at read
    exact toJson_of_ofScalar (mapError_eq_ok.mp read)
  | array items ih =>
    have each := Json.distinct_array_iff.mp distinct
    obtain ⟨shapes, parts, rfl⟩ := Reading.ofJson_array_eq_ok_iff.mp read
    have same : shapes.map toJson = items :=
      map_eq_of_forall₂ parts fun item among shape read => ih item among (each item among) read
    show (ofSequence shapes).toJson = _
    rw [toJson_ofSequence, same]
  | object members ih =>
    obtain ⟨names, each⟩ := Json.distinct_object_iff.mp distinct
    obtain ⟨fields, parts, rfl⟩ := Reading.ofJson_object_eq_ok_iff.mp read
    have same : fields.map (fun field => (field.1, field.2.toJson)) = members := by
      refine map_eq_of_forall₂ parts fun member among field related => ?_
      rw [← related.1, ih member among (each member among) related.2]
    have kept : Fields.Distinct fields := by
      rw [Fields.Distinct, ← parts.names_eq]
      exact names
    show (ofFields fields).toJson = _
    rw [ofFields, Fields.ofEntries_of_distinct kept, toJson, fieldsToJson_eq_map, same]

/-- Reading the notation keeps unions of two alternatives or more and names once. -/
theorem notationReading_keeps_wellFormed : notationReading.Keeps WellFormed where
  scalar value shape made := by
    have accepted := ofScalar_isOk_iff.mp ⟨shape, made⟩
    cases value with
    | null =>
      cases made
      trivial
    | bool value => cases accepted
    | number value => cases accepted
    | string name =>
      obtain ⟨kind, rfl⟩ := accepted
      cases (ofScalar_kindName kind).symm.trans made
      trivial
  array shapes each := wellFormed_ofSequence each
  object fields each := wellFormed_object_iff.mpr
    ⟨Fields.ofEntries_distinct fields, fun field there =>
      each field (Fields.mem_of_mem_ofEntries there)⟩

end Shape

/-- The meaning of a value has what a reading keeps. -/
theorem Text.Reading.ofJson_keeps {ε α : Type} {reading : Reading ε α} {P : α → Prop}
    (keeps : reading.Keeps P) {value : Json} {meaning : α}
    (read : reading.ofJson value = .ok meaning) : P meaning := by
  induction value generalizing meaning with
  | scalar value =>
    rw [Reading.ofJson] at read
    exact keeps.scalar value meaning (mapError_eq_ok.mp read)
  | array items ih =>
    obtain ⟨meanings, parts, rfl⟩ := Reading.ofJson_array_eq_ok_iff.mp read
    exact keeps.array meanings
      (forall_of_forall₂ parts fun item among _ read => ih item among read)
  | object members ih =>
    obtain ⟨meanings, parts, rfl⟩ := Reading.ofJson_object_eq_ok_iff.mp read
    exact keeps.object meanings
      (forall_of_forall₂ parts fun member among _ related => ih member among related.2)

namespace Shape

/-- A value writes a shape exactly when each of its leaves is null or the name of a kind. It is then
the notation of the shape, which is well formed, and every well-formed shape is read from its
notation, which no other has. -/
theorem notation_bijective :
    (∀ value : Json,
      ((∃ shape, Shape.ofJson value = .ok shape) ↔ value.EachScalar Scalar.IsNotation) ∧
      (value.Distinct → ∀ shape, Shape.ofJson value = .ok shape →
        shape.WellFormed ∧ shape.toJson = value)) ∧
    (∀ shape : Shape, shape.WellFormed → Shape.ofJson shape.toJson = .ok shape) ∧
    ∀ shape other : Shape, shape.WellFormed → other.WellFormed →
      shape.toJson = other.toJson → shape = other := by
  have back (shape : Shape) (wellFormed : shape.WellFormed) :
      Shape.ofJson shape.toJson = .ok shape := mapError_eq_ok.mpr (ofJson_toJson wellFormed)
  refine ⟨fun value => ⟨?_, fun distinct shape read => ?_⟩, back, ?_⟩
  · simp only [Shape.ofJson, mapError_eq_ok, Text.Reading.ofJson_isOk_iff]
    have same : (fun scalar => ∃ shape, notationReading.scalar scalar = .ok shape) =
        Scalar.IsNotation := funext fun scalar => propext ofScalar_isOk_iff
    rw [same]
  · have found := mapError_eq_ok.mp read
    exact ⟨Text.Reading.ofJson_keeps notationReading_keeps_wellFormed found,
      toJson_of_ofJson distinct found⟩
  · intro shape other wellFormed otherWellFormed same
    have read := back shape wellFormed
    rw [same, back other otherWellFormed] at read
    exact (Except.ok.inj read).symm

/-- An object whose fields are not in alphabetical order, with a union inside an array. -/
theorem notation_bijective_nested :
    let shape : Shape := .object [("tags", .array (.union [.string, .anyArray])), ("id", .null)]
    let value : Json :=
      .object [("tags", .array [.array [.string "string", .array []]]), ("id", .null)]
    value.Distinct ∧ shape.WellFormed ∧ value.EachScalar Scalar.IsNotation ∧
      Shape.ofJson value = .ok shape ∧ shape.toJson = value := by
  intro shape value
  have distinct : value.Distinct := by
    simp [value, Json.Distinct, Json.DistinctMembers, Json.DistinctItems, Fields.Distinct]
  have wellFormed : shape.WellFormed := by
    simp [shape, WellFormed, WellFormedFields, WellFormedAlternatives, Fields.Distinct]
  obtain ⟨values, shapes, _⟩ := notation_bijective
  have read : Shape.ofJson value = .ok shape := shapes shape wellFormed
  exact ⟨distinct, wellFormed, (values value).1.mp ⟨shape, read⟩, read,
    ((values value).2 distinct shape read).2⟩

/-! ## Texts -/

/-- A text is refused for the nesting limit, and the reason says so. -/
def RefusedAsNested (text : String) : Prop :=
  ∃ trail cause position, Shape.read text = .error (.invalid trail cause (some position)) ∧
    ShapeError.reason cause (some position) =
      "recursion limit exceeded" ++ position.message

variable {shape : Shape} {style : Text.Style}

/-- A written shape is read as itself while its notation is nested within the limit. -/
theorem read_text (blank : style.Blank) (wellFormed : shape.WellFormed)
    (fits : shape.toJson.depth ≤ Text.nestingLimit) :
    Shape.read (String.ofList (shape.text style 0)) = .ok shape := by
  have read := ofText_text blank wellFormed fits (show ([] : List Char).all Text.isBlank from rfl)
  rwa [List.append_nil, ← String.toList_ofList (l := shape.text style 0)] at read

/-- A written shape whose notation is nested past the limit is refused for it. -/
theorem refusedAsNested_text (blank : style.Blank) (wellFormed : shape.WellFormed)
    (deep : Text.nestingLimit < shape.toJson.depth) :
    RefusedAsNested (String.ofList (shape.text style 0)) := by
  obtain ⟨trail, position, refused⟩ :=
    ofText_tooDeep blank wellFormed deep (show ([] : List Char).all Text.isBlank from rfl)
  rw [List.append_nil, ← String.toList_ofList (l := shape.text style 0)] at refused
  exact ⟨trail, .fault .nestingLimit, position, refused, rfl⟩

/-- The notation as a text is the text of the notation as a value, in both styles. Either text reads
back as the shape when the notation is nested at most 127 levels deep, and is refused for the limit
when it is nested deeper. -/
theorem read_compact_pretty (shape : Shape) (wellFormed : shape.WellFormed) :
    shape.compact = shape.toJson.compact ∧ shape.pretty = shape.toJson.pretty ∧
    (shape.toJson.depth ≤ 127 →
      Shape.read shape.compact = .ok shape ∧ Shape.read shape.pretty = .ok shape) ∧
    (127 < shape.toJson.depth → RefusedAsNested shape.compact ∧ RefusedAsNested shape.pretty) := by
  refine ⟨?_, ?_, fun fits => ⟨?_, ?_⟩, fun deep => ⟨?_, ?_⟩⟩
  · rw [compact, text_eq_text_toJson, Json.compact]
  · rw [pretty, text_eq_text_toJson, Json.pretty]
  · exact read_text Text.Style.blank_compact wellFormed fits
  · exact read_text Text.Style.blank_pretty wellFormed fits
  · exact refusedAsNested_text Text.Style.blank_compact wellFormed deep
  · exact refusedAsNested_text Text.Style.blank_pretty wellFormed deep

/-- A name with a quote, a backslash, a control character and a letter beyond ASCII reads back, and
a notation of 128 levels is refused. -/
theorem read_compact_pretty_escaped :
    let shape : Shape := .object [("\"\\\n\x01é", .union [.string, .array .null])]
    (shape.WellFormed ∧ shape.toJson.depth ≤ 127 ∧ Shape.read shape.compact = .ok shape ∧
      Shape.read shape.pretty = .ok shape) ∧
    (Shape.nestedPairs 63).WellFormed ∧ 127 < (Shape.nestedPairs 63).toJson.depth ∧
      RefusedAsNested (Shape.nestedPairs 63).compact := by
  intro shape
  have wellFormed : shape.WellFormed := by
    simp [shape, WellFormed, WellFormedFields, WellFormedAlternatives, Fields.Distinct]
  have fits : shape.toJson.depth ≤ 127 := by decide
  have deep : 127 < (Shape.nestedPairs 63).toJson.depth := by
    rw [depth_nestedPairs]
    decide
  obtain ⟨_, _, within, _⟩ := read_compact_pretty shape wellFormed
  obtain ⟨_, _, _, beyond⟩ := read_compact_pretty _ (wellFormed_nestedPairs 63)
  exact ⟨⟨wellFormed, fits, within fits⟩, wellFormed_nestedPairs 63, deep, (beyond deep).1⟩

end Shape

end JsonShape
