import JsonShape.Proofs.ReadBack
import JsonShape.Proofs.Trees

/-!
# The notation of a shape reads back

The notation as a text is the text of the notation as a value, and reading the value gives a
well-formed shape back. So the text of a shape reads back as the shape while its notation is
nested within the limit, and is refused for the limit otherwise. How deep a notation is nested is
told by the shape: objects and arrays add a level, and so does every union.
-/
namespace JsonShape.Shape

open Text

/-- Fields are written as documents one by one. -/
theorem fieldsToJson_eq_map (fields : List (String × Shape)) :
    fieldsToJson fields = fields.map fun field => (field.1, field.2.toJson) := by
  induction fields with
  | nil => rfl
  | cons field rest ih => rw [fieldsToJson, ih, List.map_cons]

/-- Alternatives are written as documents one by one. -/
theorem alternativesToJson_eq_map (alternatives : List Shape) :
    alternativesToJson alternatives = alternatives.map toJson := by
  induction alternatives with
  | nil => rfl
  | cons alternative rest ih => rw [alternativesToJson, ih, List.map_cons]

/-- Fields are written as texts one by one, each behind its name. -/
theorem fieldTexts_eq_map (style : Style) (level : Nat) (fields : List (String × Shape)) :
    fieldTexts style level fields =
      fields.map fun field => keyed style field.1 (field.2.text style level) := by
  induction fields with
  | nil => rfl
  | cons field rest ih => rw [fieldTexts, ih, List.map_cons]

/-- Alternatives are written as texts one by one. -/
theorem alternativeTexts_eq_map (style : Style) (level : Nat) (alternatives : List Shape) :
    alternativeTexts style level alternatives = alternatives.map (text style level) := by
  induction alternatives with
  | nil => rfl
  | cons alternative rest ih => rw [alternativeTexts, ih, List.map_cons]

/-- The notation as a text is the text of the notation as a value. -/
theorem text_eq_text_toJson (style : Style) (level : Nat) (shape : Shape) :
    shape.text style level = shape.toJson.text style level := by
  induction shape generalizing level with
  | ofKind kind => rfl
  | null => rfl
  | anyArray => rfl
  | array element ih =>
    rw [text, ih]
    rfl
  | object fields ih =>
    rw [text, toJson, Json.text, fieldTexts_eq_map, fieldsToJson_eq_map, Json.memberTexts_eq_map,
      List.map_map]
    congr 1
    refine List.map_congr_left fun field among => ?_
    rw [ih field among]
    rfl
  | union alternatives ih =>
    rw [text, toJson, Json.text, alternativeTexts_eq_map, alternativesToJson_eq_map,
      Json.itemTexts_eq_map, List.map_map]
    congr 1
    exact List.map_congr_left fun alternative among => ih alternative among (level + 1)

/-- A notation holds no numbers, so all of it is read as it is written. -/
theorem readsBack_toJson (shape : Shape) : shape.toJson.EachScalar Scalar.ReadsBack := by
  induction shape with
  | ofKind kind => exact .scalar trivial
  | null => exact .scalar trivial
  | anyArray => exact .array fun _ none => by cases none
  | array element ih =>
    refine .array fun item among => ?_
    obtain rfl := List.mem_singleton.mp among
    exact ih
  | object fields ih =>
    refine .object fun member among => ?_
    rw [fieldsToJson_eq_map] at among
    obtain ⟨field, there, rfl⟩ := List.mem_map.mp among
    exact ih field there
  | union alternatives ih =>
    refine .array fun item among => ?_
    rw [alternativesToJson_eq_map] at among
    obtain ⟨alternative, there, rfl⟩ := List.mem_map.mp among
    exact ih alternative there

/-! ## Reading the notation as a value -/

/-- The name of a kind is read as the kind. -/
theorem ofScalar_kindName (kind : Kind) : ofScalar (.string kind.name) = .ok (.ofKind kind) := by
  rw [ofScalar, Kind.ofName?_name]

/-- The notation of a well-formed shape is read as the shape. -/
theorem ofJson_toJson {shape : Shape} (wellFormed : shape.WellFormed) :
    notationReading.ofJson shape.toJson = .ok shape := by
  induction shape with
  | ofKind kind =>
    rw [toJson, Reading.ofJson]
    exact mapError_eq_ok.mpr (ofScalar_kindName kind)
  | null => rfl
  | anyArray => rfl
  | array element ih =>
    rw [toJson, Reading.ofJson, Reading.ofItems, ih wellFormed]
    rfl
  | object fields ih =>
    obtain ⟨distinct, each⟩ := wellFormed_object_iff.mp wellFormed
    have parts := Reading.ofMembers_map toJson id
      fun field among => ih field among (each field among)
    simp only [id_eq, List.map_id'] at parts
    rw [toJson, Reading.ofJson, fieldsToJson_eq_map, parts]
    show Except.ok (ofFields fields) = _
    rw [ofFields, Fields.ofEntries_of_distinct distinct]
  | union alternatives ih =>
    obtain ⟨several, each⟩ := wellFormed_union_iff.mp wellFormed
    have parts := Reading.ofItems_map toJson id 0
      fun alternative among => ih alternative among (each alternative among)
    rw [List.map_id] at parts
    rw [toJson, Reading.ofJson, alternativesToJson_eq_map, parts]
    show Except.ok (ofSequence alternatives) = _
    -- A sequence of one notation would read as an array, which two alternatives rule out.
    cases alternatives with
    | nil => cases several
    | cons first rest =>
      cases rest with
      | nil => exact absurd several (show ¬ 2 ≤ 1 by decide)
      | cons second rest => rfl

/-! ## Reading the notation as a text -/

variable {style : Style} {shape : Shape} {blanks : List Char}

/-- A written well-formed shape, with blanks behind it, is read as itself while its notation is
nested within the limit. -/
theorem ofText_text (blank : style.Blank) (wellFormed : shape.WellFormed)
    (fits : shape.toJson.depth ≤ nestingLimit) (all : blanks.all isBlank) :
    ofText (shape.text style 0 ++ blanks) = .ok shape := by
  rw [ofText, text_eq_text_toJson,
    Reading.ofText_text blank (readsBack_toJson shape) (ofJson_toJson wellFormed) fits all]
  rfl

/-- A written well-formed shape whose notation is nested past the limit is refused for it. -/
theorem ofText_tooDeep (blank : style.Blank) (wellFormed : shape.WellFormed)
    (deep : nestingLimit < shape.toJson.depth) (all : blanks.all isBlank) :
    ∃ trail position, ofText (shape.text style 0 ++ blanks) =
      .error (.invalid trail (.fault .nestingLimit) (some position)) := by
  obtain ⟨trail, place, read⟩ := Reading.ofText_tooDeep blank (readsBack_toJson shape)
    (ofJson_toJson wellFormed) deep all
  rw [ofText, text_eq_text_toJson, read]
  exact ⟨trail, _, rfl⟩

end JsonShape.Shape
