import JsonShape.Proofs.Lowering

/-!
# What evidence admits

Evidence admits the slots that look like what was seen: of every kind that occurred, with elements
and fields that are admitted in turn. A field admits null and absence too when some object lacked
it, or when nothing was seen of it. The lowered shape accepts the admitted slots and no others,
whatever the counts are and whether or not samples could give such evidence.
-/
namespace JsonShape.Evidence

/-- The same evidence, in which null is seen as well if a condition holds. -/
def orNullable (also : Bool) (evidence : Evidence) : Evidence :=
  { evidence with nullable := evidence.nullable || also }

/-- Evidence stays as it is when the condition does not hold. -/
@[simp] theorem orNullable_false (evidence : Evidence) : evidence.orNullable false = evidence := by
  cases evidence
  rw [orNullable, Bool.or_false]

/-- What the values of a field are compared with: null and absence pass when fewer objects had the
field than were seen, or when nothing was seen of it. -/
def ofField (seen : UInt64) (occurrence : Occurrence Evidence) : Evidence :=
  occurrence.evidence.orNullable (occurrence.count < seen || occurrence.evidence.isBottom)

/-- The slots that evidence admits. -/
inductive Admits : Evidence → Slot → Prop where
  /-- Absence, where null was seen. -/
  | absent {evidence : Evidence} : evidence.nullable → Admits evidence none
  /-- Null, where null was seen. -/
  | null {evidence : Evidence} : evidence.nullable → Admits evidence (some .null)
  /-- A truth value, where one was seen. -/
  | bool {evidence : Evidence} (value : Bool) : evidence.bool →
      Admits evidence (some (.bool value))
  /-- A number, where one was seen. -/
  | number {evidence : Evidence} (value : Number) : evidence.number →
      Admits evidence (some (.number value))
  /-- A string, where one was seen. -/
  | string {evidence : Evidence} (value : String) : evidence.string →
      Admits evidence (some (.string value))
  /-- Any array, where arrays were seen but no element. -/
  | anyArray {evidence items : Evidence} (values : List Json) : evidence.items = some items →
      items.isBottom → Admits evidence (some (.array values))
  /-- An array of admitted elements, where arrays were seen. -/
  | array {evidence items : Evidence} {values : List Json} : evidence.items = some items →
      (∀ value ∈ values, Admits items (some value)) → Admits evidence (some (.array values))
  /-- An object, where objects were seen, in which every field that any of them had is admitted. -/
  | object {evidence : Evidence} {objects : Objects Evidence} {members : List (String × Json)} :
      evidence.objects = some objects →
      (∀ field ∈ objects.fields,
        Admits (ofField objects.seen field.2) (Fields.get? field.1 members)) →
      Admits evidence (some (.object members))

/-! ## Evidence of nothing -/

/-- Only empty evidence has seen nothing. -/
theorem isBottom_iff_eq_empty {evidence : Evidence} : evidence.isBottom ↔ evidence = empty := by
  cases evidence
  simp [isBottom, empty, and_assoc]

/-- There is no shape exactly when nothing was seen and absence need not pass. -/
theorem shape?_eq_none_iff {optional : Bool} {evidence : Evidence} :
    evidence.shape? optional = none ↔ evidence.isBottom ∧ optional = false := by
  cases optional with
  | false =>
    have lowered := toShape?_eq_none_iff evidence
    rw [toShape?] at lowered
    simp [lowered]
  | true =>
    obtain ⟨shape, found, _⟩ := absent_conforms evidence
    simp [found]

/-- Where nothing was seen but null, only null and absence are admitted. -/
theorem admits_nullable_empty_iff {slot : Slot} :
    (empty.orNullable true).Admits slot ↔ Conforms .null slot := by
  constructor
  · intro admitted
    cases admitted with
    | absent _ => exact .absent
    | null _ => exact .null
    | bool _ seen => cases seen
    | number _ seen => cases seen
    | string _ seen => cases seen
    | anyArray _ held _ => cases held
    | array held _ => cases held
    | object held _ => cases held
  · intro conforms
    cases conforms with
    | absent => exact .absent rfl
    | null => exact .null rfl

/-! ## Lowering part by part -/

/-- The lowered shape accepts what the evidence admits, and nothing else. -/
def Exact (evidence : Evidence) : Prop :=
  ∀ optional shape, evidence.shape? optional = some shape →
    ∀ slot, Conforms shape slot ↔ (evidence.orNullable optional).Admits slot

/-- A slot conforms to the shape of some arms when it conforms to one of them. -/
theorem conforms_shapeOfArms_iff {arms : List Shape} {shape : Shape}
    (made : shapeOfArms arms = some shape) {slot : Slot} :
    Conforms shape slot ↔ ∃ arm ∈ arms, Conforms arm slot := by
  match arms with
  | [] => cases made
  | [only] =>
    cases made
    simp
  | first :: second :: rest =>
    cases made
    constructor
    · intro conforms
      cases conforms with
      | union among conforms => exact ⟨_, among, conforms⟩
    · rintro ⟨arm, among, conforms⟩
      exact .union among conforms

/-- The shape of a field accepts what the field admits. -/
theorem conforms_fieldShape_iff {seen : UInt64} {field : String × Occurrence Evidence}
    (lowers : field.2.evidence.Exact) {slot : Slot} :
    Conforms (fieldShape seen field).2 slot ↔ (ofField seen field.2).Admits slot := by
  rw [fieldShape, ofField]
  cases lowered : field.2.evidence.shape? (field.2.count < seen) with
  | none =>
    obtain ⟨bottom, _⟩ := shape?_eq_none_iff.mp lowered
    rw [bottom, Bool.or_true, isBottom_iff_eq_empty.mp bottom]
    exact admits_nullable_empty_iff.symm
  | some shape =>
    -- Evidence of nothing has a shape only where absence passes already.
    have due : (decide (field.2.count < seen) || field.2.evidence.isBottom) =
        decide (field.2.count < seen) := by
      rw [Bool.or_eq_left_iff_imp]
      intro bottom
      cases counted : decide (field.2.count < seen) with
      | true => rfl
      | false => cases lowered.symm.trans (shape?_eq_none_iff.mpr ⟨bottom, counted⟩)
    rw [due]
    exact lowers _ _ lowered slot

/-- The shape of arrays accepts arrays of admitted elements, and any array where no element was
seen. -/
theorem conforms_arrayShape_iff {items : Evidence} (lowers : items.Exact) {slot : Slot} :
    Conforms (arrayShape items) slot ↔
      ∃ values, slot = some (.array values) ∧
        (items.isBottom ∨ ∀ value ∈ values, items.Admits (some value)) := by
  rw [arrayShape]
  cases lowered : items.shape? false with
  | none =>
    obtain ⟨bottom, _⟩ := shape?_eq_none_iff.mp lowered
    constructor
    · intro conforms
      cases conforms with
      | anyArray values => exact ⟨values, rfl, .inl bottom⟩
    · rintro ⟨values, rfl, _⟩
      exact .anyArray values
  | some element =>
    have seen : ¬ items.isBottom := by
      intro bottom
      cases lowered.symm.trans (shape?_eq_none_iff.mpr ⟨bottom, rfl⟩)
    have each (value : Json) : Conforms element (some value) ↔ items.Admits (some value) := by
      rw [lowers _ _ lowered, orNullable_false]
    constructor
    · intro conforms
      cases conforms with
      | array elements =>
        exact ⟨_, rfl, .inr fun value among => (each value).mp (elements value among)⟩
    · rintro ⟨values, rfl, bottom | elements⟩
      · exact absurd bottom seen
      · exact .array fun value among => (each value).mpr (elements value among)

/-- The shape of objects accepts objects of which every field is admitted. -/
theorem conforms_objectShape_iff {objects : Objects Evidence}
    (lowers : ∀ field ∈ objects.fields, field.2.evidence.Exact) {slot : Slot} :
    Conforms (.object (fieldShapes objects.seen objects.fields)) slot ↔
      ∃ members, slot = some (.object members) ∧ ∀ field ∈ objects.fields,
        (ofField objects.seen field.2).Admits (Fields.get? field.1 members) := by
  rw [fieldShapes_eq_map]
  have each (members : List (String × Json)) (field : String × Occurrence Evidence)
      (among : field ∈ objects.fields) :
      Conforms (fieldShape objects.seen field).2 (Fields.get? field.1 members) ↔
        (ofField objects.seen field.2).Admits (Fields.get? field.1 members) :=
    conforms_fieldShape_iff (lowers field among)
  constructor
  · intro conforms
    cases conforms with
    | object fields =>
      rw [List.forall_mem_map] at fields
      exact ⟨_, rfl, fun field among => (each _ field among).mp (fields field among)⟩
  · rintro ⟨members, rfl, admitted⟩
    apply Conforms.object
    rw [List.forall_mem_map]
    exact fun field among => (each members field among).mpr (admitted field among)

/-- Lowering is exact for the elements and for every field. -/
structure ExactParts (evidence : Evidence) : Prop where
  /-- It is for the elements. -/
  elements : ∀ items, evidence.items = some items → items.Exact
  /-- It is for the fields. -/
  fields : ∀ objects, evidence.objects = some objects →
    ∀ field ∈ objects.fields, field.2.evidence.Exact

section Arms

variable {evidence : Evidence} {optional : Bool} {slot : Slot}

/-- What conforms to an arm is admitted. -/
theorem ExactParts.admits_of_arm (parts : evidence.ExactParts) {arm : Shape}
    (among : arm ∈ evidence.arms optional) (conforms : Conforms arm slot) :
    (evidence.orNullable optional).Admits slot := by
  rcases mem_arms.mp among with ⟨seen, rfl⟩ | ⟨seen, rfl⟩ | ⟨seen, rfl⟩ | ⟨objects, held, rfl⟩ |
    ⟨items, held, rfl⟩ | ⟨passes, rfl⟩
  · cases conforms with
    | ofKind described =>
      cases described
      exact .string _ seen
  · cases conforms with
    | ofKind described =>
      cases described
      exact .number _ seen
  · cases conforms with
    | ofKind described =>
      cases described
      exact .bool _ seen
  · obtain ⟨members, rfl, admitted⟩ :=
      (conforms_objectShape_iff (parts.fields objects held)).mp conforms
    exact .object held admitted
  · obtain ⟨values, rfl, bottom | admitted⟩ :=
      (conforms_arrayShape_iff (parts.elements items held)).mp conforms
    · exact .anyArray values held bottom
    · exact .array held admitted
  · have nullable : (evidence.orNullable optional).nullable := Bool.or_eq_true_iff.mpr passes
    cases conforms with
    | absent => exact .absent nullable
    | null => exact .null nullable

/-- What is admitted conforms to an arm: that of its kind. -/
theorem ExactParts.exists_arm (parts : evidence.ExactParts)
    (admitted : (evidence.orNullable optional).Admits slot) :
    ∃ arm ∈ evidence.arms optional, Conforms arm slot := by
  have nulls (nullable : (evidence.orNullable optional).nullable) :
      Shape.null ∈ evidence.arms optional := by
    have passes : evidence.nullable ∨ optional := Bool.or_eq_true_iff.mp nullable
    exact mem_arms.mpr (.inr (.inr (.inr (.inr (.inr ⟨passes, rfl⟩)))))
  have arrays {items : Evidence} (held : evidence.items = some items) :
      arrayShape items ∈ evidence.arms optional :=
    mem_arms.mpr (.inr (.inr (.inr (.inr (.inl ⟨items, held, rfl⟩)))))
  cases admitted with
  | absent nullable => exact ⟨.null, nulls nullable, .absent⟩
  | null nullable => exact ⟨.null, nulls nullable, .null⟩
  | bool value seen =>
    exact ⟨.boolean, mem_arms.mpr (.inr (.inr (.inl ⟨seen, rfl⟩))), .ofKind (.boolean value)⟩
  | number value seen =>
    exact ⟨.number, mem_arms.mpr (.inr (.inl ⟨seen, rfl⟩)), .ofKind (.number value)⟩
  | string value seen =>
    exact ⟨.string, mem_arms.mpr (.inl ⟨seen, rfl⟩), .ofKind (.string value)⟩
  | anyArray values held bottom =>
    refine ⟨_, arrays held, (conforms_arrayShape_iff (parts.elements _ held)).mpr ?_⟩
    exact ⟨values, rfl, .inl bottom⟩
  | array held each =>
    refine ⟨_, arrays held, (conforms_arrayShape_iff (parts.elements _ held)).mpr ?_⟩
    exact ⟨_, rfl, .inr each⟩
  | @object _ objects members held each =>
    have among : Shape.object (fieldShapes objects.seen objects.fields) ∈ evidence.arms optional :=
      mem_arms.mpr (.inr (.inr (.inr (.inl ⟨objects, held, rfl⟩))))
    refine ⟨_, among, (conforms_objectShape_iff (parts.fields objects held)).mpr ?_⟩
    exact ⟨members, rfl, each⟩

/-- Lowering is exact once it is for the parts. -/
theorem ExactParts.exact (parts : evidence.ExactParts) : evidence.Exact := by
  intro optional shape lowered slot
  rw [shape?_eq_shapeOfArms] at lowered
  rw [conforms_shapeOfArms_iff lowered]
  constructor
  · rintro ⟨arm, among, conforms⟩
    exact parts.admits_of_arm among conforms
  · intro admitted
    exact parts.exists_arm admitted

end Arms

/-- Lowering is exact for all evidence, by induction on what was seen inside. -/
theorem exact_shape? (evidence : Evidence) : evidence.Exact := by
  induction evidence using Evidence.induction with
  | intro evidence elements fields => exact ExactParts.exact ⟨elements, fields⟩

/-- Evidence has a shape exactly when something was seen, and the shape accepts the slots that the
evidence admits and no others. -/
theorem toShape?_check_iff_admits (evidence : Evidence) :
    (evidence.toShape? = none ↔ evidence.isBottom) ∧
    (evidence.isBottom = false → ∃ shape, evidence.toShape? = some shape ∧
      ∀ slot, shape.check slot = [] ↔ evidence.Admits slot) := by
  have whether := toShape?_eq_none_iff evidence
  refine ⟨whether, fun seen => ?_⟩
  cases lowered : evidence.toShape? with
  | none =>
    rw [whether.mp lowered] at seen
    cases seen
  | some shape =>
    refine ⟨shape, rfl, fun slot => ?_⟩
    rw [Shape.check_eq_nil_iff_conforms, exact_shape? evidence false shape lowered,
      orNullable_false]

/-- Counts that no samples give: two fields were in more objects than there were, and of one of them
nothing was seen. An object may lack that one, and it may lack a field that one of two objects had,
but not the third. -/
theorem toShape?_check_iff_admits_miscounted :
    let numbers : Evidence := { empty with number := true }
    let arrays : Evidence := { empty with items := some empty }
    let evidence : Evidence :=
      { empty with
        string := true
        objects := some ⟨2, [("id", ⟨5, numbers⟩), ("gone", ⟨9, empty⟩), ("tags", ⟨1, arrays⟩)]⟩ }
    let shape : Shape := .either .string
      (.object [("id", .number), ("gone", .null), ("tags", .either .anyArray .null)])
    let zero : Json := .number (.double (.zero false))
    evidence.isBottom = false ∧ evidence.toShape? = some shape ∧
      evidence.Admits (some (.object [("tags", .array [.null]), ("id", zero)])) ∧
      ¬ evidence.Admits (some (.object [("tags", .array [.null])])) := by
  intro numbers arrays evidence shape zero
  have seen : evidence.isBottom = false := rfl
  have lowered : evidence.toShape? = some shape := rfl
  obtain ⟨_, accepts⟩ := toShape?_check_iff_admits evidence
  obtain ⟨other, found, exactly⟩ := accepts seen
  obtain rfl : shape = other := Option.some.inj (lowered.symm.trans found)
  refine ⟨seen, lowered, (exactly _).mp rfl, fun admitted => ?_⟩
  cases (exactly _).mpr admitted

end JsonShape.Evidence
