import JsonShape.Inference
import JsonShape.Proofs.Conformance

/-!
# Lowered evidence

Evidence is lowered to its arms, one for each kind that occurred. What the arms are is said once,
and with it which slots conform to the shape they make.
-/
namespace JsonShape.Evidence

/-- The alternatives that evidence is lowered to. -/
def arms (optional : Bool) (evidence : Evidence) : List Shape :=
  arm evidence.string .string ++ arm evidence.number .number ++ arm evidence.bool .boolean ++
    objectArm evidence.objects ++ arrayArm evidence.items ++
    arm (evidence.nullable || optional) .null

/-- Lowered evidence is the shape of its arms. -/
theorem shape?_eq_shapeOfArms (optional : Bool) (evidence : Evidence) :
    evidence.shape? optional = shapeOfArms (evidence.arms optional) := by
  cases evidence
  rfl

/-- The shape of arrays whose elements gave evidence. -/
def arrayShape (items : Evidence) : Shape :=
  match items.shape? false with
  | none => .anyArray
  | some element => .array element

/-- Where arrays were seen, they give one arm. -/
theorem arrayArm_some (items : Evidence) : arrayArm (some items) = [arrayShape items] := by
  cases found : shape? false items <;> simp [arrayArm, arrayShape, found]

/-- The shape of a field of which a number of objects was seen. -/
def fieldShape (seen : UInt64) (field : String × Occurrence Evidence) : String × Shape :=
  (field.1, (field.2.evidence.shape? (field.2.count < seen)).getD .null)

/-- Fields are lowered one by one. -/
theorem fieldShapes_eq_map (seen : UInt64) (fields : List (String × Occurrence Evidence)) :
    fieldShapes seen fields = fields.map (fieldShape seen) := by
  induction fields with
  | nil => rfl
  | cons field rest ih => rw [fieldShapes, ih]; rfl

/-- Lowering keeps the names of fields. -/
@[simp] theorem names_fieldShapes (seen : UInt64) (fields : List (String × Occurrence Evidence)) :
    Fields.names (fieldShapes seen fields) = Fields.names fields := by
  simp [fieldShapes_eq_map, Fields.names, fieldShape, Function.comp_def]

/-- The arms are those of the kinds that occurred, and no others. -/
theorem mem_arms {optional : Bool} {evidence : Evidence} {shape : Shape} :
    shape ∈ evidence.arms optional ↔
      (evidence.string ∧ shape = .string) ∨ (evidence.number ∧ shape = .number) ∨
      (evidence.bool ∧ shape = .boolean) ∨
      (∃ objects, evidence.objects = some objects ∧
        shape = .object (fieldShapes objects.seen objects.fields)) ∨
      (∃ items, evidence.items = some items ∧ shape = arrayShape items) ∨
      ((evidence.nullable ∨ optional) ∧ shape = .null) := by
  have one (present : Bool) (candidate : Shape) :
      shape ∈ arm present candidate ↔ present ∧ shape = candidate := by
    cases present <;> simp [arm]
  have objects : shape ∈ objectArm evidence.objects ↔ ∃ objects,
      evidence.objects = some objects ∧
        shape = .object (fieldShapes objects.seen objects.fields) := by
    cases evidence.objects <;> simp [objectArm]
  have items : shape ∈ arrayArm evidence.items ↔ ∃ items,
      evidence.items = some items ∧ shape = arrayShape items := by
    cases evidence.items with
    | none => simp [arrayArm]
    | some items => simp [arrayArm_some]
  simp only [arms, List.mem_append, one, objects, items, Bool.or_eq_true, or_assoc]

/-- There is no shape exactly when nothing was seen. -/
theorem toShape?_eq_none_iff (evidence : Evidence) :
    evidence.toShape? = none ↔ evidence.isBottom := by
  have one (present : Bool) (shape : Shape) : arm present shape = [] ↔ present = false := by
    cases present <;> simp [arm]
  have objects : objectArm evidence.objects = [] ↔ evidence.objects = none := by
    cases evidence.objects <;> simp [objectArm]
  have items : arrayArm evidence.items = [] ↔ evidence.items = none := by
    cases evidence.items with
    | none => simp [arrayArm]
    | some items => simp [arrayArm_some]
  have whole : shapeOfArms (evidence.arms false) = none ↔ evidence.arms false = [] := by
    match evidence.arms false with
    | [] => simp [shapeOfArms]
    | [only] => simp [shapeOfArms]
    | first :: second :: rest => simp [shapeOfArms]
  rw [toShape?, shape?_eq_shapeOfArms, whole]
  simp only [arms, List.append_eq_nil_iff, one, objects, items, Bool.or_false, isBottom,
    Bool.and_eq_true, Bool.not_eq_true', Option.isNone_iff_eq_none]
  constructor
  · rintro ⟨⟨⟨⟨⟨string, number⟩, bool⟩, objects⟩, items⟩, nullable⟩
    exact ⟨⟨⟨⟨⟨nullable, bool⟩, number⟩, string⟩, items⟩, objects⟩
  · rintro ⟨⟨⟨⟨⟨nullable, bool⟩, number⟩, string⟩, items⟩, objects⟩
    exact ⟨⟨⟨⟨⟨string, number⟩, bool⟩, objects⟩, items⟩, nullable⟩

/-- A slot that conforms to an arm conforms to the shape of all arms. -/
theorem shapeOfArms_conforms {arms : List Shape} {arm : Shape} {slot : Slot} (among : arm ∈ arms)
    (conforms : Conforms arm slot) :
    ∃ shape, shapeOfArms arms = some shape ∧ Conforms shape slot := by
  match arms with
  | [only] =>
    obtain rfl := List.mem_singleton.mp among
    exact ⟨arm, rfl, conforms⟩
  | first :: second :: rest => exact ⟨_, rfl, .union among conforms⟩

/-- A slot that conforms to an arm of some evidence conforms to its shape. -/
theorem conforms_of_arm {optional : Bool} {evidence : Evidence} {arm : Shape} {slot : Slot}
    (among : arm ∈ evidence.arms optional) (conforms : Conforms arm slot) :
    ∃ shape, evidence.shape? optional = some shape ∧ Conforms shape slot := by
  rw [shape?_eq_shapeOfArms]
  exact shapeOfArms_conforms among conforms

/-- Optional evidence always has a shape, to which absence conforms. -/
theorem absent_conforms (evidence : Evidence) :
    ∃ shape, evidence.shape? true = some shape ∧ Conforms shape none :=
  conforms_of_arm (mem_arms.mpr (.inr (.inr (.inr (.inr (.inr ⟨.inr rfl, rfl⟩)))))) .absent

end JsonShape.Evidence
