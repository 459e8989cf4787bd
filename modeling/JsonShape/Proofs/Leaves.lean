import JsonShape.Proofs.ReadBack
import JsonShape.Proofs.Trees

/-!
# Leaves in document order

The values without parts inside a value, with the steps to each, in document order. A reading
refuses a value for the first leaf that it refuses, and for nothing else.
-/
namespace JsonShape

/-! ## Steps that fail -/

section Outcomes

variable {ε δ α β : Type}

/-- Why a step failed, if it did. -/
def errorOf? : Except ε α → Option ε
  | .ok _ => none
  | .error error => some error

/-- A step without error has a result. -/
theorem errorOf?_eq_none_iff {step : Except ε α} :
    errorOf? step = none ↔ ∃ result, step = .ok result := by
  cases step <;> simp [errorOf?]

/-- A step has an error exactly when it fails with it. -/
theorem errorOf?_eq_some_iff {step : Except ε α} {error : ε} :
    errorOf? step = some error ↔ step = .error error := by
  cases step <;> simp [errorOf?]

/-- Changing the error of a step changes the error that is taken of it. -/
@[simp] theorem errorOf?_mapError (f : ε → δ) (step : Except ε α) :
    errorOf? (step.mapError f) = (errorOf? step).map f := by
  cases step <;> rfl

/-- A result that is changed fails as it does unchanged. -/
@[simp] theorem errorOf?_map (f : α → β) (step : Except ε α) :
    errorOf? (do let result ← step; return f result) = errorOf? step := by
  cases step <;> rfl

/-- The first of two steps that fail is the one that counts. -/
@[simp] theorem errorOf?_both {γ : Type} (f : α → β → γ) (step : Except ε α) (next : Except ε β) :
    errorOf? (do let first ← step; let second ← next; return f first second) =
      (errorOf? step).or (errorOf? next) := by
  cases step <;> cases next <;> rfl

end Outcomes

/-! ## Leaves of values -/

namespace Json

open Text (Trail Step)

/-- A leaf seen from one step further out. -/
def leafUnder (step : Step) (leaf : Trail × Scalar) : Trail × Scalar :=
  (step :: leaf.1, leaf.2)

mutual

/-- The values without parts inside a value, in document order. -/
def leaves : Json → List (Trail × Scalar)
  | .scalar value => [([], value)]
  | .array items => itemsLeaves 0 items
  | .object members => membersLeaves members

/-- The leaves of elements, the first of which has an index. -/
def itemsLeaves (index : Nat) : List Json → List (Trail × Scalar)
  | [] => []
  | item :: rest => (leaves item).map (leafUnder (.index index)) ++ itemsLeaves (index + 1) rest

/-- The leaves of members. -/
def membersLeaves : List (String × Json) → List (Trail × Scalar)
  | [] => []
  | (name, value) :: rest => (leaves value).map (leafUnder (.key name)) ++ membersLeaves rest

end

/-- Every value without parts inside a value is one of its leaves. -/
theorem eachScalar_iff {P : Scalar → Prop} {value : Json} :
    value.EachScalar P ↔ ∀ leaf ∈ value.leaves, P leaf.2 := by
  induction value with
  | scalar value => simp [leaves]
  | array items ih =>
    rw [eachScalar_array_iff, leaves]
    generalize 0 = index
    induction items generalizing index with
    | nil => simp [itemsLeaves]
    | cons item rest more =>
      have here := ih item List.mem_cons_self
      have others := more (fun other among => ih other (List.mem_cons_of_mem _ among)) (index + 1)
      simp only [List.forall_mem_cons, here, others, itemsLeaves, List.forall_mem_append,
        List.forall_mem_map, leafUnder]
  | object members ih =>
    rw [eachScalar_object_iff, leaves]
    induction members with
    | nil => simp [membersLeaves]
    | cons member rest more =>
      have here := ih member List.mem_cons_self
      have others := more fun other among => ih other (List.mem_cons_of_mem _ among)
      simp only [List.forall_mem_cons, here, others, membersLeaves, List.forall_mem_append,
        List.forall_mem_map, leafUnder]

end Json

namespace Text

variable {ε α : Type} (reading : Reading ε α)

/-- The refusal of a leaf, if it is refused. -/
def Reading.refusal? (leaf : Trail × Scalar) : Option (Refusal ε) :=
  (errorOf? (reading.scalar leaf.2)).map fun reason => ⟨leaf.1, reason⟩

/-- A leaf is refused one step further out as it is further in. -/
theorem Reading.findSome?_under (step : Step) (leaves : List (Trail × Scalar)) :
    (leaves.map (Json.leafUnder step)).findSome? reading.refusal? =
      (leaves.findSome? reading.refusal?).map (Refusal.under step) := by
  rw [List.findSome?_map, List.map_findSome?]
  congr 1
  funext leaf
  cases found : errorOf? (reading.scalar leaf.2) <;>
    simp [Reading.refusal?, Json.leafUnder, found, Refusal.under]

/-- A value is refused for the first of its leaves that is refused. -/
theorem Reading.errorOf?_ofJson (value : Json) :
    errorOf? (reading.ofJson value) = value.leaves.findSome? reading.refusal? := by
  induction value with
  | scalar value =>
    rw [Reading.ofJson, errorOf?_mapError, Json.leaves]
    cases found : errorOf? (reading.scalar value) <;> simp [Reading.refusal?, found]
  | array items ih =>
    rw [Reading.ofJson, errorOf?_map, Json.leaves]
    generalize 0 = index
    induction items generalizing index with
    | nil => rfl
    | cons item rest more =>
      have here := ih item List.mem_cons_self
      have others := more (fun other among => ih other (List.mem_cons_of_mem _ among)) (index + 1)
      rw [Reading.ofItems, errorOf?_both, errorOf?_mapError, here, others, Json.itemsLeaves,
        List.findSome?_append, Reading.findSome?_under]
  | object members ih =>
    rw [Reading.ofJson, errorOf?_map, Json.leaves]
    induction members with
    | nil => rfl
    | cons member rest more =>
      have here := ih member List.mem_cons_self
      have others := more fun other among => ih other (List.mem_cons_of_mem _ among)
      rw [Reading.ofMembers, errorOf?_both, errorOf?_mapError, here, others, Json.membersLeaves,
        List.findSome?_append, Reading.findSome?_under]

/-- A value has a meaning exactly when every leaf has one. -/
theorem Reading.ofJson_isOk_iff {reading : Reading ε α} {value : Json} :
    (∃ meaning, reading.ofJson value = .ok meaning) ↔
      value.EachScalar fun scalar => ∃ meaning, reading.scalar scalar = .ok meaning := by
  rw [← errorOf?_eq_none_iff, Reading.errorOf?_ofJson, List.findSome?_eq_none_iff,
    Json.eachScalar_iff]
  simp only [Reading.refusal?, Option.map_eq_none_iff, errorOf?_eq_none_iff]

end Text

end JsonShape
