import JsonShape.Proofs.Associativity
import JsonShape.Proofs.Inferred
import JsonShape.Proofs.Unordered

/-!
# Joins in any order

Evidence can be read position by position: a position is reached through elements and fields, and
what is marked there says nothing about the order of fields. A join marks at every position what
both lots mark there, added up, so it does not depend on which lot comes first. Evidence with the
same marks everywhere is the same up to the order of fields, and so are the shapes that it is
lowered to. Hence samples can be observed in portions, and reordering the portions changes the
order of fields at most.
-/
namespace JsonShape.Evidence

/-! ## Marks -/

/-- A step from a position of evidence to one below it. -/
inductive Descent where
  /-- To the elements of the arrays. -/
  | element
  /-- To the values of a field. -/
  | field (name : String)

/-- What is marked at one position, apart from what is below it. -/
structure Mark where
  /-- How many objects had the field that leads here. -/
  count : UInt64
  /-- Whether null occurred, or a value was missing. -/
  nullable : Bool
  /-- Whether a truth value occurred. -/
  bool : Bool
  /-- Whether a number occurred. -/
  number : Bool
  /-- Whether a string occurred. -/
  string : Bool
  /-- Whether an array occurred. -/
  array : Bool
  /-- How many objects there were, if one occurred. -/
  seen : Option UInt64

/-- The marks of two lots, added up. -/
def Mark.join (first second : Mark) : Mark where
  count := first.count + second.count
  nullable := first.nullable || second.nullable
  bool := first.bool || second.bool
  number := first.number || second.number
  string := first.string || second.string
  array := first.array || second.array
  seen := Option.merge (· + ·) first.seen second.seen

/-- Marks are joined in either order. -/
instance : Std.Commutative Mark.join where
  comm first second := by
    have words : Std.Commutative fun count other : UInt64 => count + other := ⟨UInt64.add_comm⟩
    have seen : Option.merge (· + ·) first.seen second.seen =
        Option.merge (· + ·) second.seen first.seen := Std.Commutative.comm _ _
    simp only [Mark.join, UInt64.add_comm, Bool.or_comm, seen]

/-- Marks are joined in any grouping. -/
instance : Std.Associative Mark.join where
  assoc first second third := by
    have words : Std.Associative fun count other : UInt64 => count + other := ⟨UInt64.add_assoc⟩
    have seen : Option.merge (· + ·) (Option.merge (· + ·) first.seen second.seen) third.seen =
        Option.merge (· + ·) first.seen (Option.merge (· + ·) second.seen third.seen) :=
      Std.Associative.assoc _ _ _
    simp only [Mark.join, UInt64.add_assoc, Bool.or_assoc, seen]

/-- What is marked at the position to which steps lead, if there is one. -/
def mark? : List Descent → Occurrence Evidence → Option Mark
  | [], ⟨count, evidence⟩ =>
    some ⟨count, evidence.nullable, evidence.bool, evidence.number, evidence.string,
      evidence.items.isSome, evidence.objects.map Objects.seen⟩
  | .element :: rest, ⟨_, evidence⟩ =>
    evidence.items.bind fun items => mark? rest ⟨0, items⟩
  | .field name :: rest, ⟨_, evidence⟩ =>
    evidence.objects.bind fun objects => (Fields.get? name objects.fields).bind (mark? rest)

/-- The same is marked at every position. -/
def Alike (first second : Occurrence Evidence) : Prop :=
  ∀ steps, mark? steps first = mark? steps second

/-- What two lots have of a field is marked as in both, added up. -/
theorem mark?_joinedOccurrence (steps : List Descent) (first second : Occurrence Evidence) :
    mark? steps (joinedOccurrence first second) =
      Option.merge Mark.join (mark? steps first) (mark? steps second) := by
  induction steps generalizing first second with
  | nil =>
    have items : (joinItems first.evidence.items second.evidence.items).isSome =
        (first.evidence.items.isSome || second.evidence.items.isSome) := by
      cases first.evidence.items <;> cases second.evidence.items <;> rfl
    have objects : (joinObjects first.evidence.objects second.evidence.objects).map Objects.seen =
        Option.merge (· + ·) (first.evidence.objects.map Objects.seen)
          (second.evidence.objects.map Objects.seen) := by
      cases first.evidence.objects <;> cases second.evidence.objects <;> rfl
    simp [mark?, joinedOccurrence, Mark.join, Option.merge, items, objects]
  | cons step rest ih =>
    cases step with
    | element =>
      have below : (joinItems first.evidence.items second.evidence.items).bind
            (fun items => mark? rest ⟨0, items⟩) =
          Option.merge Mark.join (first.evidence.items.bind fun items => mark? rest ⟨0, items⟩)
            (second.evidence.items.bind fun items => mark? rest ⟨0, items⟩) := by
        cases first.evidence.items with
        | none => cases second.evidence.items <;> simp [joinItems]
        | some one =>
          cases second.evidence.items with
          | none => simp [joinItems]
          | some other => exact ih ⟨0, one⟩ ⟨0, other⟩
      simpa [mark?, joinedOccurrence] using below
    | field name =>
      have joined (one other : Option (Occurrence Evidence)) :
          (joinedOccurrences one other).bind (mark? rest) =
            Option.merge Mark.join (one.bind (mark? rest)) (other.bind (mark? rest)) := by
        cases one with
        | none => cases other <;> simp [joinedOccurrences]
        | some one =>
          cases other with
          | none => simp [joinedOccurrences]
          | some other => exact ih one other
      have below : (joinObjects first.evidence.objects second.evidence.objects).bind
            (fun objects => (Fields.get? name objects.fields).bind (mark? rest)) =
          Option.merge Mark.join
            (first.evidence.objects.bind fun objects =>
              (Fields.get? name objects.fields).bind (mark? rest))
            (second.evidence.objects.bind fun objects =>
              (Fields.get? name objects.fields).bind (mark? rest)) := by
        cases first.evidence.objects with
        | none => cases second.evidence.objects <;> simp [joinObjects]
        | some objects =>
          cases second.evidence.objects with
          | none => simp [joinObjects]
          | some others =>
            show (Fields.get? name (joinedObjects objects others).fields).bind (mark? rest) = _
            rw [get?_joinedObjects, joined]
            rfl
      simpa [mark?, joinedOccurrence] using below

/-- Two lots joined in either order have the same marks. -/
theorem alike_join_comm (left right : Evidence) :
    Alike ⟨0, left.join right⟩ ⟨0, right.join left⟩ := by
  intro steps
  have forward := mark?_joinedOccurrence steps ⟨0, left⟩ ⟨0, right⟩
  have backward := mark?_joinedOccurrence steps ⟨0, right⟩ ⟨0, left⟩
  calc mark? steps ⟨0, left.join right⟩
    _ = Option.merge Mark.join (mark? steps ⟨0, left⟩) (mark? steps ⟨0, right⟩) := forward
    _ = Option.merge Mark.join (mark? steps ⟨0, right⟩) (mark? steps ⟨0, left⟩) :=
      Std.Commutative.comm _ _
    _ = mark? steps ⟨0, right.join left⟩ := backward.symm

/-! ## The same marks -/

namespace Alike

variable {first second : Occurrence Evidence}

/-- Lots with the same marks have the same flags and counts. -/
theorem here (alike : Alike first second) : mark? [] first = mark? [] second :=
  alike []

/-- Elements below the same marks have the same marks. -/
theorem items (alike : Alike first second) :
    Option.Rel (fun one other => Alike ⟨0, one⟩ ⟨0, other⟩) first.evidence.items
      second.evidence.items := by
  have array : first.evidence.items.isSome = second.evidence.items.isSome :=
    congrArg Mark.array (Option.some.inj alike.here)
  have below := fun steps => alike (.element :: steps)
  simp only [mark?] at below
  cases one : first.evidence.items <;> cases other : second.evidence.items <;>
    rw [one, other] at array below
  · exact .none
  · cases array
  · cases array
  · exact .some below

/-- Objects below the same marks are equally many, and their fields have the same marks. -/
theorem objects (alike : Alike first second) :
    Option.Rel (fun one other => one.seen = other.seen ∧
        Fields.Matched Alike one.fields other.fields)
      first.evidence.objects second.evidence.objects := by
  have seen : first.evidence.objects.map Objects.seen =
      second.evidence.objects.map Objects.seen :=
    congrArg Mark.seen (Option.some.inj alike.here)
  have below := fun name steps => alike (.field name :: steps)
  simp only [mark?] at below
  cases one : first.evidence.objects <;> cases other : second.evidence.objects <;>
    rw [one, other] at seen below
  · exact .none
  · cases seen
  · cases seen
  · refine .some ⟨Option.some.inj seen, fun name => ?_⟩
    have marks := below name
    simp only [Option.bind_some] at marks
    -- A field that is there is marked, whatever is below it.
    cases found : Fields.get? name _ <;> cases also : Fields.get? name _ <;>
      rw [found, also] at marks
    · exact .none
    · cases marks []
    · cases marks []
    · exact .some marks

/-- Evidence with the same marks is the same up to the order of fields. -/
theorem same (alike : Alike first second) (named : first.evidence.Named)
    (otherNamed : second.evidence.Named) : first.evidence.same second.evidence := by
  obtain ⟨count, left⟩ := first
  obtain ⟨otherCount, right⟩ := second
  dsimp only at named otherNamed ⊢
  induction named generalizing count otherCount right with
  | @intro left _ distinct _ ihItems ihFields =>
    obtain ⟨namedItems, otherDistinct, namedFields⟩ := otherNamed
    have flags := Option.some.inj alike.here
    rw [same_iff]
    refine ⟨?_, ?_, ?_⟩
    · exact ⟨congrArg Mark.nullable flags, congrArg Mark.bool flags, congrArg Mark.number flags,
        congrArg Mark.string flags⟩
    · rcases optionRel_iff.mp alike.items with ⟨one, other⟩ | ⟨_, _, one, other, below⟩
      · rw [one, other]
        rfl
      · rw [one, other]
        exact ihItems _ one 0 0 _ (namedItems _ other) below
    · rcases optionRel_iff.mp alike.objects with ⟨one, other⟩ | ⟨_, _, one, other, seen, matched⟩
      · rw [one, other]
        rfl
      · rw [one, other, sameObjects_iff (distinct _ one) (otherDistinct _ other)]
        refine ⟨seen, fun name => ?_⟩
        rcases optionRel_iff.mp (matched name) with ⟨none, also⟩ | ⟨_, _, found, also, below⟩
        · rw [none, also]
          exact .none
        · rw [found, also]
          exact .some ⟨congrArg Mark.count (Option.some.inj below.here),
            ihFields _ one _ (Fields.mem_of_get? found) _ _ _
              (namedFields _ other _ (Fields.mem_of_get? also)) below⟩

end Alike

/-! ## The same shapes -/

/-- Evidence that is the same up to the order of fields is lowered to shapes that are. -/
theorem shapes_of_same {left right : Evidence} (named : left.Named) (otherNamed : right.Named)
    (same : left.same right) (optional : Bool) :
    Option.Rel (fun shape other => shape.same other) (left.shape? optional)
      (right.shape? optional) := by
  induction named generalizing right optional with
  | @intro left _ distinct _ ihItems ihFields =>
    obtain ⟨namedItems, otherDistinct, namedFields⟩ := otherNamed
    obtain ⟨⟨nullable, bool, number, string⟩, sameItems, sameObjects⟩ := same_iff.mp same
    have objectArms : List.Forall₂ (fun arm other => arm.same other) (objectArm left.objects)
        (objectArm right.objects) := by
      cases one : left.objects <;> cases other : right.objects <;>
        rw [one, other] at sameObjects
      · exact .nil
      · cases sameObjects
      · cases sameObjects
      · rw [sameObjects_iff (distinct _ one) (otherDistinct _ other)] at sameObjects
        obtain ⟨seen, matched⟩ := sameObjects
        rw [objectArm, objectArm, ← seen]
        refine .cons (same_fieldShapes (distinct _ one) (otherDistinct _ other) fun name => ?_) .nil
        rcases optionRel_iff.mp (matched name) with
          ⟨none, also⟩ | ⟨_, _, found, also, counts, below⟩
        · rw [none, also]
          exact .none
        · rw [found, also]
          exact .some ⟨counts, ihFields _ one _ (Fields.mem_of_get? found)
            (namedFields _ other _ (Fields.mem_of_get? also)) below⟩
    have arrayArms : List.Forall₂ (fun arm other => arm.same other) (arrayArm left.items)
        (arrayArm right.items) := by
      cases one : left.items <;> cases other : right.items <;> rw [one, other] at sameItems
      · exact .nil
      · cases sameItems
      · cases sameItems
      · rw [arrayArm_some, arrayArm_some]
        exact .cons (same_arrayShape (ihItems _ one (namedItems _ other) sameItems false)) .nil
    rw [shape?_eq_shapeOfArms, shape?_eq_shapeOfArms, arms, arms, nullable, bool, number, string]
    exact same_shapeOfKinds right.string right.number right.bool (right.nullable || optional)
      objectArms arrayArms

/-! ## Portions of samples -/

/-- Lots of evidence joined in order. -/
def joined (lots : List Evidence) : Evidence :=
  lots.foldl join empty

/-- The evidence of a portion of samples, observed on their own. -/
def ofSamples (samples : List Json) : Evidence :=
  (Inference.start.observeAll samples).evidence

/-- The evidence of samples is their fold from nothing. -/
theorem ofSamples_eq_joinAll (samples : List Json) : ofSamples samples = joinAll empty samples :=
  Inference.evidence_observeAll .start samples

/-- The evidence of samples repeats no name that the samples do not repeat. -/
theorem named_ofSamples {samples : List Json} (distinct : ∀ sample ∈ samples, sample.Distinct) :
    (ofSamples samples).Named := by
  rw [ofSamples_eq_joinAll]
  exact Named.joinAll Everywhere.empty fun sample among => named_ofJson (distinct sample among)

/-- Portions joined in order give the evidence of all samples. -/
theorem joined_portions (portions : List (List Json)) :
    joined (portions.map ofSamples) = ofSamples portions.flatten := by
  have behind : ∀ start : Evidence,
      (portions.map ofSamples).foldl join start = start.joinAll portions.flatten := by
    induction portions with
    | nil => exact fun _ => rfl
    | cons portion rest ih =>
      intro start
      rw [List.map_cons, List.foldl_cons, ih, ofSamples_eq_joinAll, join_joinAll,
        List.flatten_cons, joinAll_append]
  rw [joined, behind, ofSamples_eq_joinAll]

/-- Nor does the joined evidence of portions. -/
theorem named_joined {portions : List (List Json)}
    (distinct : ∀ portion ∈ portions, ∀ sample ∈ portion, sample.Distinct) :
    (joined (portions.map ofSamples)).Named := by
  rw [joined_portions]
  refine named_ofSamples fun sample among => ?_
  obtain ⟨portion, there, inside⟩ := List.mem_flatten.mp among
  exact distinct portion there sample inside

/-- Lots joined in another order have the same marks. -/
theorem alike_joined {lots others : List Evidence} (reordered : lots.Perm others) :
    Alike ⟨0, joined lots⟩ ⟨0, joined others⟩ := by
  intro steps
  have added (lots : List Evidence) : mark? steps ⟨0, joined lots⟩ =
      (lots.map fun lot => mark? steps ⟨0, lot⟩).foldl (Option.merge Mark.join)
        (mark? steps ⟨0, empty⟩) := by
    rw [List.foldl_map]
    refine (List.foldl_hom (fun lot => mark? steps ⟨0, lot⟩) fun before lot => ?_).symm
    exact (mark?_joinedOccurrence steps ⟨0, before⟩ ⟨0, lot⟩).symm
  rw [added, added]
  exact (reordered.map _).foldl_eq _

/-- Joining is associative and has nothing seen as its unit, with all fields in order, and it is
commutative up to their order. So observing a stream of samples in portions and joining these in
order gives the evidence of the stream and its shape, fields in order, and joining the portions in
another order changes the order of fields at most. -/
theorem joins_in_portions :
    (∀ first second third : Evidence,
      (first.join second).join third = first.join (second.join third)) ∧
    (∀ evidence : Evidence, empty.join evidence = evidence ∧ evidence.join empty = evidence) ∧
    (∀ left right : Evidence, left.Named → right.Named →
      (left.join right).same (right.join left)) ∧
    (∀ portions : List (List Json),
      joined (portions.map ofSamples) = ofSamples portions.flatten ∧
      (joined (portions.map ofSamples)).toShape? = Shape.infer? portions.flatten) ∧
    ∀ portions others : List (List Json), portions.Perm others →
      (∀ portion ∈ portions, ∀ sample ∈ portion, sample.Distinct) →
      (joined (portions.map ofSamples)).same (joined (others.map ofSamples)) ∧
      Option.Rel (fun shape other => shape.same other)
        (joined (portions.map ofSamples)).toShape? (joined (others.map ofSamples)).toShape? := by
  refine ⟨join_assoc, fun evidence => ⟨empty_join evidence, join_empty evidence⟩, ?_, ?_, ?_⟩
  · intro left right named otherNamed
    exact (alike_join_comm left right).same (named.join otherNamed) (otherNamed.join named)
  · intro portions
    have whole := joined_portions portions
    exact ⟨whole, congrArg toShape? whole⟩
  · intro portions others reordered distinct
    have named := named_joined distinct
    have otherNamed : (joined (others.map ofSamples)).Named :=
      named_joined fun portion there => distinct portion (reordered.mem_iff.mpr there)
    have same := (alike_joined (reordered.map ofSamples)).same named otherNamed
    exact ⟨same, shapes_of_same named otherNamed same false⟩

/-- Two portions that meet in the other order declare the same fields in another order. -/
theorem joins_in_portions_reordered :
    let portions : List (List Json) :=
      [[.object [("id", .bool true)], .null], [.object [("tags", .array []), ("id", .null)]]]
    let shape : Shape :=
      .union
        [.object [("id", .union [.boolean, .null]), ("tags", .union [.anyArray, .null])], .null]
    let other : Shape :=
      .union
        [.object [("tags", .union [.anyArray, .null]), ("id", .union [.boolean, .null])], .null]
    (∀ portion ∈ portions, ∀ sample ∈ portion, sample.Distinct) ∧
      (joined (portions.map ofSamples)).toShape? = some shape ∧
      (joined (portions.reverse.map ofSamples)).toShape? = some other ∧
      Shape.infer? portions.flatten = some shape ∧ shape.same other ∧
      (∀ portion ∈ portions, (ofSamples portion).Named) ∧
      ∀ portion ∈ portions, ∀ next ∈ portions,
        ((ofSamples portion).join (ofSamples next)).same
          ((ofSamples next).join (ofSamples portion)) := by
  intro portions shape other
  have distinct : ∀ portion ∈ portions, ∀ sample ∈ portion, sample.Distinct := by
    simp [portions, Json.Distinct, Json.DistinctMembers, Json.DistinctItems, Fields.Distinct]
  have named : ∀ portion ∈ portions, (ofSamples portion).Named :=
    fun portion among => named_ofSamples (distinct portion among)
  obtain ⟨_, _, commutes, observed, reordered⟩ := joins_in_portions
  have here : (joined (portions.map ofSamples)).toShape? = some shape := rfl
  have there : (joined (portions.reverse.map ofSamples)).toShape? = some other := rfl
  have shapes := (reordered portions portions.reverse (List.reverse_perm portions).symm distinct).2
  rw [here, there] at shapes
  cases shapes with
  | some same =>
    exact ⟨distinct, here, there, (observed portions).2.symm.trans here, same, named,
      fun portion among next along => commutes _ _ (named portion among) (named next along)⟩

end JsonShape.Evidence
