import JsonShape.Json.Reader
import JsonShape.Proofs.ReadBack
import JsonShape.Proofs.Trees
import Mathlib.Data.List.Forall2

/-!
# What texts are read as

A tree has a meaning when its parts have theirs, one by one. A property that a reading gives to
every scalar and carries from parts to arrays and objects therefore holds of every meaning of a
text. So no object of a document has two members of one name; and a value
of which that is true is the document that its text is read as.
-/
namespace JsonShape

/-- Every member of a list has what its counterpart in a related list gives it. -/
theorem forall_of_forall₂ {α β : Type} {R : α → β → Prop} {P : β → Prop} {first : List α}
    {last : List β} (related : List.Forall₂ R first last)
    (gives : ∀ one ∈ first, ∀ other, R one other → P other) : ∀ other ∈ last, P other := by
  induction related with
  | nil => exact fun _ none => by cases none
  | @cons one other rest others here _ ih =>
    rw [List.forall_mem_cons]
    exact ⟨gives one List.mem_cons_self other here,
      ih fun next among => gives next (List.mem_cons_of_mem _ among)⟩

namespace Text

variable {ε α : Type} {reading : Reading ε α} {P : α → Prop}

/-- Induction over a tree: the hypothesis holds of every element and every member. -/
@[elab_as_elim, induction_eliminator]
theorem Tree.induction {motive : Tree → Prop}
    (leaf : ∀ value after, motive (.leaf value after))
    (array : ∀ start items ending, (∀ item ∈ items, motive item) →
      motive (.array start items ending))
    (object : ∀ start members ending, (∀ member ∈ members, motive member.2) →
      motive (.object start members ending))
    (broken : ∀ found, motive (.broken found)) :
    ∀ tree, motive tree
  | .leaf value after => leaf value after
  | .array start items ending =>
    array start items ending fun item _ => Tree.induction leaf array object broken item
  | .object start members ending =>
    object start members ending fun member _ =>
      Tree.induction leaf array object broken member.2
  | .broken found => broken found
termination_by tree => sizeOf tree
decreasing_by
  · decreasing_tactic
  · have smaller := sizeOf_named_lt ‹_ ∈ _›
    rw [Tree.object.sizeOf_spec]
    omega

/-! ## Meanings of trees -/

/-- Elements are interpreted when each of them is, one by one. -/
theorem interpretItems_eq_ok_iff {index : Nat} {items : List Tree} {meanings : List α} :
    interpretItems reading index items = .ok meanings ↔
      List.Forall₂ (fun item meaning => item.interpret reading = .ok meaning) items meanings := by
  constructor
  · intro meant
    induction items generalizing index meanings with
    | nil =>
      cases meant
      exact .nil
    | cons item rest ih =>
      rw [interpretItems] at meant
      obtain ⟨meaning, first, meant⟩ := bind_eq_ok.mp meant
      obtain ⟨further, more, made⟩ := bind_eq_ok.mp meant
      cases made
      exact .cons (mapError_eq_ok.mp first) (ih more)
  · intro each
    induction each generalizing index with
    | nil => rfl
    | cons here _ ih =>
      rw [interpretItems, here, ih]
      rfl

/-- Members and their meanings, one by one. -/
def MembersMean (reading : Reading ε α) (members : List (Key × Tree))
    (meanings : List (String × α)) : Prop :=
  List.Forall₂
    (fun member meaning => member.1.name = meaning.1 ∧ member.2.interpret reading = .ok meaning.2)
    members meanings

/-- Members are interpreted when each of them is, under its key. -/
theorem interpretMembers_eq_ok_iff {members : List (Key × Tree)} {meanings : List (String × α)} :
    interpretMembers reading members = .ok meanings ↔ MembersMean reading members meanings := by
  constructor
  · intro meant
    induction members generalizing meanings with
    | nil =>
      cases meant
      exact .nil
    | cons member rest ih =>
      rw [interpretMembers] at meant
      obtain ⟨meaning, first, meant⟩ := bind_eq_ok.mp meant
      obtain ⟨further, more, made⟩ := bind_eq_ok.mp meant
      cases made
      exact .cons ⟨rfl, mapError_eq_ok.mp first⟩ (ih more)
  · intro each
    induction each with
    | nil => rfl
    | @cons member meaning rest meanings same _ ih =>
      obtain ⟨key, tree⟩ := member
      obtain ⟨name, meaning⟩ := meaning
      obtain ⟨rfl, here⟩ := same
      rw [interpretMembers, here, ih]
      rfl

/-- An array means what its elements mean, once its closing bracket is read. -/
theorem Tree.interpret_array_eq_ok_iff {start : List Char} {items : List Tree}
    {ending : Except FaultAt (List Char)} {meaning : α} :
    (Tree.array start items ending).interpret reading = .ok meaning ↔
      ∃ meanings after,
        List.Forall₂ (fun item meaning => item.interpret reading = .ok meaning) items meanings ∧
        ending = .ok after ∧ reading.array meanings = meaning := by
  rw [Tree.interpret, bind_eq_ok]
  simp only [interpretItems_eq_ok_iff]
  cases ending <;> simp [endArray, rejectFault]

/-- An object means what its members mean, once its closing brace is read. -/
theorem Tree.interpret_object_eq_ok_iff {start : List Char} {members : List (Key × Tree)}
    {ending : ObjectEnd} {meaning : α} :
    (Tree.object start members ending).interpret reading = .ok meaning ↔
      ∃ meanings after, MembersMean reading members meanings ∧ ending = .closed after ∧
        reading.object meanings = meaning := by
  rw [Tree.interpret, bind_eq_ok]
  simp only [interpretMembers_eq_ok_iff]
  cases ending <;> simp [endObject, rejectFault]

/-! ## What a reading keeps -/

/-- A reading that gives a property to scalars and carries it from parts to the whole. -/
structure Reading.Keeps (reading : Reading ε α) (P : α → Prop) : Prop where
  /-- Every scalar that has a meaning. -/
  scalar : ∀ value meaning, reading.scalar value = .ok meaning → P meaning
  /-- An array whose elements have the property. -/
  array : ∀ meanings, (∀ meaning ∈ meanings, P meaning) → P (reading.array meanings)
  /-- An object whose members have the property. -/
  object : ∀ meanings, (∀ meaning ∈ meanings, P meaning.2) → P (reading.object meanings)

/-- The meaning of a tree has what a reading keeps. -/
theorem Tree.interpret_keeps (keeps : reading.Keeps P) {tree : Tree} {meaning : α}
    (found : tree.interpret reading = .ok meaning) : P meaning := by
  induction tree generalizing meaning with
  | leaf value after => exact keeps.scalar value meaning (mapError_eq_ok.mp found)
  | array start items ending ih =>
    obtain ⟨meanings, after, parts, _, rfl⟩ := interpret_array_eq_ok_iff.mp found
    exact keeps.array meanings (forall_of_forall₂ parts fun item among _ here => ih item among here)
  | object start members ending ih =>
    obtain ⟨meanings, after, parts, _, rfl⟩ := interpret_object_eq_ok_iff.mp found
    exact keeps.object meanings
      (forall_of_forall₂ parts fun member among _ here => ih member among here.2)
  | broken fault => cases found

/-- The meaning of a text has what a reading keeps. -/
theorem Reading.ofText_keeps (keeps : reading.Keeps P) {text : List Char} {meaning : α}
    (found : reading.ofText text = .ok meaning) : P meaning :=
  Tree.interpret_keeps keeps (Reading.ofText_eq_ok_iff.mp found).1

end Text

/-- Documents are read without a name that an object has twice. -/
theorem documentReading_keeps_distinct : documentReading.Keeps Json.Distinct where
  scalar value meaning found := by
    cases found
    trivial
  array meanings each := Json.distinct_array_iff.mpr each
  object meanings each := Json.distinct_object_iff.mpr
    ⟨Fields.ofEntries_distinct meanings, fun field there =>
      each field (Fields.mem_of_mem_ofEntries there)⟩

/-- No object of a document that was read has two members of one name. -/
theorem Json.distinct_ofText {text : List Char} {value : Json}
    (read : Json.ofText text = .ok value) : value.Distinct := by
  rw [Json.ofText] at read
  exact Text.Reading.ofText_keeps documentReading_keeps_distinct (mapError_eq_ok.mp read)

/-- A value without such a name is the document that it is read as. -/
theorem documentReading_ofJson {value : Json} (distinct : value.Distinct) :
    documentReading.ofJson value = .ok value := by
  induction value with
  | scalar value => rfl
  | array items ih =>
    have each := Json.distinct_array_iff.mp distinct
    have parts := Text.Reading.ofItems_map id id 0 fun item among => ih item among (each item among)
    rw [List.map_id] at parts
    rw [Text.Reading.ofJson, parts]
    rfl
  | object members ih =>
    obtain ⟨names, each⟩ := Json.distinct_object_iff.mp distinct
    have parts := Text.Reading.ofMembers_map id id
      fun member among => ih member among (each member among)
    simp only [id_eq, List.map_id'] at parts
    rw [Text.Reading.ofJson, parts]
    show Except.ok (Json.object (Fields.ofEntries members)) = _
    rw [Fields.ofEntries_of_distinct names]

/-- What a writer writes of a value, with blanks behind it, is read as the value while it is nested
within the limit. -/
theorem Json.ofText_written {style : Text.Style} {spell : Char → List Char}
    {write : Nat → Json → List Char} (writes : Text.IsWriter style spell write) {value : Json}
    (distinct : value.Distinct) (scalars : value.EachScalar Scalar.ReadsBack)
    (fits : value.depth ≤ Text.nestingLimit) {blanks : List Char}
    (all : blanks.all Text.isBlank) :
    Json.ofText (write 0 value ++ blanks) = .ok value := by
  rw [Json.ofText,
    Text.Reading.ofText_written writes scalars (documentReading_ofJson distinct) fits all]
  rfl

/-- A written value, with blanks behind it, is read as itself while it is nested within the
limit. -/
theorem Json.ofText_text {style : Text.Style} (blank : style.Blank) {value : Json}
    (distinct : value.Distinct) (scalars : value.EachScalar Scalar.ReadsBack)
    (fits : value.depth ≤ Text.nestingLimit) {blanks : List Char}
    (all : blanks.all Text.isBlank) :
    Json.ofText (value.text style 0 ++ blanks) = .ok value :=
  Json.ofText_written (Json.isWriter_text blank) distinct scalars fits all

end JsonShape
