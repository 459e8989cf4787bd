import JsonShape.Inference
import JsonShape.Proofs.Joining
import Mathlib.Algebra.Group.Nat.Defs

/-!
# Counters of evidence

Counts are 64-bit words, so what they say holds as long as no sum of two counts leaves the words.
Here are the conditions for that, on two lots of evidence, on a value that is observed and on a
sequence of samples, and the bound that gives them all: the objects of the samples, counted without
words, are fewer than the words.
-/
namespace JsonShape

/-- Two counts whose sum is a word again. -/
def CountsFit (count other : UInt64) : Prop :=
  count.toNat + other.toNat < 2 ^ 64

/-- A sum of counts that fits is the sum of their numbers. -/
theorem CountsFit.toNat_add {count other : UInt64} (fits : CountsFit count other) :
    (count + other).toNat = count.toNat + other.toNat := by
  rw [UInt64.toNat_add, Nat.mod_eq_of_lt fits]

namespace Evidence

/-- No field occurs in more objects than there were. -/
def Bounded (evidence : Evidence) : Prop :=
  Everywhere (fun objects => ∀ field ∈ objects.fields, field.2.count ≤ objects.seen) evidence

/-- No sum of counts in the objects of two lots leaves the words. -/
def ObjectsFit (objects others : Objects Evidence) : Prop :=
  CountsFit objects.seen others.seen ∧
    ∀ field ∈ objects.fields, ∀ other, Fields.get? field.1 others.fields = some other →
      CountsFit field.2.count other.count

/-- No sum of counts in the join of two lots leaves the words. -/
def SumsFit (left right : Evidence) : Prop :=
  Paired ObjectsFit left right

/-- No sum of counts leaves the words while values are joined one after the other. -/
def AllFit (start : Evidence) : List Json → Prop
  | [] => True
  | item :: rest => start.SumsFit (ofJson item) ∧ AllFit (start.join (ofJson item)) rest

end Evidence

/-- No sum of counts leaves the words while a value is observed. -/
inductive Json.Countable : Json → Prop where
  /-- There is nothing to count in a value without parts. -/
  | scalar (value : Scalar) : Countable (.scalar value)
  /-- Elements are observed and joined in order. -/
  | array {items : List Json} : (∀ item ∈ items, Countable item) → Evidence.empty.AllFit items →
      Countable (.array items)
  /-- Members are observed each for itself. -/
  | object {members : List (String × Json)} : (∀ member ∈ members, Countable member.2) →
      Countable (.object members)

namespace Evidence

/-! ## Observing -/

/-- The fields of one object each occur once. -/
theorem ofMembers_eq_map (members : List (String × Json)) :
    ofMembers members = members.map fun member => (member.1, ⟨1, ofJson member.2⟩) := by
  induction members with
  | nil => rfl
  | cons member rest ih => simp [ofMembers, ih]

/-- The fields of one object have the names of its members. -/
@[simp] theorem names_ofMembers (members : List (String × Json)) :
    Fields.names (ofMembers members) = Fields.names members := by
  simp [ofMembers_eq_map, Fields.names, Function.comp_def]

/-- Evidence of a value without parts has neither elements nor objects. -/
theorem everywhere_ofScalar {P : Objects Evidence → Prop} (value : Scalar) :
    Everywhere P (ofScalar value) := by
  cases value <;>
    exact .intro (fun _ none => by cases none) (fun _ none => by cases none)
      (fun _ none => by cases none)

/-- Evidence of an array has a property when that of its elements has. -/
theorem everywhere_ofArray {P : Objects Evidence → Prop} {items : List Json}
    (elements : Everywhere P (joinAll empty items)) : Everywhere P (ofJson (.array items)) := by
  refine .intro (fun inner there => ?_) (fun _ none => by cases none) (fun _ none => by cases none)
  obtain rfl : joinAll empty items = inner := Option.some.inj there
  exact elements

/-- Evidence of an object has a property when its objects and the evidence of each member have. -/
theorem everywhere_ofObject {P : Objects Evidence → Prop} {members : List (String × Json)}
    (here : P ⟨1, ofMembers members⟩) (each : ∀ member ∈ members, Everywhere P (ofJson member.2)) :
    Everywhere P (ofJson (.object members)) := by
  refine .intro (fun _ none => by cases none) (fun inner there => ?_) (fun inner there => ?_)
  · obtain rfl : ⟨1, ofMembers members⟩ = inner := Option.some.inj there
    exact here
  · obtain rfl : ⟨1, ofMembers members⟩ = inner := Option.some.inj there
    intro field among
    rw [ofMembers_eq_map] at among
    obtain ⟨member, there, rfl⟩ := List.mem_map.mp among
    exact each member there

/-! ## Counts stay within those of the objects -/

/-- Fields within the number of objects in two lots are so in both as one. -/
theorem counts_joinedObjects {objects others : Objects Evidence}
    (counts : ∀ field ∈ objects.fields, field.2.count ≤ objects.seen)
    (otherCounts : ∀ field ∈ others.fields, field.2.count ≤ others.seen)
    (fits : ObjectsFit objects others) :
    ∀ field ∈ (joinedObjects objects others).fields,
      field.2.count ≤ (joinedObjects objects others).seen := by
  intro field among
  have total : (joinedObjects objects others).seen.toNat =
      objects.seen.toNat + others.seen.toNat := fits.1.toNat_add
  rw [UInt64.le_iff_toNat_le, total]
  rcases mem_joinedObjects among with ⟨old, _⟩ | ⟨part, old, other, found, rfl⟩ | ⟨new, _⟩
  · have bound := UInt64.le_iff_toNat_le.mp (counts field old)
    omega
  · have bound := UInt64.le_iff_toNat_le.mp (counts part old)
    have otherBound : other.count.toNat ≤ others.seen.toNat :=
      UInt64.le_iff_toNat_le.mp (otherCounts _ (Fields.mem_of_get? found))
    rw [(fits.2 part old other found).toNat_add]
    omega
  · have bound := UInt64.le_iff_toNat_le.mp (otherCounts field new)
    omega

/-- Joining keeps fields within the number of objects. -/
theorem Bounded.join {left right : Evidence} (boundedLeft : left.Bounded)
    (boundedRight : right.Bounded) (fits : left.SumsFit right) : (left.join right).Bounded :=
  Everywhere.join (fun _ => id) (fun _ => id) (fun _ _ => counts_joinedObjects) boundedLeft
    boundedRight fits

/-- Joining values one after the other keeps fields within the number of objects. -/
theorem Bounded.joinAll {start : Evidence} {items : List Json} (bounded : start.Bounded)
    (each : ∀ item ∈ items, (ofJson item).Bounded) (fits : start.AllFit items) :
    (start.joinAll items).Bounded := by
  induction items generalizing start with
  | nil => exact bounded
  | cons item rest ih =>
    obtain ⟨first, others⟩ := fits
    exact ih (bounded.join (each item List.mem_cons_self) first)
      (fun other among => each other (List.mem_cons_of_mem _ among)) others

/-- Observing keeps fields within the number of objects. -/
theorem bounded_ofJson {value : Json} (countable : value.Countable) : (ofJson value).Bounded := by
  induction countable with
  | scalar value => exact everywhere_ofScalar value
  | array _ fits ih => exact everywhere_ofArray (Bounded.joinAll Everywhere.empty ih fits)
  | @object members _ ih =>
    refine everywhere_ofObject (fun field among => ?_) ih
    rw [ofMembers_eq_map] at among
    obtain ⟨member, _, rfl⟩ := List.mem_map.mp among
    exact UInt64.le_refl _

end Evidence

/-! ## Counting objects without words -/

namespace Json

mutual

/-- How many objects a value holds, itself included. -/
def objectCount : Json → Nat
  | .scalar _ => 0
  | .array items => itemsObjectCount items
  | .object members => membersObjectCount members + 1

/-- How many objects the elements hold. -/
def itemsObjectCount : List Json → Nat
  | [] => 0
  | item :: rest => item.objectCount + itemsObjectCount rest

/-- How many objects the members hold. -/
def membersObjectCount : List (String × Json) → Nat
  | [] => 0
  | (_, value) :: rest => value.objectCount + membersObjectCount rest

end

/-- An element holds no more objects than all elements. -/
theorem objectCount_le_items {item : Json} {items : List Json} (among : item ∈ items) :
    item.objectCount ≤ itemsObjectCount items := by
  induction items with
  | nil => cases among
  | cons first rest ih =>
    rw [itemsObjectCount]
    rcases List.mem_cons.mp among with rfl | below
    · exact Nat.le_add_right _ _
    · exact Nat.le_add_left_of_le (ih below)

/-- A member holds no more objects than all members. -/
theorem objectCount_le_members {member : String × Json} {members : List (String × Json)}
    (among : member ∈ members) : member.2.objectCount ≤ membersObjectCount members := by
  induction members with
  | nil => cases among
  | cons first rest ih =>
    rw [membersObjectCount]
    rcases List.mem_cons.mp among with rfl | below
    · exact Nat.le_add_right _ _
    · exact Nat.le_add_left_of_le (ih below)

end Json

namespace Evidence

/-- Fields are within the number of objects, and that within a limit, at every position. -/
def Within (limit : Nat) (evidence : Evidence) : Prop :=
  Everywhere (fun objects => objects.seen.toNat ≤ limit ∧
    ∀ field ∈ objects.fields, field.2.count ≤ objects.seen) evidence

/-- A limit gives way to a greater one. -/
theorem Within.mono {limit greater : Nat} (le : limit ≤ greater) {evidence : Evidence}
    (within : Within limit evidence) : Within greater evidence :=
  Everywhere.mono (fun _ holds => ⟨Nat.le_trans holds.1 le, holds.2⟩) within

/-- Two lots whose limits together are below the words can be joined. -/
theorem Within.sumsFit {limit other : Nat} (small : limit + other < 2 ^ 64)
    {left right : Evidence} (withinLeft : Within limit left) (withinRight : Within other right) :
    left.SumsFit right := by
  induction withinLeft generalizing right with
  | intro items objects fields ihItems ihFields =>
    obtain ⟨otherItems, otherObjects, otherFields⟩ := withinRight
    refine .intro (fun first second here also => ihItems first here (otherItems second also))
      (fun first second here also => ?_) (fun first second here also field among found there => ?_)
    · obtain ⟨seen, counts⟩ := objects first here
      obtain ⟨otherSeen, otherCounts⟩ := otherObjects second also
      refine ⟨by unfold CountsFit; omega, fun field among found there => ?_⟩
      have bound := UInt64.le_iff_toNat_le.mp (counts field among)
      have otherBound : found.count.toNat ≤ second.seen.toNat :=
        UInt64.le_iff_toNat_le.mp (otherCounts _ (Fields.mem_of_get? there))
      unfold CountsFit
      omega
    · exact ihFields first here field among
        (otherFields second also _ (Fields.mem_of_get? there))

/-- The limit of a join is the sum of the limits. -/
theorem Within.join {limit other : Nat} (small : limit + other < 2 ^ 64) {left right : Evidence}
    (withinLeft : Within limit left) (withinRight : Within other right) :
    Within (limit + other) (left.join right) := by
  refine Everywhere.join
    (fun _ holds => ⟨Nat.le_add_right_of_le holds.1, holds.2⟩)
    (fun _ holds => ⟨Nat.le_add_left_of_le holds.1, holds.2⟩)
    (fun objects others first second fits => ⟨?_, counts_joinedObjects first.2 second.2 fits⟩)
    withinLeft withinRight (withinLeft.sumsFit small withinRight)
  have total : (joinedObjects objects others).seen.toNat =
      objects.seen.toNat + others.seen.toNat := fits.1.toNat_add
  rw [total]
  exact Nat.add_le_add first.1 second.1

/-- Values with few objects can be joined one after the other, and add up their objects. -/
theorem Within.joinAll {limit : Nat} {start : Evidence} {items : List Json}
    (within : Within limit start)
    (each : ∀ item ∈ items, Within item.objectCount (ofJson item))
    (small : limit + Json.itemsObjectCount items < 2 ^ 64) :
    start.AllFit items ∧ Within (limit + Json.itemsObjectCount items) (start.joinAll items) := by
  induction items generalizing start limit with
  | nil => exact ⟨trivial, within⟩
  | cons item rest ih =>
    have first := each item List.mem_cons_self
    rw [Json.itemsObjectCount, ← Nat.add_assoc] at small ⊢
    have room : limit + item.objectCount < 2 ^ 64 := Nat.lt_of_le_of_lt (Nat.le_add_right _ _) small
    obtain ⟨others, total⟩ := ih (within.join room first)
      (fun other among => each other (List.mem_cons_of_mem _ among)) small
    exact ⟨⟨within.sumsFit room first, others⟩, total⟩

/-- A value with fewer objects than words can be observed, and its counts are within the number of
its objects. -/
theorem countable_of_objectCount {value : Json} (small : value.objectCount < 2 ^ 64) :
    value.Countable ∧ Within value.objectCount (ofJson value) := by
  induction value with
  | scalar value => exact ⟨.scalar value, everywhere_ofScalar value⟩
  | array items ih =>
    have each : ∀ item ∈ items, item.Countable ∧ Within item.objectCount (ofJson item) :=
      fun item among => ih item among
        (Nat.lt_of_le_of_lt (Json.objectCount_le_items among) small)
    have nothing : Within 0 empty := Everywhere.empty
    have room : 0 + Json.itemsObjectCount items < 2 ^ 64 := by rwa [Nat.zero_add]
    obtain ⟨fits, within⟩ := nothing.joinAll (fun item among => (each item among).2) room
    rw [Nat.zero_add] at within
    exact ⟨.array (fun item among => (each item among).1) fits, everywhere_ofArray within⟩
  | object members ih =>
    have each : ∀ member ∈ members,
        member.2.Countable ∧ Within member.2.objectCount (ofJson member.2) :=
      fun member among => ih member among (Nat.lt_of_le_of_lt
        (Nat.le_succ_of_le (Json.objectCount_le_members among)) small)
    refine ⟨.object fun member among => (each member among).1, everywhere_ofObject ⟨?_, ?_⟩ ?_⟩
    · exact Nat.le_add_left 1 _
    · intro field among
      rw [ofMembers_eq_map] at among
      obtain ⟨member, _, rfl⟩ := List.mem_map.mp among
      exact UInt64.le_refl _
    · exact fun member among => (each member among).2.mono
        (Nat.le_succ_of_le (Json.objectCount_le_members among))

end Evidence

end JsonShape
