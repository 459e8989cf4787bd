import JsonShape.Proofs.Notation
import Mathlib.Data.List.Forall2
import Mathlib.Data.List.Induction

/-!
# Meanings part by part

A reading gives a list of parts their meanings when it gives each part its own. So a value has a
meaning exactly when every value without parts inside it has one, and a tree without fault likewise.
Stored entries have their names in the order in which they first occur and their last values, so
storing treats two lists alike whose entries have the same names and are related one by one.
-/
namespace JsonShape

/-- Two lists that are related one by one through something between them. -/
theorem forall₂_through {α β γ : Type} {R : α → β → Prop} {S : α → γ → Prop} {T : γ → β → Prop}
    {first : List α} {last : List β} (related : List.Forall₂ R first last)
    (between : ∀ one ∈ first, ∀ other, R one other → ∃ middle, S one middle ∧ T middle other) :
    ∃ middle, List.Forall₂ S first middle ∧ List.Forall₂ T middle last := by
  induction related with
  | nil => exact ⟨[], .nil, .nil⟩
  | @cons one other rest others here _ ih =>
    obtain ⟨middle, left, right⟩ := between one List.mem_cons_self other here
    obtain ⟨more, lefts, rights⟩ := ih fun next among => between next (List.mem_cons_of_mem _ among)
    exact ⟨middle :: more, .cons left lefts, .cons right rights⟩

/-- Lists whose members are related in one way, and therefore in another. -/
theorem forall₂_of_mem {α β : Type} {R S : α → β → Prop} {first : List α} {last : List β}
    (related : List.Forall₂ R first last)
    (gives : ∀ one ∈ first, ∀ other, R one other → S one other) : List.Forall₂ S first last := by
  have both : List.Forall₂ (fun one other => (∀ other, R one other → S one other) ∧ R one other)
      first last := (List.forall₂_and_left first last).mpr ⟨gives, related⟩
  exact both.imp fun _ other here => here.1 other here.2

/-- A list from which every member of a related list can be told. -/
theorem map_eq_of_forall₂ {α β : Type} {R : α → β → Prop} {back : β → α} {first : List α}
    {last : List β} (related : List.Forall₂ R first last)
    (tells : ∀ one ∈ first, ∀ other, R one other → back other = one) : last.map back = first := by
  have same : List.Forall₂ (fun one other => one = back other) first last :=
    forall₂_of_mem related fun one among other here => (tells one among other here).symm
  rw [← List.forall₂_map_right_iff, List.forall₂_eq_eq_eq] at same
  exact same.symm

namespace Fields

variable {α β : Type} {R : α → β → Prop}

/-- Fields of two lists with the same names in the same order, related one by one. -/
def Related (R : α → β → Prop) (fields : List (String × α)) (others : List (String × β)) : Prop :=
  List.Forall₂ (fun field other => field.1 = other.1 ∧ R field.2 other.2) fields others

/-- Related fields stay related when both get a related value under one name. -/
theorem Related.insert {fields : List (String × α)} {others : List (String × β)}
    (related : Related R fields others) (name : String) {value : α} {other : β}
    (here : R value other) :
    Related R (Fields.insert name value fields) (Fields.insert name other others) := by
  induction related with
  | nil => exact .cons ⟨rfl, here⟩ .nil
  | @cons field field' rest rest' same related ih =>
    obtain ⟨key, old⟩ := field
    obtain ⟨key', old'⟩ := field'
    obtain ⟨rfl, olds⟩ := same
    by_cases asked : key = name
    · simp only [Fields.insert, asked, ↓reduceIte]
      exact .cons ⟨rfl, here⟩ related
    · simp only [Fields.insert, asked, ↓reduceIte]
      exact .cons ⟨rfl, olds⟩ ih

/-- Storing related entries one after the other gives related fields. -/
theorem Related.ofEntries {entries : List (String × α)} {others : List (String × β)}
    (related : Related R entries others) :
    Related R (Fields.ofEntries entries) (Fields.ofEntries others) := by
  have kept : ∀ fields others', Related R fields others' →
      Related R (insertAll fields entries) (insertAll others' others) := by
    induction related with
    | nil => exact fun _ _ stored => stored
    | @cons entry other rest rest' same _ ih =>
      intro fields others' stored
      obtain ⟨name, value⟩ := entry
      obtain ⟨name', value'⟩ := other
      obtain ⟨rfl, here⟩ := same
      exact ih _ _ (stored.insert name here)
  exact kept [] [] .nil

/-- Related fields have equal names in equal order. -/
theorem Related.names_eq {fields : List (String × α)} {others : List (String × β)}
    (related : Related R fields others) : names fields = names others := by
  induction related with
  | nil => rfl
  | cons same _ ih => rw [names_cons, names_cons, same.1, ih]

/-- Where one list has a field, the other has a related one. -/
theorem Related.get? {fields : List (String × α)} {others : List (String × β)}
    (related : Related R fields others) {name : String} {value : α}
    (found : Fields.get? name fields = some value) :
    ∃ other, Fields.get? name others = some other ∧ R value other := by
  induction related with
  | nil => cases found
  | @cons field field' rest others same _ ih =>
    obtain ⟨key, first⟩ := field
    obtain ⟨key', first'⟩ := field'
    obtain ⟨rfl, here⟩ := same
    by_cases asked : key = name
    · simp only [Fields.get?, asked, ↓reduceIte, Option.some.injEq] at found ⊢
      exact ⟨first', rfl, found ▸ here⟩
    · simp only [Fields.get?, asked, ↓reduceIte] at found ⊢
      exact ih found

/-- The value of the last entry so named. -/
def last? (name : String) : List (String × α) → Option α
  | [] => none
  | (key, value) :: rest => (last? name rest).or (if key = name then some value else none)

/-- The last entry of two lists is that of the second, or of the first if the second has none. -/
theorem last?_append (name : String) (entries others : List (String × α)) :
    last? name (entries ++ others) = (last? name others).or (last? name entries) := by
  induction entries with
  | nil => simp [last?]
  | cons entry rest ih => simp [last?, ih, Option.or_assoc]

/-- The last entry is stored behind the others. -/
theorem ofEntries_append_singleton (entries : List (String × α)) (entry : String × α) :
    ofEntries (entries ++ [entry]) = insert entry.1 entry.2 (ofEntries entries) :=
  List.foldl_append

/-- Stored entries have the names in the order in which they first occur. -/
theorem names_ofEntries (entries : List (String × α)) :
    names (ofEntries entries) = (names entries).eraseDups := by
  induction entries using List.reverseRecOn with
  | nil => rfl
  | append_singleton entries entry ih =>
    have known : entry.1 ∈ names (ofEntries entries) ↔ entry.1 ∈ names entries := by
      rw [ih, List.mem_eraseDups]
    rw [ofEntries_append_singleton, names_append, List.eraseDups_append, ← ih]
    by_cases there : entry.1 ∈ names entries
    · rw [names_insert_of_mem _ (known.mpr there)]
      simp [List.removeAll, there]
    · rw [insert_of_not_mem _ (mt known.mp there), names_append]
      simp [List.removeAll, there, List.eraseDups_cons]

/-- Under a name stored entries have the value of the last of that name. -/
theorem get?_ofEntries (name : String) (entries : List (String × α)) :
    Fields.get? name (ofEntries entries) = last? name entries := by
  induction entries using List.reverseRecOn with
  | nil => rfl
  | append_singleton entries entry ih =>
    rw [ofEntries_append_singleton, get?_insert, ih, last?_append]
    by_cases same : entry.1 = name <;> simp [last?, same]

/-- Fields of different names are the names with what is found under each. -/
theorem map_names_of_distinct {fields : List (String × α)} (distinct : Distinct fields)
    (other : α) :
    (names fields).map (fun name => (name, (Fields.get? name fields).getD other)) = fields := by
  have each : ∀ field ∈ fields, (field.1, (Fields.get? field.1 fields).getD other) = field := by
    intro field among
    rw [get?_of_mem distinct among, Option.getD_some]
  rw [names, List.map_map]
  exact (List.map_congr_left each).trans (List.map_id fields)

end Fields

namespace Text

variable {ε α : Type} {reading : Reading ε α}

/-! ## Values -/

/-- Elements have a meaning when each of them has, one by one. -/
theorem Reading.ofItems_eq_ok_iff {index : Nat} {items : List Json} {meanings : List α} :
    reading.ofItems index items = .ok meanings ↔
      List.Forall₂ (fun item meaning => reading.ofJson item = .ok meaning) items meanings := by
  constructor
  · intro meant
    induction items generalizing index meanings with
    | nil =>
      cases meant
      exact .nil
    | cons item rest ih =>
      obtain ⟨meaning, further, here, more, rfl⟩ := Reading.ofItems_cons meant
      exact .cons here (ih more)
  · intro each
    induction each generalizing index with
    | nil => rfl
    | cons here _ ih =>
      rw [Reading.ofItems, here, ih]
      rfl

/-- Members have a meaning when each of them has, under its name. -/
theorem Reading.ofMembers_eq_ok_iff {members : List (String × Json)}
    {meanings : List (String × α)} :
    reading.ofMembers members = .ok meanings ↔
      Fields.Related (fun value meaning => reading.ofJson value = .ok meaning) members
        meanings := by
  constructor
  · intro meant
    induction members generalizing meanings with
    | nil =>
      cases meant
      exact .nil
    | cons member rest ih =>
      obtain ⟨meaning, further, here, more, rfl⟩ := Reading.ofMembers_cons meant
      exact .cons ⟨rfl, here⟩ (ih more)
  · intro each
    induction each with
    | nil => rfl
    | @cons member meaning rest meanings same _ ih =>
      obtain ⟨name, value⟩ := member
      obtain ⟨name', meaning⟩ := meaning
      obtain ⟨rfl, here⟩ := same
      rw [Reading.ofMembers, here, ih]
      rfl

/-- An array means what its elements mean. -/
theorem Reading.ofJson_array_eq_ok_iff {items : List Json} {meaning : α} :
    reading.ofJson (.array items) = .ok meaning ↔
      ∃ meanings,
        List.Forall₂ (fun item meaning => reading.ofJson item = .ok meaning) items meanings ∧
        reading.array meanings = meaning := by
  rw [Reading.ofJson, bind_eq_ok]
  simp only [Reading.ofItems_eq_ok_iff, pure, Except.pure, Except.ok.injEq]

/-- An object means what its members mean. -/
theorem Reading.ofJson_object_eq_ok_iff {members : List (String × Json)} {meaning : α} :
    reading.ofJson (.object members) = .ok meaning ↔
      ∃ meanings,
        Fields.Related (fun value meaning => reading.ofJson value = .ok meaning) members meanings ∧
        reading.object meanings = meaning := by
  rw [Reading.ofJson, bind_eq_ok]
  simp only [Reading.ofMembers_eq_ok_iff, pure, Except.pure, Except.ok.injEq]

end Text

end JsonShape
