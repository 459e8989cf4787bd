/-!
# Fields in order

A list of named values stands for an ordered map: looking a name up finds its first field, and
storing under a name keeps the place that the name already has. A list built by storing has each
name once, which is the predicate `Fields.Distinct`. JSON objects, object shapes and object
evidence all hold their fields this way.
-/
namespace JsonShape.Fields

variable {α β : Type}

/-- The value under a name: that of the first field so named. -/
def get? (name : String) : List (String × α) → Option α
  | [] => none
  | (key, value) :: rest => if key = name then some value else get? name rest

/-- Store a value under a name: in the place the name has, else behind all fields. -/
def insert (name : String) (value : α) : List (String × α) → List (String × α)
  | [] => [(name, value)]
  | (key, old) :: rest =>
    if key = name then (key, value) :: rest else (key, old) :: insert name value rest

/-- Store entries one after the other: a repeated name keeps its first place and takes its last
value. -/
def insertAll (fields entries : List (String × α)) : List (String × α) :=
  entries.foldl (fun stored entry => insert entry.1 entry.2 stored) fields

/-- The fields that a list of entries stores. -/
def ofEntries (entries : List (String × α)) : List (String × α) :=
  insertAll [] entries

/-- The names in order. -/
def names (fields : List (String × α)) : List String :=
  fields.map Prod.fst

/-- No name has two fields. -/
def Distinct (fields : List (String × α)) : Prop :=
  (names fields).Nodup

/-- Change every value by a function that may fail; the first failure wins. -/
def traverse {ε : Type} (f : String → α → Except ε β) :
    List (String × α) → Except ε (List (String × β))
  | [] => .ok []
  | (name, value) :: rest => do
    let changed ← f name value
    let others ← traverse f rest
    return (name, changed) :: others

/-- Nothing is found among no fields. -/
@[simp] theorem get?_nil (name : String) : get? name ([] : List (String × α)) = none := rfl

/-- No fields have no names. -/
@[simp] theorem names_nil : names ([] : List (String × α)) = [] := rfl

/-- The first field gives the first name. -/
@[simp] theorem names_cons (field : String × α) (rest : List (String × α)) :
    names (field :: rest) = field.1 :: names rest := rfl

/-- The names of fields in front of others stand in front of theirs. -/
@[simp] theorem names_append (fields others : List (String × α)) :
    names (fields ++ others) = names fields ++ names others := by
  simp [names]

/-- A name has a value when it is one of the names. -/
theorem get?_isSome_iff {name : String} {fields : List (String × α)} :
    (get? name fields).isSome ↔ name ∈ names fields := by
  induction fields with
  | nil => simp
  | cons field rest ih =>
    by_cases same : field.1 = name
    · simp [get?, same]
    · simp [get?, same, ih, Ne.symm same]

/-- A name has no value when it is none of the names. -/
theorem get?_eq_none_iff {name : String} {fields : List (String × α)} :
    get? name fields = none ↔ name ∉ names fields := by
  rw [← get?_isSome_iff]
  simp

/-- The value under a name is that of a field so named. -/
theorem mem_of_get? {name : String} {value : α} {fields : List (String × α)}
    (found : get? name fields = some value) : (name, value) ∈ fields := by
  induction fields with
  | nil => cases found
  | cons field rest ih =>
    obtain ⟨key, first⟩ := field
    by_cases same : key = name
    · simp only [get?, same, ↓reduceIte, Option.some.injEq] at found
      simp [same, found]
    · simp only [get?, same, ↓reduceIte] at found
      exact List.mem_cons_of_mem _ (ih found)

/-- Where no name has two fields, every field is found under its name. -/
theorem get?_of_mem {field : String × α} {fields : List (String × α)}
    (distinct : Distinct fields) (there : field ∈ fields) : get? field.1 fields = some field.2 := by
  induction fields with
  | nil => cases there
  | cons first rest ih =>
    obtain ⟨new, others⟩ := List.nodup_cons.mp distinct
    rcases List.mem_cons.mp there with rfl | below
    · simp [get?]
    · have differ : first.1 ≠ field.1 := by
        intro same
        exact new (same ▸ List.mem_map_of_mem below)
      simp [get?, differ, ih others below]

/-- Storing changes the value of the stored name and of no other. -/
theorem get?_insert (name other : String) (value : α) (fields : List (String × α)) :
    get? other (insert name value fields) =
      if name = other then some value else get? other fields := by
  induction fields with
  | nil => rfl
  | cons field rest ih =>
    obtain ⟨key, old⟩ := field
    by_cases same : key = name
    · subst same
      by_cases asked : key = other <;> simp [insert, get?, asked]
    · by_cases asked : key = other
      · subst asked
        simp [insert, get?, same, Ne.symm same]
      · simp [insert, get?, same, asked, ih]

/-- Storing under a name that is there keeps the names. -/
theorem names_insert_of_mem {name : String} {fields : List (String × α)} (value : α)
    (there : name ∈ names fields) : names (insert name value fields) = names fields := by
  induction fields with
  | nil => simp at there
  | cons field rest ih =>
    by_cases same : field.1 = name
    · simp [insert, same]
    · have below : name ∈ names rest := by simpa [Ne.symm same] using there
      simp [insert, same, ih below]

/-- Storing under a new name puts a field behind all others. -/
theorem insert_of_not_mem {name : String} {fields : List (String × α)} (value : α)
    (new : name ∉ names fields) : insert name value fields = fields ++ [(name, value)] := by
  induction fields with
  | nil => rfl
  | cons field rest ih =>
    simp only [names_cons, List.mem_cons, not_or] at new
    simp [insert, Ne.symm new.1, ih new.2]

/-- Storing gives no name a second field. -/
theorem insert_distinct {fields : List (String × α)} (name : String) (value : α)
    (distinct : Distinct fields) : Distinct (insert name value fields) := by
  unfold Distinct at *
  by_cases there : name ∈ names fields
  · rw [names_insert_of_mem value there]
    exact distinct
  · rw [insert_of_not_mem value there, names_append, List.nodup_append]
    refine ⟨distinct, by simp, ?_⟩
    intro key found other last same
    simp only [names_cons, names_nil, List.mem_singleton] at last
    exact there (last ▸ same ▸ found)

/-- A list built by storing has each name once. -/
theorem ofEntries_distinct (entries : List (String × α)) : Distinct (ofEntries entries) := by
  have kept : ∀ fields : List (String × α),
      Distinct fields → Distinct (insertAll fields entries) := by
    induction entries with
    | nil => exact fun _ distinct => distinct
    | cons entry rest ih => exact fun _ distinct => ih _ (insert_distinct entry.1 entry.2 distinct)
  exact kept [] (by simp [Distinct])

/-- Storing adds no field but the stored one. -/
theorem mem_of_mem_insert {name : String} {value : α} {field : String × α}
    {fields : List (String × α)} (there : field ∈ insert name value fields) :
    field = (name, value) ∨ field ∈ fields := by
  induction fields with
  | nil => exact .inl (List.mem_singleton.mp there)
  | cons first rest ih =>
    obtain ⟨key, old⟩ := first
    by_cases same : key = name
    · simp only [insert, same, ↓reduceIte, List.mem_cons] at there ⊢
      exact there.imp_right .inr
    · simp only [insert, same, ↓reduceIte, List.mem_cons] at there ⊢
      rcases there with here | below
      · exact .inr (.inl here)
      · exact (ih below).imp_right .inr

/-- A list built by storing holds nothing but entries. -/
theorem mem_of_mem_ofEntries {entries : List (String × α)} {field : String × α}
    (there : field ∈ ofEntries entries) : field ∈ entries := by
  have kept : ∀ fields : List (String × α), field ∈ insertAll fields entries →
      field ∈ fields ∨ field ∈ entries := by
    clear there
    induction entries with
    | nil => exact fun _ there => .inl there
    | cons entry rest ih =>
      intro fields there
      rcases ih _ there with stored | later
      · rcases mem_of_mem_insert stored with rfl | old
        · exact .inr List.mem_cons_self
        · exact .inl old
      · exact .inr (List.mem_cons_of_mem _ later)
  rcases kept [] there with none | among
  · cases none
  · exact among

/-- Storing entries of different names behind fields of other names appends them. -/
theorem insertAll_of_distinct {fields entries : List (String × α)}
    (distinct : Distinct (fields ++ entries)) : insertAll fields entries = fields ++ entries := by
  induction entries generalizing fields with
  | nil => simp [insertAll]
  | cons entry rest ih =>
    have new : entry.1 ∉ names fields := by
      intro found
      unfold Distinct at distinct
      rw [names_append, List.nodup_append] at distinct
      exact distinct.2.2 _ found _ (by simp) rfl
    have moved : insertAll fields (entry :: rest) = insertAll (fields ++ [entry]) rest := by
      rw [← insert_of_not_mem entry.2 new]
      rfl
    rw [moved, ih (by simpa using distinct)]
    simp

/-- Entries of different names are stored as they are. -/
theorem ofEntries_of_distinct {entries : List (String × α)} (distinct : Distinct entries) :
    ofEntries entries = entries :=
  insertAll_of_distinct (by simpa using distinct)

end JsonShape.Fields
