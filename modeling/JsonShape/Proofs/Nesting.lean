import JsonShape.Proofs.Places

/-!
# How deep documents are nested

Inside each array and each object that it opens, a reader of values may open one less. So the tree
of a text is nested within the limit, and with it the document that is made of the tree.
-/
namespace JsonShape

namespace Text

/-- At most so many arrays and objects of a tree are nested in each other. -/
inductive Tree.Nested : Nat → Tree → Prop where
  /-- A leaf opens none. -/
  | leaf {limit : Nat} {value : Scalar} {after : List Char} : Nested limit (.leaf value after)
  /-- An array opens one. -/
  | array {limit : Nat} {start : List Char} {items : List Tree}
    {ending : Except FaultAt (List Char)} : (∀ item ∈ items, Nested limit item) →
      Nested (limit + 1) (.array start items ending)
  /-- So does an object. -/
  | object {limit : Nat} {start : List Char} {members : List (Key × Tree)} {ending : ObjectEnd} :
      (∀ member ∈ members, Nested limit member.2) →
      Nested (limit + 1) (.object start members ending)
  /-- Where there is no value, nothing is opened. -/
  | broken {limit : Nat} {found : FaultAt} : Nested limit (.broken found)

/-! ## Trees of texts -/

section Parts

variable {P : Tree → Prop} {readValue : List Char → Tree}

/-- What a reader of values gives to every text, every element of an array has. -/
theorem forall_mem_readItems (each : ∀ text, P (readValue text)) (fuel : Nat) (text : List Char) :
    ∀ item ∈ (readItems readValue fuel text).1, P item := by
  induction fuel generalizing text with
  | zero =>
    intro item none
    cases none
  | succ fuel ih =>
    have here : ∀ item ∈ [readValue text], P item := List.forall_mem_singleton.mpr (each text)
    rw [readItems]
    dsimp only
    split
    · exact here
    · split
      · exact here
      · split_ifs
        · exact here
        · split
          · exact here
          · exact here
          · exact List.forall_mem_cons.mpr ⟨each text, ih _⟩
        · exact here

/-- So has every member of an object. -/
theorem forall_mem_readMembers (each : ∀ text, P (readValue text)) (fuel : Nat)
    (text : List Char) : ∀ member ∈ (readMembers readValue fuel text).1, P member.2 := by
  induction fuel generalizing text with
  | zero =>
    intro member none
    cases none
  | succ fuel ih =>
    have nothing : ∀ member ∈ ([] : List (Key × Tree)), P member.2 := by
      intro member none
      cases none
    have here (key : Key) (text : List Char) : ∀ member ∈ [(key, readValue text)], P member.2 :=
      List.forall_mem_singleton.mpr (each text)
    rw [readMembers]
    split
    · exact nothing
    · dsimp only
      split
      · exact nothing
      · split_ifs
        · split
          · exact here _ _
          · split
            · exact here _ _
            · split_ifs
              · exact here _ _
              · split
                · exact here _ _
                · split_ifs
                  · exact List.forall_mem_cons.mpr ⟨each _, ih _⟩
                  · exact here _ _
                  · exact here _ _
              · exact here _ _
        · exact nothing

end Parts

section Values

variable {readValue : List Char → Tree} {limit : Nat} {text : List Char}

/-- An array nests one level more than its elements do. -/
theorem nested_readArray (each : ∀ text, (readValue text).Nested limit) (fuel : Nat)
    (start : List Char) : (readArray readValue fuel start text).Nested (limit + 1) := by
  rw [readArray.eq_def]
  split
  · exact .array fun _ none => by cases none
  · exact .array fun _ none => by cases none
  · exact .array (forall_mem_readItems each fuel _)

/-- An object nests one level more than the values of its members do. -/
theorem nested_readObject (each : ∀ text, (readValue text).Nested limit) (fuel : Nat)
    (start : List Char) : (readObject readValue fuel start text).Nested (limit + 1) := by
  rw [readObject]
  split
  · exact .object fun _ none => by cases none
  · split_ifs
    · exact .object fun _ none => by cases none
    · exact .object (forall_mem_readMembers each fuel _)
    · exact .object fun _ none => by cases none

/-- What starts with neither a bracket nor a brace opens nothing. -/
theorem nested_readStarted_token {fuel : Nat} {inner : Option (List Char → Tree)} {c : Char}
    {rest : List Char} (other : ¬(c = '[' ∨ c = '\x7b')) :
    (readStarted fuel inner c rest).Nested limit := by
  rcases readStarted_token other with ⟨found, broken⟩ | ⟨value, after, _, leaf⟩
  · rw [broken]
    exact .broken
  · rw [leaf]
    exact .leaf

end Values

/-- The tree of a value is nested as deep as its reader may go, at most. -/
theorem nested_readValue (fuel limit : Nat) (text : List Char) :
    (readValue fuel limit text).Nested limit := by
  induction limit generalizing text with
  | zero =>
    rw [readValue]
    split
    · exact .broken
    · next c rest found =>
      by_cases opening : c = '[' ∨ c = '\x7b'
      · simp only [readStarted, opening, ↓reduceIte]
        exact .broken
      · exact nested_readStarted_token opening
  | succ limit ih =>
    rw [readValue]
    split
    · exact .broken
    · next c rest found =>
      by_cases opening : c = '[' ∨ c = '\x7b'
      · simp only [readStarted, opening, ↓reduceIte]
        split
        · exact nested_readArray ih fuel _
        · exact nested_readObject ih fuel _
      · exact nested_readStarted_token opening

/-! ## Documents -/

/-- A document is nested no deeper than the tree that it is made of. -/
theorem Tree.Nested.depth_le {tree : Tree} {limit : Nat} {value : Json}
    (nested : tree.Nested limit) (meant : tree.interpret documentReading = .ok value) :
    value.depth ≤ limit := by
  induction nested generalizing value with
  | leaf =>
    cases meant
    exact Nat.zero_le _
  | array _ ih =>
    obtain ⟨meanings, after, parts, _, rfl⟩ := Tree.interpret_array_eq_ok_iff.mp meant
    have each := forall_of_forall₂ parts fun item among _ here => ih item among here
    exact Nat.succ_le_succ (Json.itemsDepth_le_iff.mpr each)
  | object _ ih =>
    obtain ⟨meanings, after, parts, _, rfl⟩ := Tree.interpret_object_eq_ok_iff.mp meant
    have each := forall_of_forall₂ parts fun member among _ here => ih member among here.2
    exact Nat.succ_le_succ (Json.membersDepth_le_iff.mpr fun member there =>
      each member (Fields.mem_of_mem_ofEntries there))
  | broken => cases meant

end Text

/-- A document that was read is nested within the limit. -/
theorem Json.depth_ofText {text : List Char} {value : Json} (read : Json.ofText text = .ok value) :
    value.depth ≤ Text.nestingLimit :=
  (Text.nested_readValue _ _ _).depth_le
    (Text.Reading.ofText_eq_ok_iff.mp (mapError_eq_ok.mp read)).1

end JsonShape
