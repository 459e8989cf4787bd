import JsonShape.Command.Documents
import JsonShape.Proofs.Documents

/-!
# Loaded documents

A loading without a problem holds what its steps gave. Without a pointer and a filter every
document is present, and it is one that a text was read as.
-/
namespace JsonShape

/-- A file that holds the bytes of a text has the text. -/
theorem fileText_toUTF8 (text : String) : fileText (.ok text.toUTF8) = .ok text := by
  have same : String.fromUTF8? text.toUTF8 = some text := by
    rw [String.fromUTF8?, String.toUTF8_eq_toByteArray, dif_pos text.isValidUTF8]
    rfl
  simp only [fileText, Except.bind, bind, same]

namespace Command

/-- A document of a loading without a problem was given by one of its steps. -/
theorem Loading.mem_ofSteps {steps : List (Except Problem (List Document))}
    {documents : List Document} (loaded : ofSteps steps = ⟨documents, none⟩) {document : Document}
    (there : document ∈ documents) : ∃ found, .ok found ∈ steps ∧ document ∈ found := by
  induction steps generalizing documents with
  | nil =>
    cases loaded
    cases there
  | cons step rest ih =>
    cases step with
    | error problem => cases loaded
    | ok found =>
      cases further : ofSteps rest with
      | mk others problem =>
        rw [ofSteps, further] at loaded
        cases loaded
        rcases List.mem_append.mp there with here | later
        · exact ⟨found, List.mem_cons_self, here⟩
        · obtain ⟨given, among, inside⟩ := ih further later
          exact ⟨given, List.mem_cons_of_mem _ among, inside⟩

/-- Inputs of which every document is meant as a whole. -/
structure InputSettings.Plain (settings : InputSettings) : Prop where
  /-- No part of a document is selected. -/
  pointer : settings.pointer = none
  /-- No filter changes documents. -/
  filter : settings.filter = none

variable {library : Jq.Library} {settings : InputSettings}

/-- A text of plain inputs is one document. -/
theorem documentsOfText_plain (plain : settings.Plain) (path : String) (index : Nat)
    {text : List Char} {found : List Document}
    (given : documentsOfText library settings path index text = .ok found) :
    ∃ value, Json.ofText text = .ok value ∧
      found = [⟨documentName settings path index, some value⟩] := by
  rw [documentsOfText] at given
  obtain ⟨value, read, kept⟩ := bind_eq_ok.mp given
  simp only [select, plain.pointer, filtered, plain.filter] at kept
  exact ⟨value, mapError_eq_ok.mp read, (Except.ok.inj kept).symm⟩

/-- Every document of plain inputs is present and was read from a text. -/
theorem mem_load_plain (plain : settings.Plain) {sources : List Source}
    {documents : List Document} (loaded : load library settings sources = ⟨documents, none⟩)
    {document : Document} (there : document ∈ documents) :
    ∃ text value, Json.ofText text = .ok value ∧ document.value = some value := by
  obtain ⟨found, step, inside⟩ := Loading.mem_ofSteps loaded there
  obtain ⟨source, _, given⟩ := List.mem_flatMap.mp step
  rw [documentsOfSource] at given
  cases content : source.text with
  | error fault =>
    rw [content] at given
    cases List.mem_singleton.mp given
  | ok text =>
    rw [content] at given
    obtain ⟨⟨part, index⟩, _, made⟩ := List.mem_map.mp given
    obtain ⟨value, read, rfl⟩ := documentsOfText_plain plain source.path index made
    obtain rfl := List.mem_singleton.mp inside
    exact ⟨part, value, read, rfl⟩

end Command

end JsonShape
