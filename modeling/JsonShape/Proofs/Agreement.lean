import JsonShape.Proofs.Offenders
import JsonShape.Proofs.Places

/-!
# Shapes of texts and of the documents in them

A shape is read straight from a text or from the document that the text writes, and both ways agree.
A text that writes a shape writes a document of that shape. A text whose document is read, and in
which no object repeats a key, gives the same shape both ways, or is refused both ways for its first
leaf that is no notation.
-/
namespace JsonShape

namespace Text

/-- The members of a tree under the names of their keys. -/
def named (members : List (Key × Tree)) : List (String × Tree) :=
  members.map fun member => (member.1.name, member.2)

/-- What the parts of a text write. Of the members of one name the first gives the field its place
and the last its shape. -/
inductive Tree.Writes : Tree → Shape → Prop where
  /-- Null or the name of a kind. -/
  | leaf {value : Scalar} {after : List Char} {shape : Shape} :
      Shape.ofScalar value = .ok shape → Writes (.leaf value after) shape
  /-- An array of what the elements write. -/
  | array {start : List Char} {items : List Tree} {ending : Except FaultAt (List Char)}
      {shapes : List Shape} :
      List.Forall₂ Writes items shapes → Writes (.array start items ending) (.ofSequence shapes)
  /-- An object of what the last member of each name writes. -/
  | object {start : List Char} {members : List (Key × Tree)} {ending : ObjectEnd}
      {shape : String → Shape} :
      (∀ name last, Fields.last? name (named members) = some last → Writes last (shape name)) →
      Writes (.object start members ending)
        (.object ((Fields.names (named members)).eraseDups.map fun name => (name, shape name)))

/-- The meanings of members are those of their values, under the same names. -/
theorem MembersMean.related {ε α : Type} {reading : Reading ε α} {members : List (Key × Tree)}
    {meanings : List (String × α)} (mean : MembersMean reading members meanings) :
    Fields.Related (fun tree meaning => tree.interpret reading = .ok meaning) (named members)
      meanings :=
  List.forall₂_map_left_iff.mpr mean

/-- The shape that is read of a tree is what its parts write. -/
theorem Tree.writes_of_interpret {tree : Tree} {shape : Shape}
    (read : tree.interpret Shape.notationReading = .ok shape) : tree.Writes shape := by
  induction tree generalizing shape with
  | leaf value after =>
    rw [Tree.interpret] at read
    exact .leaf (mapError_eq_ok.mp read)
  | array start items ending ih =>
    obtain ⟨shapes, after, parts, _, rfl⟩ := Tree.interpret_array_eq_ok_iff.mp read
    exact .array (forall₂_of_mem parts fun item among _ here => ih item among here)
  | object start members ending ih =>
    obtain ⟨meanings, after, parts, _, rfl⟩ := Tree.interpret_object_eq_ok_iff.mp read
    have stored := parts.related.ofEntries
    have order : Fields.names (Fields.ofEntries meanings) =
        (Fields.names (named members)).eraseDups := by
      rw [← stored.names_eq, Fields.names_ofEntries]
    have whole := Fields.map_names_of_distinct (Fields.ofEntries_distinct meanings) .null
    show Tree.Writes _ (.object (Fields.ofEntries meanings))
    rw [← whole, order]
    refine .object fun name last found => ?_
    rw [← Fields.get?_ofEntries] at found
    obtain ⟨shape, under, meant⟩ := stored.get? found
    obtain ⟨member, among, same⟩ :=
      List.mem_map.mp (Fields.mem_of_mem_ofEntries (Fields.mem_of_get? found))
    obtain ⟨rfl, rfl⟩ := Prod.mk.inj same
    rw [under, Option.getD_some]
    exact ih member among meant
  | broken found => cases read

/-- A tree that gives a shape gives a document of that shape. -/
theorem Tree.interpret_document {tree : Tree} {shape : Shape}
    (read : tree.interpret Shape.notationReading = .ok shape) :
    ∃ document, tree.interpret documentReading = .ok document ∧
      Shape.notationReading.ofJson document = .ok shape := by
  induction tree generalizing shape with
  | leaf value after =>
    rw [Tree.interpret] at read
    have made := mapError_eq_ok.mp read
    refine ⟨.scalar value, rfl, ?_⟩
    rw [Reading.ofJson]
    exact mapError_eq_ok.mpr made
  | array start items ending ih =>
    obtain ⟨shapes, after, parts, ended, made⟩ := Tree.interpret_array_eq_ok_iff.mp read
    obtain ⟨documents, documents?, shapes?⟩ :=
      forall₂_through parts fun item among shape here => ih item among here
    exact ⟨.array documents,
      Tree.interpret_array_eq_ok_iff.mpr ⟨documents, after, documents?, ended, rfl⟩,
      Reading.ofJson_array_eq_ok_iff.mpr ⟨shapes, shapes?, made⟩⟩
  | object start members ending ih =>
    obtain ⟨fields, after, parts, ended, rfl⟩ := Tree.interpret_object_eq_ok_iff.mp read
    have each : ∀ member ∈ members, ∀ field : String × Shape,
        member.1.name = field.1 ∧ member.2.interpret Shape.notationReading = .ok field.2 →
        ∃ entry : String × Json,
          (member.1.name = entry.1 ∧ member.2.interpret documentReading = .ok entry.2) ∧
          entry.1 = field.1 ∧ Shape.notationReading.ofJson entry.2 = .ok field.2 := by
      rintro member among field ⟨same, here⟩
      obtain ⟨document, document?, shape?⟩ := ih member among here
      exact ⟨(member.1.name, document), ⟨rfl, document?⟩, same, shape?⟩
    obtain ⟨documents, documents?, shapes?⟩ := forall₂_through parts each
    have stored : Fields.Related (fun document shape =>
        Shape.notationReading.ofJson document = .ok shape) (Fields.ofEntries documents)
        (Fields.ofEntries fields) := Fields.Related.ofEntries shapes?
    -- Storing the members of the document once more changes nothing.
    have twice : Fields.ofEntries (Fields.ofEntries fields) = Fields.ofEntries fields :=
      Fields.ofEntries_of_distinct (Fields.ofEntries_distinct fields)
    refine ⟨.object (Fields.ofEntries documents),
      Tree.interpret_object_eq_ok_iff.mpr ⟨documents, after, documents?, ended, rfl⟩,
      Reading.ofJson_object_eq_ok_iff.mpr ⟨Fields.ofEntries fields, stored, ?_⟩⟩
    show Shape.object (Fields.ofEntries (Fields.ofEntries fields)) = _
    rw [twice]
    rfl
  | broken found => cases read

/-! ## Whole texts -/

/-- The first leaf of a text that is neither null nor the name of a kind, and why it is refused. -/
structure FirstRefused (text : List Char) (leaf : Leaf) (fault : NotationFault) : Prop where
  /-- The leaves before it in document order are null and names of kinds. -/
  first : ∃ before later, (Tree.ofText text).leaves = before ++ leaf :: later ∧
    ∀ earlier ∈ before, earlier.value.IsNotation
  /-- It is refused. -/
  refused : Shape.ofScalar leaf.value = .error fault

/-- A tree that is rejected is rejected for the first leaf that is no notation. -/
theorem FirstRefused.of_findSome? {text : List Char} {rejection : Rejection NotationFault}
    (found : (Tree.ofText text).leaves.findSome? Shape.notationReading.rejection? =
      some rejection) :
    ∃ leaf fault, FirstRefused text leaf fault ∧
      rejection = ⟨leaf.trail, .refused fault, .upTo leaf.after⟩ := by
  obtain ⟨before, leaf, later, split, here, earlier⟩ := List.findSome?_eq_some_iff.mp found
  obtain ⟨fault, refused, rfl⟩ := Option.map_eq_some_iff.mp here
  refine ⟨leaf, fault, ⟨⟨before, later, split, fun other among => ?_⟩,
    errorOf?_eq_some_iff.mp refused⟩, rfl⟩
  have accepted := Option.map_eq_none_iff.mp (earlier other among)
  exact Shape.ofScalar_isOk_iff.mp (errorOf?_eq_none_iff.mp accepted)

/-- A document with the leaves of a text is refused for the leaf that the text is refused for. -/
theorem FirstRefused.ofJson {text : List Char} {leaf : Leaf} {fault : NotationFault}
    (refused : FirstRefused text leaf fault) {document : Json}
    (same : document.leaves = (Tree.ofText text).leaves.map Leaf.bare) :
    Shape.notationReading.ofJson document = .error ⟨leaf.trail, fault⟩ := by
  obtain ⟨⟨before, later, split, earlier⟩, here⟩ := refused
  have bare : document.leaves =
      before.map Leaf.bare ++ (leaf.trail, leaf.value) :: later.map Leaf.bare := by
    rw [same, split, List.map_append, List.map_cons]
    rfl
  exact Shape.refused_of_leaves bare (List.forall_mem_map.mpr earlier) here

end Text

namespace Shape

open Text

/-- A text and a document are refused with one trail and one fault, those of the first leaf of the
text that is no notation. The text's reason is the document's with the line and the column of the
last byte of the leaf's token behind it. -/
def RefusedAlike (text : String) (document : Json) : Prop :=
  ∃ leaf fault seen token line column, FirstRefused text.toList leaf fault ∧
    text.toList = seen ++ token ++ leaf.after ∧ leaf.Token token ∧
    Text.Position.ofLastByte (seen ++ token) = ⟨line, column⟩ ∧
    Shape.ofJson document = .error (.invalid leaf.trail (.refused fault) none) ∧
    Shape.read text = .error (.invalid leaf.trail (.refused fault) (some ⟨line, column⟩)) ∧
    ShapeError.reason (.refused fault) (some ⟨line, column⟩) =
      ShapeError.reason (.refused fault) none ++ s!" at line {line} column {column}"

/-- A position adds nothing but its message to a reason. -/
theorem reason_at (cause : Cause NotationFault) (position : Text.Position) :
    ShapeError.reason cause (some position) = ShapeError.reason cause none ++ position.message := by
  simp [ShapeError.reason]

/-- A text that is rejected where its document is read is refused as the document is. -/
theorem refusedAlike_of_error {text : String} {document : Json}
    (found : (Tree.ofText text.toList).interpret documentReading = .ok document)
    (distinct : (Tree.ofText text.toList).Distinct) {rejection : Rejection NotationFault}
    (rejected : (Tree.ofText text.toList).interpret notationReading = .error rejection) :
    RefusedAlike text document := by
  have first : (Tree.ofText text.toList).leaves.findSome? notationReading.rejection? =
      some rejection := by
    rw [← Tree.errorOf?_interpret found, errorOf?_eq_some_iff]
    exact rejected
  obtain ⟨leaf, fault, refused, rfl⟩ := FirstRefused.of_findSome? first
  obtain ⟨before, later, split, _⟩ := refused.first
  have there : leaf ∈ (Tree.ofText text.toList).leaves := by
    rw [split]
    exact List.mem_append_right before List.mem_cons_self
  obtain ⟨token, spelled, seen, whole⟩ := Leaf.within_ofText there
  rw [← List.append_assoc] at whole
  have place : Place.position text.toList (.upTo leaf.after) = .ofLastByte (seen ++ token) := by
    rw [← whole, position_upTo]
  refine ⟨leaf, fault, seen, token, _, _, refused, whole.symm, spelled, rfl, ?_, ?_, reason_at _ _⟩
  · rw [Shape.ofJson, refused.ofJson (Tree.leaves_of_interpret found distinct)]
    rfl
  · have read : Shape.read text = .error (.invalid leaf.trail (.refused fault)
        (some (Place.position text.toList (.upTo leaf.after)))) := by
      rw [Shape.read, Shape.ofText, Reading.ofText_of_error rejected]
      rfl
    rw [place] at read
    exact read

/-- A text that writes a shape writes a document of that shape, in which a repeated key has its
first place and its last shape. A text whose document is read, and in which no object repeats a key,
gives the document's shape, or is refused as the document is. -/
theorem read_agrees_with_document (text : String) :
    (∀ shape, Shape.read text = .ok shape →
      (Tree.ofText text.toList).Writes shape ∧
      ∃ document, Json.read text = .ok document ∧ Shape.ofJson document = .ok shape) ∧
    ∀ document, Json.read text = .ok document → (Tree.ofText text.toList).Distinct →
      (∃ shape, Shape.read text = .ok shape ∧ Shape.ofJson document = .ok shape) ∨
        RefusedAlike text document := by
  have through (shape : Shape) (read : Shape.read text = .ok shape) :
      (Tree.ofText text.toList).Writes shape ∧
      ∃ document, Json.read text = .ok document ∧ Shape.ofJson document = .ok shape := by
    obtain ⟨found, ended⟩ := Reading.ofText_eq_ok_iff.mp (mapError_eq_ok.mp read)
    obtain ⟨document, document?, shape?⟩ := Tree.interpret_document found
    have read : Json.read text = .ok document :=
      mapError_eq_ok.mpr (Reading.ofText_eq_ok_iff.mpr ⟨document?, ended⟩)
    exact ⟨Tree.writes_of_interpret found, document, read, mapError_eq_ok.mpr shape?⟩
  refine ⟨through, fun document read distinct => ?_⟩
  obtain ⟨found, ended⟩ := Reading.ofText_eq_ok_iff.mp (mapError_eq_ok.mp read)
  cases meant : (Tree.ofText text.toList).interpret notationReading with
  | error rejection => exact .inr (refusedAlike_of_error found distinct meant)
  | ok shape =>
    have shape? : Shape.read text = .ok shape :=
      mapError_eq_ok.mpr (Reading.ofText_eq_ok_iff.mpr ⟨meant, ended⟩)
    obtain ⟨_, other, other?, same⟩ := through shape shape?
    rw [read] at other?
    cases other?
    exact .inl ⟨shape, shape?, same⟩

/-- A repeated key gives its field the first place and the last shape, and a misspelt kind in the
second line of a text is refused there. -/
theorem read_agrees_with_document_misspelt :
    let repeated := "\x7b\"a\":null,\"b\":\"string\",\"a\":[\"number\"]\x7d"
    let misspelt := "[null,\n\"strin\"]"
    (Shape.read repeated = .ok (.object [("a", .array .number), ("b", .string)]) ∧
      ∃ document, Json.read repeated = .ok document ∧
        Shape.ofJson document = .ok (.object [("a", .array .number), ("b", .string)])) ∧
    Json.read misspelt = .ok (.array [.null, .string "strin"]) ∧
      (Tree.ofText misspelt.toList).Distinct ∧
      Shape.read misspelt =
        .error (.invalid [.index 1] (.refused (.unknownKind "strin")) (some ⟨2, 7⟩)) ∧
      RefusedAlike misspelt (.array [.null, .string "strin"]) := by
  intro repeated misspelt
  have repeated? : Shape.read repeated = .ok (.object [("a", .array .number), ("b", .string)]) := by
    simp only [repeated, Shape.read, String.reduceToList]
    rfl
  have refused : Shape.read misspelt =
      .error (.invalid [.index 1] (.refused (.unknownKind "strin")) (some ⟨2, 7⟩)) := by
    simp only [misspelt, Shape.read, String.reduceToList]
    rfl
  have document? : Json.read misspelt = .ok (.array [.null, .string "strin"]) := by
    simp only [misspelt, Json.read, String.reduceToList]
    rfl
  have tree : Tree.ofText misspelt.toList = .array misspelt.toList
      [.leaf .null ",\n\"strin\"]".toList, .leaf (.string "strin") "]".toList] (.ok []) := by
    simp only [misspelt, String.reduceToList]
    rfl
  have distinct : (Tree.ofText misspelt.toList).Distinct := by
    rw [tree]
    exact ⟨trivial, trivial, trivial⟩
  obtain ⟨shapes, _⟩ := read_agrees_with_document repeated
  obtain ⟨_, documents⟩ := read_agrees_with_document misspelt
  refine ⟨⟨repeated?, (shapes _ repeated?).2⟩, document?, distinct, refused, ?_⟩
  rcases documents _ document? distinct with ⟨shape, read, _⟩ | alike
  · rw [refused] at read
    cases read
  · exact alike

end Shape

end JsonShape
