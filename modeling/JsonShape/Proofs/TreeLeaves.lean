import JsonShape.Proofs.Documents
import JsonShape.Proofs.Leaves
import JsonShape.Proofs.Meanings

/-!
# Leaves of a located tree

The values without parts that were read of a text, with the steps to each and the text behind it, in
document order. A tree without fault is rejected for the first leaf that a reading refuses, at the
place behind that leaf. Where no object repeats a key, the leaves of the tree are those of the
document that it is read as.
-/
namespace JsonShape.Text

variable {ε α : Type} {reading : Reading ε α}

/-! ## Leaves -/

/-- A value without parts that was read of a text. -/
structure Leaf where
  /-- The steps to it. -/
  trail : Trail
  /-- The value. -/
  value : Scalar
  /-- The text behind it. -/
  after : List Char

namespace Leaf

/-- A leaf seen from one step further out. -/
def under (step : Step) (leaf : Leaf) : Leaf :=
  { leaf with trail := step :: leaf.trail }

/-- A leaf without its place. -/
def bare (leaf : Leaf) : Trail × Scalar :=
  (leaf.trail, leaf.value)

end Leaf

mutual

/-- The leaves of a tree, in document order. -/
def Tree.leaves : Tree → List Leaf
  | .leaf value after => [⟨[], value, after⟩]
  | .array _ items _ => itemsLeaves 0 items
  | .object _ members _ => membersLeaves members
  | .broken _ => []

/-- The leaves of elements, the first of which has an index. -/
def itemsLeaves (index : Nat) : List Tree → List Leaf
  | [] => []
  | item :: rest => item.leaves.map (Leaf.under (.index index)) ++ itemsLeaves (index + 1) rest

/-- The leaves of members. -/
def membersLeaves : List (Key × Tree) → List Leaf
  | [] => []
  | (key, value) :: rest => value.leaves.map (Leaf.under (.key key.name)) ++ membersLeaves rest

end

/-- The rejection of a leaf, if it is refused. -/
def Reading.rejection? (reading : Reading ε α) (leaf : Leaf) : Option (Rejection ε) :=
  (errorOf? (reading.scalar leaf.value)).map fun reason =>
    ⟨leaf.trail, .refused reason, .upTo leaf.after⟩

/-- A leaf is rejected one step further out as it is further in. -/
theorem Reading.findSome?_leafUnder (step : Step) (leaves : List Leaf) :
    (leaves.map (Leaf.under step)).findSome? reading.rejection? =
      (leaves.findSome? reading.rejection?).map (Rejection.under step) := by
  rw [List.findSome?_map, List.map_findSome?]
  congr 1
  funext leaf
  cases found : errorOf? (reading.scalar leaf.value) <;>
    simp [Reading.rejection?, Leaf.under, found, Rejection.under]

/-- A tree without fault is rejected for the first of its leaves that is refused. -/
theorem Tree.errorOf?_interpret {tree : Tree} {document : Json}
    (read : tree.interpret documentReading = .ok document) :
    errorOf? (tree.interpret reading) = tree.leaves.findSome? reading.rejection? := by
  induction tree generalizing document with
  | leaf value after =>
    rw [Tree.interpret, errorOf?_mapError, Tree.leaves]
    cases found : errorOf? (reading.scalar value) <;> simp [Reading.rejection?, found]
  | array start items ending ih =>
    obtain ⟨documents, after, parts, rfl, -⟩ := Tree.interpret_array_eq_ok_iff.mp read
    have whole : (Tree.array start items (.ok after)).interpret reading =
        (do let meanings ← interpretItems reading 0 items; return reading.array meanings) := rfl
    rw [whole, errorOf?_map, Tree.leaves]
    clear read whole
    generalize 0 = index
    induction parts generalizing index with
    | nil => rfl
    | @cons item document rest documents here _ more =>
      have first := ih item List.mem_cons_self here
      have others := more (fun other among => ih other (List.mem_cons_of_mem _ among)) (index + 1)
      rw [interpretItems, errorOf?_both, errorOf?_mapError, first, others, itemsLeaves,
        List.findSome?_append, Reading.findSome?_leafUnder]
  | object start members ending ih =>
    obtain ⟨documents, after, parts, rfl, -⟩ := Tree.interpret_object_eq_ok_iff.mp read
    have whole : (Tree.object start members (.closed after)).interpret reading =
        (do let meanings ← interpretMembers reading members; return reading.object meanings) := rfl
    rw [whole, errorOf?_map, Tree.leaves]
    clear read whole
    induction parts with
    | nil => rfl
    | @cons member document rest documents here _ more =>
      have first := ih member List.mem_cons_self here.2
      have others := more fun other among => ih other (List.mem_cons_of_mem _ among)
      rw [interpretMembers, errorOf?_both, errorOf?_mapError, first, others, membersLeaves,
        List.findSome?_append, Reading.findSome?_leafUnder]
  | broken found => cases read

/-! ## Trees without repeated keys -/

mutual

/-- No object of a tree repeats a key. -/
def Tree.Distinct : Tree → Prop
  | .leaf _ _ => True
  | .array _ items _ => DistinctItems items
  | .object _ members _ => (members.map fun member => member.1.name).Nodup ∧ DistinctMembers members
  | .broken _ => True

/-- No object of any element repeats a key. -/
def DistinctItems : List Tree → Prop
  | [] => True
  | item :: rest => item.Distinct ∧ DistinctItems rest

/-- No object of any member repeats a key. -/
def DistinctMembers : List (Key × Tree) → Prop
  | [] => True
  | (_, value) :: rest => value.Distinct ∧ DistinctMembers rest

end

/-- Members and their meanings have the same names. -/
theorem MembersMean.names_eq {members : List (Key × Tree)} {meanings : List (String × α)}
    (mean : MembersMean reading members meanings) :
    Fields.names meanings = members.map fun member => member.1.name := by
  induction mean with
  | nil => rfl
  | cons same _ ih => rw [Fields.names_cons, List.map_cons, ← same.1, ih]

/-- Where no object repeats a key, the document has the leaves of the tree. -/
theorem Tree.leaves_of_interpret {tree : Tree} {document : Json}
    (read : tree.interpret documentReading = .ok document) (distinct : tree.Distinct) :
    document.leaves = tree.leaves.map Leaf.bare := by
  induction tree generalizing document with
  | leaf value after =>
    cases read
    rfl
  | array start items ending ih =>
    obtain ⟨documents, after, parts, rfl, rfl⟩ := Tree.interpret_array_eq_ok_iff.mp read
    show Json.itemsLeaves 0 documents = (itemsLeaves 0 items).map Leaf.bare
    rw [Tree.Distinct] at distinct
    clear read
    generalize 0 = index
    induction parts generalizing index with
    | nil => rfl
    | @cons item document rest documents here _ more =>
      obtain ⟨first, others⟩ := distinct
      have same := ih item List.mem_cons_self here first
      have further := more (fun other among => ih other (List.mem_cons_of_mem _ among)) others
        (index + 1)
      rw [Json.itemsLeaves, itemsLeaves, List.map_append, same, further, List.map_map, List.map_map]
      rfl
  | object start members ending ih =>
    obtain ⟨documents, after, parts, rfl, rfl⟩ := Tree.interpret_object_eq_ok_iff.mp read
    rw [Tree.Distinct] at distinct
    obtain ⟨names, distinct⟩ := distinct
    have once : Fields.Distinct documents := by
      rw [Fields.Distinct, parts.names_eq]
      exact names
    show Json.membersLeaves (Fields.ofEntries documents) = (membersLeaves members).map Leaf.bare
    rw [Fields.ofEntries_of_distinct once]
    clear read names once
    induction parts with
    | nil => rfl
    | @cons member document rest documents here _ more =>
      obtain ⟨first, others⟩ := distinct
      have same := ih member List.mem_cons_self here.2 first
      have further := more (fun other among => ih other (List.mem_cons_of_mem _ among)) others
      obtain ⟨key, tree⟩ := member
      obtain ⟨name, value⟩ := document
      obtain ⟨rfl, _⟩ := here
      rw [Json.membersLeaves, membersLeaves, List.map_append, same, further, List.map_map,
        List.map_map]
      rfl
  | broken found => cases read

end JsonShape.Text
