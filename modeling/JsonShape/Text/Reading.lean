import JsonShape.Text.Trail
import JsonShape.Text.Tree

/-!
# Readings of a tree

A reading gives a meaning to the parts of a tree: to a scalar, which it may refuse, and to an
array and an object once their parts have one. A tree is read in document order, so the first
fault or refusal is the one reported, with the trail to it and its place.
-/
namespace JsonShape.Text

/-- What the parts of a text mean. -/
structure Reading (ε α : Type) where
  /-- The meaning of a value without parts, or why it has none. -/
  scalar : Scalar → Except ε α
  /-- The meaning of an array. -/
  array : List α → α
  /-- The meaning of an object whose members come in order, repeated keys included. -/
  object : List (String × α) → α

/-- Why a text has no meaning. -/
inductive Cause (ε : Type) where
  /-- The text is faulty. -/
  | fault (fault : Fault)
  /-- A part was refused. -/
  | refused (reason : ε)
deriving DecidableEq

/-- A cause with the trail to the part that it concerns and its place in the text. -/
structure Rejection (ε : Type) where
  /-- The steps to the part. -/
  trail : Trail
  /-- What is wrong. -/
  cause : Cause ε
  /-- Where. -/
  place : Place

/-- The same rejection, seen from one step further out. -/
def Rejection.under {ε : Type} (step : Step) (rejection : Rejection ε) : Rejection ε :=
  { rejection with trail := step :: rejection.trail }

variable {ε δ α : Type}

/-- The same cause with its reason in other words. -/
def Cause.map (f : ε → δ) : Cause ε → Cause δ
  | .fault found => .fault found
  | .refused reason => .refused (f reason)

/-- The same rejection with its reason in other words. -/
def Rejection.map (f : ε → δ) (rejection : Rejection ε) : Rejection δ :=
  ⟨rejection.trail, rejection.cause.map f, rejection.place⟩

/-- Reject for a fault. -/
def rejectFault (trail : Trail) (found : FaultAt) : Except (Rejection ε) α :=
  .error ⟨trail, .fault found.fault, found.place⟩

/-- The end of an array; a fault concerns the array itself. -/
def endArray (meaning : α) : Except FaultAt (List Char) → Except (Rejection ε) α
  | .ok _ => .ok meaning
  | .error found => rejectFault [] found

/-- The end of an object. A fault between its members concerns a member of unknown key, a missing
colon the object itself. -/
def endObject (meaning : α) : ObjectEnd → Except (Rejection ε) α
  | .closed _ => .ok meaning
  | .broken found => rejectFault [.unknown] found
  | .colonMissing _ found => rejectFault [] found

mutual

/-- The meaning of a tree, or the first rejection in document order. -/
def Tree.interpret (reading : Reading ε α) : Tree → Except (Rejection ε) α
  | .leaf value after =>
    (reading.scalar value).mapError fun reason => ⟨[], .refused reason, .upTo after⟩
  | .array _ items ending => do
    let meanings ← interpretItems reading 0 items
    endArray (reading.array meanings) ending
  | .object _ members ending => do
    let meanings ← interpretMembers reading members
    endObject (reading.object meanings) ending
  | .broken found => rejectFault [] found

/-- The meanings of elements, the first of which has an index. -/
def interpretItems (reading : Reading ε α) (index : Nat) :
    List Tree → Except (Rejection ε) (List α)
  | [] => .ok []
  | item :: rest => do
    let meaning ← (item.interpret reading).mapError (·.under (.index index))
    let others ← interpretItems reading (index + 1) rest
    return meaning :: others

/-- The meanings of members. -/
def interpretMembers (reading : Reading ε α) :
    List (Key × Tree) → Except (Rejection ε) (List (String × α))
  | [] => .ok []
  | (key, value) :: rest => do
    let meaning ← (value.interpret reading).mapError (·.under (.key key.name))
    let others ← interpretMembers reading rest
    return (key.name, meaning) :: others

end

/-- The end of a text behind its value: only blanks may follow. -/
def endText (rest : List Char) : Except FaultAt Unit :=
  match skipBlanks rest with
  | [] => .ok ()
  | rest => fault .trailingCharacters (.firstOf rest)

/-- The meaning of a text that consists of one value. -/
def Reading.ofText (reading : Reading ε α) (text : List Char) : Except (Rejection ε) α := do
  let tree := Tree.ofText text
  let meaning ← tree.interpret reading
  match tree.outcome >>= endText with
  | .ok _ => .ok meaning
  | .error found => rejectFault [] found

end JsonShape.Text
