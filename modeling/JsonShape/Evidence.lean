import JsonShape.Json

/-!
# Evidence of samples

Evidence says what was seen at one position of some samples: which kinds occurred, what was seen
in the elements of the arrays there, and how many objects there were, with the fields they had.
A field counts the objects that had it. Joining the evidence of two lots of samples gives that of
both; the fields keep the order in which they first appeared. Counts are 64-bit words.
-/
namespace JsonShape

/-- A field that some objects had. -/
structure Occurrence (α : Type) where
  /-- How many objects had the field. -/
  count : UInt64
  /-- What was seen of its values. -/
  evidence : α

/-- The objects of one position. -/
structure Objects (α : Type) where
  /-- How many objects there were. -/
  seen : UInt64
  /-- Their fields in order of first appearance. -/
  fields : List (String × Occurrence α)

/-- What was seen at one position. -/
structure Evidence where
  /-- Whether null occurred, or a value was missing. -/
  nullable : Bool
  /-- Whether a truth value occurred. -/
  bool : Bool
  /-- Whether a number occurred. -/
  number : Bool
  /-- Whether a string occurred. -/
  string : Bool
  /-- The joined evidence of all elements, if an array occurred. -/
  items : Option Evidence
  /-- The objects, if one occurred. -/
  objects : Option (Objects Evidence)

namespace Evidence

/-- Nothing was seen. -/
def empty : Evidence := ⟨false, false, false, false, none, none⟩

/-- Whether nothing was seen. -/
def isBottom (evidence : Evidence) : Bool :=
  !evidence.nullable && !evidence.bool && !evidence.number && !evidence.string &&
    evidence.items.isNone && evidence.objects.isNone

/-! ## Joining -/

/-- Fields of a second list whose names a first list lacks. -/
def newFields (fields others : List (String × Occurrence Evidence)) :
    List (String × Occurrence Evidence) :=
  others.filter fun field => (Fields.get? field.1 fields).isNone

mutual

/-- What was seen in either of two lots of samples. -/
def join : Evidence → Evidence → Evidence
  | ⟨nullable, bool, number, string, items, objects⟩, other =>
    ⟨nullable || other.nullable, bool || other.bool, number || other.number,
      string || other.string, joinItems items other.items, joinObjects objects other.objects⟩
termination_by structural x => x

/-- The joined evidence of elements. -/
def joinItems : Option Evidence → Option Evidence → Option Evidence
  | none, other => other
  | some items, other =>
    match other with
    | none => some items
    | some others => some (join items others)
termination_by structural x => x

/-- The joined objects: fields of the second lot that the first lacks come last. -/
def joinObjects :
    Option (Objects Evidence) → Option (Objects Evidence) → Option (Objects Evidence)
  | none, other => other
  | some ⟨seen, fields⟩, other =>
    match other with
    | none => some ⟨seen, fields⟩
    | some others =>
      some ⟨seen + others.seen, joinFields fields others.fields ++ newFields fields others.fields⟩
termination_by structural x => x

/-- The fields of a first lot, each with what a second lot adds to it. -/
def joinFields : List (String × Occurrence Evidence) → List (String × Occurrence Evidence) →
    List (String × Occurrence Evidence)
  | [], _ => []
  | (name, ⟨count, evidence⟩) :: rest, others =>
    (name, match Fields.get? name others with
      | none => ⟨count, evidence⟩
      | some other => ⟨count + other.count, join evidence other.evidence⟩) ::
      joinFields rest others
termination_by structural x => x

end

/-! ## Observing -/

/-- The evidence of a value without parts. -/
def ofScalar : Scalar → Evidence
  | .null => { empty with nullable := true }
  | .bool _ => { empty with bool := true }
  | .number _ => { empty with number := true }
  | .string _ => { empty with string := true }

mutual

/-- The evidence of one value. -/
def ofJson : Json → Evidence
  | .scalar value => ofScalar value
  | .array items => { empty with items := some (joinAll empty items) }
  | .object members => { empty with objects := some ⟨1, ofMembers members⟩ }

/-- Evidence joined with that of values one after the other. -/
def joinAll (start : Evidence) : List Json → Evidence
  | [] => start
  | item :: rest => joinAll (start.join (ofJson item)) rest

/-- The fields of one object. -/
def ofMembers : List (String × Json) → List (String × Occurrence Evidence)
  | [] => []
  | (name, value) :: rest => (name, ⟨1, ofJson value⟩) :: ofMembers rest

end

/-! ## Equality up to the order of fields -/

mutual

/-- Equal, when the order of fields does not count. -/
def same : Evidence → Evidence → Bool
  | ⟨nullable, bool, number, string, items, objects⟩, other =>
    nullable == other.nullable && bool == other.bool && number == other.number &&
      string == other.string && sameItems items other.items && sameObjects objects other.objects
termination_by structural x => x

/-- Equal evidence of elements. -/
def sameItems : Option Evidence → Option Evidence → Bool
  | none, other => other.isNone
  | some items, other =>
    match other with
    | none => false
    | some others => same items others
termination_by structural x => x

/-- Equal objects. -/
def sameObjects : Option (Objects Evidence) → Option (Objects Evidence) → Bool
  | none, other => other.isNone
  | some ⟨seen, fields⟩, other =>
    match other with
    | none => false
    | some others =>
      seen == others.seen && fields.length == others.fields.length &&
        sameFields fields others.fields
termination_by structural x => x

/-- Every field has an equal counterpart of the same name. -/
def sameFields : List (String × Occurrence Evidence) → List (String × Occurrence Evidence) → Bool
  | [], _ => true
  | (name, ⟨count, evidence⟩) :: rest, others =>
    (match Fields.get? name others with
      | none => false
      | some other => count == other.count && same evidence other.evidence) &&
      sameFields rest others
termination_by structural x => x

end

end Evidence

end JsonShape
