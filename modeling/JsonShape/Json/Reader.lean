import JsonShape.Json
import JsonShape.Text.Reading

/-!
# Reading JSON

The document that a text writes. A repeated key keeps its first place and takes its last value.
-/
namespace JsonShape

/-- Every tree without fault is a document. -/
def documentReading : Text.Reading Empty Json where
  scalar value := .ok (.scalar value)
  array := .array
  object members := .object (Fields.ofEntries members)

/-- A rejection of a document is a fault of its text. -/
def Text.Rejection.readError (text : List Char) (rejection : Rejection Empty) : ReadError :=
  match rejection.cause with
  | .fault fault => ⟨fault, rejection.place.position text⟩

/-- The document that a text consists of. -/
def Json.ofText (text : List Char) : Except Text.ReadError Json :=
  (documentReading.ofText text).mapError (·.readError text)

/-- The document that a string consists of. -/
def Json.read (text : String) : Except Text.ReadError Json :=
  Json.ofText text.toList

end JsonShape
