import JsonShape.Json.Writer
import JsonShape.Shape
import JsonShape.Text.Reading
import JsonShape.Text.Shown

/-!
# The notation of shapes

A shape is written as JSON: a kind by its name, null as null, an object as the object of its
fields' notations, and the three shapes on arrays and alternatives as an array of no, one or more
notations. It is read from a JSON value or straight from a text; both report the first part in
document order that is no notation, the text with its position. It is written as a JSON value or
straight as a text.
-/
namespace JsonShape

/-- A description of a value without parts, for messages. -/
def Scalar.description : Scalar → String
  | .null => "null"
  | .bool value => if value then "boolean `true`" else "boolean `false`"
  | .number (.integer value _ _) => "integer `" ++ String.ofList (Number.integerText value) ++ "`"
  | .number (.double value) => "floating point `" ++ String.ofList (Number.layout.text value) ++ "`"
  | .string value => "string " ++ String.ofList (Text.shown value.toList)

/-- Why a value without parts is no notation. -/
inductive NotationFault where
  /-- A string that names no kind. -/
  | unknownKind (name : String)
  /-- A truth value or a number. -/
  | wrongType (value : Scalar)
deriving DecidableEq

/-- The wording of a notation fault. -/
def NotationFault.message : NotationFault → String
  | .unknownKind name => Kind.unknownMessage name
  | .wrongType value =>
    "invalid type: " ++ value.description ++
      ", expected a kind name, null, an object of field specs, or an array of specs"

/-- Why a shape could not be read or built. -/
inductive ShapeError where
  /-- The part at the end of a trail is no notation; a text gives its position too. -/
  | invalid (trail : Text.Trail) (cause : Text.Cause NotationFault)
      (position : Option Text.Position)
  /-- A union of fewer than two alternatives. -/
  | tooFewAlternatives (count : Nat)
deriving DecidableEq

namespace ShapeError

/-- The wording of a cause without its position. -/
def causeMessage : Text.Cause NotationFault → String
  | .fault fault => fault.message
  | .refused reason => reason.message

/-- The reason why a part is no notation, with its position if it has one. -/
def reason (cause : Text.Cause NotationFault) (position : Option Text.Position) : String :=
  causeMessage cause ++ (position.map Text.Position.message).getD ""

/-- The wording of an error. -/
def message : ShapeError → String
  | .invalid trail cause position =>
    "invalid spec at `" ++ trail.text ++ "`: " ++ reason cause position
  | .tooFewAlternatives count => s!"a union needs at least two alternatives, got {count}"

end ShapeError

namespace Text

variable {ε α : Type}

/-- A refused part of a value, with the trail to it. -/
structure Refusal (ε : Type) where
  /-- The steps to the part. -/
  trail : Trail
  /-- Why it was refused. -/
  reason : ε

/-- The same refusal, seen from one step further out. -/
def Refusal.under (step : Step) (refusal : Refusal ε) : Refusal ε :=
  { refusal with trail := step :: refusal.trail }

mutual

/-- The meaning of a value, or its first refused part in document order. -/
def Reading.ofJson (reading : Reading ε α) : Json → Except (Refusal ε) α
  | .scalar value => (reading.scalar value).mapError fun reason => ⟨[], reason⟩
  | .array items => do
    let meanings ← reading.ofItems 0 items
    return reading.array meanings
  | .object members => do
    let meanings ← reading.ofMembers members
    return reading.object meanings

/-- The meanings of elements, the first of which has an index. -/
def Reading.ofItems (reading : Reading ε α) (index : Nat) :
    List Json → Except (Refusal ε) (List α)
  | [] => .ok []
  | item :: rest => do
    let meaning ← (reading.ofJson item).mapError (·.under (.index index))
    let others ← reading.ofItems (index + 1) rest
    return meaning :: others

/-- The meanings of members. -/
def Reading.ofMembers (reading : Reading ε α) :
    List (String × Json) → Except (Refusal ε) (List (String × α))
  | [] => .ok []
  | (name, value) :: rest => do
    let meaning ← (reading.ofJson value).mapError (·.under (.key name))
    let others ← reading.ofMembers rest
    return (name, meaning) :: others

end

end Text

namespace Shape

/-- The shape that a value without parts writes. -/
def ofScalar : Scalar → Except NotationFault Shape
  | .null => .ok .null
  | .string name =>
    match Kind.ofName? name with
    | some kind => .ok (.ofKind kind)
    | none => .error (.unknownKind name)
  | value => .error (.wrongType value)

/-- The notation as a reading. -/
def notationReading : Text.Reading NotationFault Shape where
  scalar := ofScalar
  array := ofSequence
  object := ofFields

/-- The shape that a value writes. -/
def ofJson (value : Json) : Except ShapeError Shape :=
  (notationReading.ofJson value).mapError fun refusal =>
    .invalid refusal.trail (.refused refusal.reason) none

/-- The shape that a text writes. -/
def ofText (text : List Char) : Except ShapeError Shape :=
  (notationReading.ofText text).mapError fun rejection =>
    .invalid rejection.trail rejection.cause (some (rejection.place.position text))

/-- The shape that a string writes. -/
def read (text : String) : Except ShapeError Shape :=
  ofText text.toList

/-- One of several shapes, of which there must be two. -/
def oneOf (alternatives : List Shape) : Except ShapeError Shape :=
  if alternatives.length < 2 then .error (.tooFewAlternatives alternatives.length)
  else .ok (.union alternatives)

mutual

/-- The notation of a shape as a JSON value. -/
def toJson : Shape → Json
  | .ofKind kind => .string kind.name
  | .null => .null
  | .object fields => .object (fieldsToJson fields)
  | .anyArray => .array []
  | .array element => .array [element.toJson]
  | .union alternatives => .array (alternativesToJson alternatives)

/-- The notations of fields. -/
def fieldsToJson : List (String × Shape) → List (String × Json)
  | [] => []
  | (name, shape) :: rest => (name, shape.toJson) :: fieldsToJson rest

/-- The notations of alternatives. -/
def alternativesToJson : List Shape → List Json
  | [] => []
  | shape :: rest => shape.toJson :: alternativesToJson rest

end

mutual

/-- The notation of a shape that stands at a nesting depth, straight as a text. -/
def text (style : Text.Style) (depth : Nat) : Shape → List Char
  | .ofKind kind => Text.quoted kind.name.toList
  | .null => ['n', 'u', 'l', 'l']
  | .object fields =>
    Text.bracketed style depth '\x7b' '\x7d' (fieldTexts style (depth + 1) fields)
  | .anyArray => Text.bracketed style depth '[' ']' []
  | .array element => Text.bracketed style depth '[' ']' [text style (depth + 1) element]
  | .union alternatives =>
    Text.bracketed style depth '[' ']' (alternativeTexts style (depth + 1) alternatives)

/-- The notations of fields as texts. -/
def fieldTexts (style : Text.Style) (depth : Nat) : List (String × Shape) → List (List Char)
  | [] => []
  | (name, shape) :: rest =>
    Text.keyed style name (text style depth shape) :: fieldTexts style depth rest

/-- The notations of alternatives as texts. -/
def alternativeTexts (style : Text.Style) (depth : Nat) : List Shape → List (List Char)
  | [] => []
  | shape :: rest => text style depth shape :: alternativeTexts style depth rest

end

/-- The notation without blanks. -/
def compact (shape : Shape) : String :=
  String.ofList (shape.text .compact 0)

/-- The notation with one item a line. -/
def pretty (shape : Shape) : String :=
  String.ofList (shape.text .pretty 0)

end Shape

end JsonShape
