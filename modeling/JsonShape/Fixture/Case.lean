import JsonShape.Json.Reader
import JsonShape.Report
import JsonShape.Shape.Notation

/-!
# Recorded cases

A case records the lines that report a value against a shape. It is read from the start of a text:
from an object with its fields, in any order and each once, or from an array with the five fields
in their order. The label of the root may be missing or null. What follows the case is not read.
-/
namespace JsonShape.Fixture

open Text (Tree Rejection Place skipBlanks rejectFault)

/-- A value and a shape with the lines that are due. -/
structure Case where
  /-- The name. -/
  name : String
  /-- The shape. -/
  shape : Shape
  /-- The value. -/
  value : Json
  /-- The label of the root. -/
  rootLabel : String
  /-- The lines. -/
  expected : List String

/-- A field of a written case. -/
inductive Field where
  /-- The name. -/
  | name
  /-- The shape. -/
  | shape
  /-- The value. -/
  | value
  /-- The label of the root. -/
  | rootLabel
  /-- The lines. -/
  | expected
deriving DecidableEq

namespace Field

/-- The fields in their order. -/
def all : List Field := [.name, .shape, .value, .rootLabel, .expected]

/-- The key of a field. -/
def key : Field → String
  | .name => "name"
  | .shape => "spec"
  | .value => "value"
  | .rootLabel => "root_label"
  | .expected => "expect"

/-- The field of a key. -/
def ofKey? (key : String) : Option Field :=
  all.find? fun field => field.key = key

/-- A key as it stands in a message. -/
def quotedKey (field : Field) : String := "`" ++ field.key ++ "`"

end Field

/-- What is due in a place. -/
inductive Form where
  /-- A text. -/
  | string
  /-- An array. -/
  | sequence
  /-- A case. -/
  | case
deriving DecidableEq

/-- The words for what is due. -/
def Form.message : Form → String
  | .string => "a string"
  | .sequence => "a sequence"
  | .case => "struct Case"

/-- What stands in a place. -/
inductive Found where
  /-- A value without parts. -/
  | scalar (value : Scalar)
  /-- An array. -/
  | array
  /-- An object. -/
  | object
deriving DecidableEq

/-- The words for what stands in a place. -/
def Found.message : Found → String
  | .scalar value => value.description
  | .array => "sequence"
  | .object => "map"

/-- Why a text that is no faulty JSON is no case. -/
inductive CaseFault where
  /-- A field is missing. -/
  | missing (field : Field)
  /-- A field stands twice. -/
  | duplicate (field : Field)
  /-- A key is that of no field. -/
  | unknown (key : String)
  /-- The fields in an array are fewer than five. -/
  | length (count : Nat)
  /-- A value of another form is due. -/
  | wrongForm (found : Found) (due : Form)
  /-- The shape is no notation. -/
  | shape (fault : NotationFault)
deriving DecidableEq

/-- The wording of a fault. -/
def CaseFault.message : CaseFault → String
  | .missing field => "missing field " ++ field.quotedKey
  | .duplicate field => "duplicate field " ++ field.quotedKey
  | .unknown key =>
    "unknown field `" ++ key ++ "`, expected one of " ++
      ", ".intercalate (Field.all.map Field.quotedKey)
  | .length count => s!"invalid length {count}, expected struct Case with 5 elements"
  | .wrongForm found due => "invalid type: " ++ found.message ++ ", expected " ++ due.message
  | .shape fault => fault.message

/-- Why a text is no case. -/
abbrev CaseRejection := Rejection CaseFault

/-- Refuse what ends at a place. -/
def refuse {α : Type} (trail : Text.Trail) (reason : CaseFault) (place : Place) :
    Except CaseRejection α :=
  .error ⟨trail, .refused reason, place⟩

/-- Refuse a value because another form is due. An array and an object are refused before their
bracket, any other value behind its end. -/
def refuseForm {α : Type} (due : Form) : Tree → Except CaseRejection α
  | .leaf value after => refuse [] (.wrongForm (.scalar value) due) (.upTo after)
  | .array start _ _ => refuse [] (.wrongForm .array due) (.upTo start)
  | .object start _ _ => refuse [] (.wrongForm .object due) (.upTo start)
  | .broken found => rejectFault [] found

/-- A text. -/
def readText : Tree → Except CaseRejection String
  | .leaf (.string text) _ => .ok text
  | tree => refuseForm .string tree

/-- A text or null. -/
def readOptionalText : Tree → Except CaseRejection (Option String)
  | .leaf .null _ => .ok none
  | tree => (readText tree).map some

/-- Texts, the first of which has an index. -/
def readTextItems (index : Nat) : List Tree → Except CaseRejection (List String)
  | [] => .ok []
  | item :: rest => do
    let text ← (readText item).mapError (·.under (.index index))
    let others ← readTextItems (index + 1) rest
    return text :: others

/-- An array of texts. -/
def readTexts : Tree → Except CaseRejection (List String)
  | .array _ items ending => do
    let texts ← readTextItems 0 items
    Text.endArray texts ending
  | tree => refuseForm .sequence tree

/-- A case some of whose fields were read. -/
structure Draft where
  /-- The name. -/
  name : Option String
  /-- The shape. -/
  shape : Option Shape
  /-- The value. -/
  value : Option Json
  /-- The label of the root, which may be null. -/
  rootLabel : Option (Option String)
  /-- The lines. -/
  expected : Option (List String)

namespace Draft

/-- No field was read. -/
def empty : Draft := ⟨none, none, none, none, none⟩

/-- Whether a field was read. -/
def has (draft : Draft) : Field → Bool
  | .name => draft.name.isSome
  | .shape => draft.shape.isSome
  | .value => draft.value.isSome
  | .rootLabel => draft.rootLabel.isSome
  | .expected => draft.expected.isSome

/-- Read a field. -/
def read (draft : Draft) (tree : Tree) : Field → Except CaseRejection Draft
  | .name => do
    return { draft with name := some (← readText tree) }
  | .shape => do
    let shape ← (tree.interpret Shape.notationReading).mapError (·.map .shape)
    return { draft with shape := some shape }
  | .value => do
    let value ← (tree.interpret documentReading).mapError (·.map Empty.elim)
    return { draft with value := some value }
  | .rootLabel => do
    return { draft with rootLabel := some (← readOptionalText tree) }
  | .expected => do
    return { draft with expected := some (← readTexts tree) }

/-- A field that must have been read. -/
def required {α : Type} (field : Field) (place : Place) : Option α → Except CaseRejection α
  | some value => .ok value
  | none => refuse [] (.missing field) place

/-- The case, once all is read up to a place. -/
def finish (draft : Draft) (place : Place) : Except CaseRejection Case := do
  let name ← required .name place draft.name
  let shape ← required .shape place draft.shape
  let value ← required .value place draft.value
  let expected ← required .expected place draft.expected
  return ⟨name, shape, value, (draft.rootLabel.bind id).getD defaultRootLabel, expected⟩

end Draft

/-! ## Cases in objects -/

/-- The place up to which a text is read when its key is refused: behind the key and the blanks,
and behind the closing brace if that is next. -/
def keyPlace (key : Text.Key) : Place :=
  match skipBlanks key.after with
  | '\x7d' :: rest => .upTo rest
  | rest => .upTo rest

/-- The field of a key, which must be one that was not read yet. -/
def newField (draft : Draft) (key : Text.Key) : Except CaseRejection Field :=
  match Field.ofKey? key.name with
  | none => refuse [.key key.name] (.unknown key.name) (keyPlace key)
  | some field =>
    if draft.has field then refuse [] (.duplicate field) (keyPlace key) else .ok field

/-- Read members in their order. -/
def readFields (draft : Draft) : List (Text.Key × Tree) → Except CaseRejection Draft
  | [] => .ok draft
  | (key, tree) :: rest => do
    let field ← newField draft key
    let draft ← (draft.read tree field).mapError (·.under (.key key.name))
    readFields draft rest

/-- The case at the end of an object. -/
def finishObject (draft : Draft) : Text.ObjectEnd → Except CaseRejection Case
  | .closed after => draft.finish (.upTo after)
  | .broken found => rejectFault [.unknown] found
  | .colonMissing key found => do
    let _ ← newField draft key
    rejectFault [] found

/-! ## Cases in arrays -/

/-- Read elements in the order of the fields, the first one having an index. -/
def readElements (draft : Draft) (index : Nat) :
    List Field → List Tree → Except CaseRejection Draft
  | field :: fields, tree :: rest => do
    let draft ← (draft.read tree field).mapError (·.under (.index index))
    readElements draft (index + 1) fields rest
  | _, _ => .ok draft

/-- The count that a message gives for too few elements. The label of the root is not missed, so
the lines are the fifth element even if the label's is the last one there. -/
def missedLength (count : Nat) : Nat :=
  if count < 3 then count else 4

/-- The end of an array of five elements, behind the fifth. -/
def closeArray (rest : List Char) : Except CaseRejection (List Char) :=
  match skipBlanks rest with
  | [] => rejectFault [] ⟨.endOfList, .ending⟩
  | ']' :: after => .ok after
  | ',' :: rest =>
    match skipBlanks rest with
    | ']' :: rest => rejectFault [] ⟨.trailingComma, .firstOf (']' :: rest)⟩
    | rest => rejectFault [] ⟨.trailingCharacters, .firstOf rest⟩
  | rest => rejectFault [] ⟨.trailingCharacters, .firstOf rest⟩

/-- The case at the end of an array. -/
def finishArray (draft : Draft) (items : List Tree) (ending : Except Text.FaultAt (List Char)) :
    Except CaseRejection Case := do
  match items[4]? with
  | some last =>
    match last.outcome with
    | .ok rest => draft.finish (.upTo (← closeArray rest))
    | .error found => rejectFault [] found
  | none =>
    match ending with
    | .ok after => refuse [] (.length (missedLength items.length)) (.upTo after)
    | .error found => rejectFault [] found

namespace Case

/-- The case of a tree. -/
def ofTree : Tree → Except CaseRejection Case
  | .object _ members ending => do
    let draft ← readFields .empty members
    finishObject draft ending
  | .array _ items ending => do
    let draft ← readElements .empty 0 Field.all items
    finishArray draft items ending
  | tree => refuseForm .case tree

/-- The case that a text starts with. -/
def ofText (text : List Char) : Except CaseRejection Case :=
  ofTree (Tree.ofText text)

/-- The lines that report the value of a case. -/
def reported (case : Case) : List String :=
  case.shape.report case.rootLabel case.value

end Case

/-- The wording of a cause. -/
def causeMessage : Text.Cause CaseFault → String
  | .fault fault => fault.message
  | .refused reason => reason.message

/-- The wording of a rejection, with its position in a text. -/
def rejectionMessage (text : List Char) (rejection : CaseRejection) : String :=
  "at JSON path " ++ rejection.trail.text ++ " → " ++ causeMessage rejection.cause ++
    (rejection.place.position text).message

end JsonShape.Fixture
