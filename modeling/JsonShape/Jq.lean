import JsonShape.Jq.Evaluation
import JsonShape.Jq.Grammar

/-!
# Filtering documents with jq

A filter text is applied to a document by a library of filters: the text compiles to a filter or is
refused, and a filter gives outputs and thrown values for the document as a value. Every output is
written and read again as a document; one that is no document, or any thrown value, loses all
outputs. The interpreter of this project is one such library.
-/
namespace JsonShape.Jq

/-- Why a library refuses a text as a filter. -/
inductive Refusal where
  /-- The text is no filter. -/
  | parse
  /-- A function or a variable is unknown. -/
  | undefined

/-- The wording of a refusal. -/
def Refusal.message : Refusal → String
  | .parse => "jq parse error"
  | .undefined => "jq undefined"

/-- A library of filters. -/
structure Library where
  /-- The filter that a text writes, as what it gives for a value, or why it writes none. -/
  compile : String → Except Refusal (Value → Outcomes)

/-- Why a filter gives no documents. -/
inductive FilterError where
  /-- There is no filter. -/
  | refused (refusal : Refusal)
  /-- The filter threw a value. -/
  | runtime (thrown : Value)
  /-- An output, counted from zero, is no document. -/
  | output (position : Nat) (error : Text.ReadError)

/-- The wording of an error, followed by that of its cause. -/
def FilterError.messages : FilterError → List String
  | .refused refusal => [refusal.message]
  | .runtime _ => ["jq runtime error"]
  | .output position error => [s!"jq output #{position} is not valid JSON", error.message]

/-- Outputs as documents, the first of which has a position; the first failure wins. -/
def documents (position : Nat) : Outcomes → Except FilterError (List Json)
  | [] => .ok []
  | .error thrown :: _ => .error (.runtime thrown)
  | .ok value :: rest => do
    let document ← (Json.ofText value.text).mapError (.output position)
    let others ← documents (position + 1) rest
    return document :: others

/-- The documents that the filter of a text makes of a document. -/
def Library.run (library : Library) (text : String) (input : Json) :
    Except FilterError (List Json) := do
  let filter ← (library.compile text).mapError .refused
  documents 0 (filter (.ofJson input))

/-- The filter of a text, all of whose names are known. -/
def compile (text : String) : Except Refusal Filter :=
  match Filter.ofText? text.toList with
  | none => .error .parse
  | some filter => if filter.resolves [] then .ok filter else .error .undefined

/-- The filters that this project can run itself. -/
def interpreter : Library where
  compile text := (compile text).map fun filter => filter.run []

/-- The documents that the interpreter makes of a document. -/
def run (text : String) (input : Json) : Except FilterError (List Json) :=
  interpreter.run text input

end JsonShape.Jq
