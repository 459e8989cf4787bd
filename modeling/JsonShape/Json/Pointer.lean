import JsonShape.Json
import JsonShape.Text.Literal
import JsonShape.Text.Parts

/-!
# Pointers into documents

A pointer is a text of reference tokens, each behind a slash. A token names a member of an object
or, by its decimal digits without leading zeros, an element of an array. Inside a token `~1`
stands for a slash and `~0` for a tilde; a tilde before anything else stands for itself. The
empty pointer selects the whole document.
-/
namespace JsonShape

namespace Pointer

/-- A token without its escapes. -/
def unescaped : List Char → List Char
  | '~' :: '1' :: rest => '/' :: unescaped rest
  | '~' :: '0' :: rest => '~' :: unescaped rest
  | c :: rest => c :: unescaped rest
  | [] => []

/-- The tokens of a pointer, none when its text starts with no slash. -/
def tokens? : List Char → Option (List String)
  | [] => some []
  | '/' :: rest => some ((Text.parts '/' rest).map fun token => String.ofList (unescaped token))
  | _ => none

/-- The index that a token writes: a zero, or digits that start with no zero. -/
def index? (token : String) : Option Nat :=
  match token.toList with
  | [] => none
  | ['0'] => some 0
  | '0' :: _ => none
  | digits => if digits.all Text.isDigit then some (Text.digitsValue digits) else none

/-- The part of a value that a token names. -/
def step? (token : String) : Json → Option Json
  | .object members => Fields.get? token members
  | .array items => do
    let index ← index? token
    items[index]?
  | .scalar _ => none

/-- The part of a value that tokens lead to. -/
def follow? : List String → Json → Option Json
  | [], value => some value
  | token :: rest, value => step? token value >>= follow? rest

end Pointer

/-- The part of a document that a pointer selects. -/
def Json.at? (pointer : String) (document : Json) : Option Json := do
  let tokens ← Pointer.tokens? pointer.toList
  Pointer.follow? tokens document

end JsonShape
