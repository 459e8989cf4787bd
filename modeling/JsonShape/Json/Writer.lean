import JsonShape.Json
import JsonShape.Text.Brackets
import JsonShape.Text.Quoted

/-!
# Writing JSON

Values are written compactly or prettily, members and elements in their order.
-/
namespace JsonShape

open Text (Style)

/-- The text of a value without parts. -/
def Scalar.text : Scalar → List Char
  | .null => ['n', 'u', 'l', 'l']
  | .bool true => ['t', 'r', 'u', 'e']
  | .bool false => ['f', 'a', 'l', 's', 'e']
  | .number value => value.text
  | .string value => Text.quoted value.toList

namespace Json

mutual

/-- The text of a value that stands at a nesting depth. -/
def text (style : Style) (depth : Nat) : Json → List Char
  | .scalar value => value.text
  | .array items => Text.bracketed style depth '[' ']' (itemTexts style (depth + 1) items)
  | .object members =>
    Text.bracketed style depth '\x7b' '\x7d' (memberTexts style (depth + 1) members)

/-- The texts of elements that stand at a nesting depth. -/
def itemTexts (style : Style) (depth : Nat) : List Json → List (List Char)
  | [] => []
  | item :: rest => text style depth item :: itemTexts style depth rest

/-- The texts of members that stand at a nesting depth. -/
def memberTexts (style : Style) (depth : Nat) : List (String × Json) → List (List Char)
  | [] => []
  | (key, value) :: rest =>
    Text.keyed style key (text style depth value) :: memberTexts style depth rest

end

/-- The text without blanks. -/
def compact (value : Json) : String :=
  String.ofList (value.text .compact 0)

/-- The text with one item a line. -/
def pretty (value : Json) : String :=
  String.ofList (value.text .pretty 0)

end Json

/-- A slot in a message: the compact text of its value, or the word for nothing. -/
def Slot.render : Slot → String
  | none => "undefined"
  | some value => value.compact

end JsonShape
