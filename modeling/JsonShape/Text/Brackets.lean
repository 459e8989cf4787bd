import JsonShape.Text.Quoted

/-!
# Bracketed lists

Items stand between brackets, separated by commas. The compact style adds nothing; the pretty
style puts each item on a line of its own, two blanks deeper than its bracket. Without items the
brackets touch in both styles.
-/
namespace JsonShape.Text

/-- The blanks that a written value may contain between its tokens. -/
structure Style where
  /-- What stands before an item, or before a closing bracket, at a nesting depth. -/
  lineBreak : Nat → List Char
  /-- What stands between a key and its value. -/
  colon : List Char

namespace Style

/-- Nothing between the tokens. -/
def compact : Style := ⟨fun _ => [], [':']⟩

/-- One item a line, indented by two blanks a level. -/
def pretty : Style := ⟨fun depth => '\n' :: List.replicate (2 * depth) ' ', [':', ' ']⟩

end Style

/-- Items separated by commas, each at its line break. -/
def separated (lineBreak : List Char) : List (List Char) → List Char
  | [] => []
  | [item] => lineBreak ++ item
  | item :: rest => lineBreak ++ item ++ ',' :: separated lineBreak rest

/-- Items between two brackets that stand at a nesting depth. -/
def bracketed (style : Style) (depth : Nat) (opening closing : Char) (items : List (List Char)) :
    List Char :=
  match items with
  | [] => [opening, closing]
  | items =>
    opening :: (separated (style.lineBreak (depth + 1)) items ++
      style.lineBreak depth ++ [closing])

/-- A key with the text of its value. -/
def keyed (style : Style) (key : String) (value : List Char) : List Char :=
  quoted key.toList ++ style.colon ++ value

end JsonShape.Text
