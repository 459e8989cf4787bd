/-!
# Paths inside a checked value

A path leads from the root of a checked value to a part of it. Its text is that of its segments
one after the other; names are not escaped.
-/
namespace JsonShape

/-- One step into a value. -/
inductive Segment where
  /-- Into a field. -/
  | field (name : String)
  /-- Into an element. -/
  | index (position : Nat)
deriving DecidableEq

/-- The text of a segment. -/
def Segment.text : Segment → String
  | .field name => "." ++ name
  | .index position => "[" ++ String.ofList (Nat.toDigits 10 position) ++ "]"

/-- Segments from the root to a part. -/
abbrev Path := List Segment

/-- The text of a path. -/
def Path.text : Path → String
  | [] => ""
  | segment :: rest => segment.text ++ Path.text rest

end JsonShape
