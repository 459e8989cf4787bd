/-!
# Trails into a text

A trail leads from the root of a read value to a part of it. Its text has a point before every
key but a first one; the empty trail is a single point. Where the key of a member could not be
read, the trail ends in a question mark.
-/
namespace JsonShape.Text

/-- One step of a trail. -/
inductive Step where
  /-- Into the member of a key. -/
  | key (name : String)
  /-- Into the element of an index. -/
  | index (position : Nat)
  /-- Into a member whose key is unknown. -/
  | unknown
deriving DecidableEq

/-- Steps from the root. -/
abbrev Trail := List Step

namespace Step

/-- The text of a step behind the start of a trail. -/
def text : Step → String
  | .key name => "." ++ name
  | .index position => s!"[{position}]"
  | .unknown => ".?"

/-- The text of a first step. -/
def firstText : Step → String
  | .key name => name
  | .index position => s!"[{position}]"
  | .unknown => "?"

end Step

/-- The text of a trail. -/
def Trail.text : Trail → String
  | [] => "."
  | first :: rest => rest.foldl (fun text step => text ++ step.text) first.firstText

end JsonShape.Text
