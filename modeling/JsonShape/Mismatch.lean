import JsonShape.Kind
import JsonShape.Path
import JsonShape.Unicode.WhiteSpace

/-!
# Mismatches

A mismatch says how a part differs from its shape, and a failure at which path. A union fails as
a whole: its mismatch holds the failures of all alternatives with paths relative to the union,
and is worded as their lines joined. A path and a mismatch stand side by side, with a blank
between them unless the mismatch brings its own first blank or path.
-/
namespace JsonShape

/-- Something at a path. -/
structure AtPath (α : Type) where
  /-- The path from the root. -/
  path : Path
  /-- What is there. -/
  what : α

/-- How a slot differs from its shape; `found` is the slot as it is shown. -/
inductive Mismatch where
  /-- An array is due. -/
  | notArray (found : String)
  /-- An object is due. -/
  | notObject (found : String)
  /-- Null or nothing is due. -/
  | notNull (found : String)
  /-- A slot of a kind is due. -/
  | notOfKind (expected : Kind) (found : String)
  /-- One of several shapes is due and every one fails. -/
  | noAlternative (failures : List (AtPath Mismatch))

/-- A mismatch at a path. -/
abbrev Failure := AtPath Mismatch

/-- The same failure, seen from one segment further out. -/
def Failure.under (segment : Segment) (failure : Failure) : Failure :=
  { failure with path := segment :: failure.path }

/-- What joins the lines of the alternatives of a union. -/
def alternativeJoiner : String := " and"

/-- What stands between a path and a mismatch. -/
def Mismatch.separator : Mismatch → String
  | .noAlternative _ => ""
  | _ => " "

mutual

/-- The text of a mismatch alone. -/
def Mismatch.text : Mismatch → String
  | .notArray found => "is not an array: " ++ found
  | .notObject found => "is not an object: " ++ found
  | .notNull found => "is not null: " ++ found
  | .notOfKind expected found => "is not a " ++ expected.name ++ ": " ++ found
  | .noAlternative failures => joinedText failures

/-- The lines of failures, joined. -/
def joinedText : List (AtPath Mismatch) → String
  | [] => ""
  | ⟨path, mismatch⟩ :: rest =>
    path.text ++ mismatch.separator ++ mismatch.text ++ moreText rest

/-- The lines of further failures, each behind the joiner. -/
def moreText : List (AtPath Mismatch) → String
  | [] => ""
  | ⟨path, mismatch⟩ :: rest =>
    alternativeJoiner ++ path.text ++ mismatch.separator ++ mismatch.text ++ moreText rest

end

/-- The line of a failure: its path, then its mismatch. -/
def Failure.text (failure : Failure) : String :=
  failure.path.text ++ failure.what.separator ++ failure.what.text

/-- The message of a failure, without its path and without leading white space. -/
def Failure.message (failure : Failure) : String :=
  match failure.what with
  | .noAlternative failures =>
    String.ofList ((joinedText failures).toList.dropWhile Unicode.isWhiteSpace)
  | mismatch => mismatch.text

end JsonShape
