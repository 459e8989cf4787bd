/-!
# Parts of a text

A text is cut at every occurrence of a separator, and parts are put together with the separator
between them. Putting the parts of a text together gives the text back. A text is cut into lines
at its line breaks.
-/
namespace JsonShape.Text

/-- The parts of a text between its separators, one more than there are separators. -/
def parts (separator : Char) : List Char → List (List Char)
  | [] => [[]]
  | c :: rest =>
    if c = separator then [] :: parts separator rest
    else
      match parts separator rest with
      | [] => [[c]]
      | part :: others => (c :: part) :: others

/-- Parts put together with a separator between them. -/
def joined (separator : Char) : List (List Char) → List Char
  | [] => []
  | [part] => part
  | part :: rest => part ++ separator :: joined separator rest

/-- A text has at least one part. -/
theorem parts_ne_nil (separator : Char) (text : List Char) : parts separator text ≠ [] := by
  cases text with
  | nil => simp [parts]
  | cons c rest =>
    simp only [parts]
    split
    · simp
    · split <;> simp

/-- The parts of a text make up the text. -/
theorem joined_parts (separator : Char) (text : List Char) :
    joined separator (parts separator text) = text := by
  induction text with
  | nil => simp [parts, joined]
  | cons c rest ih =>
    simp only [parts]
    cases found : parts separator rest with
    | nil => exact absurd found (parts_ne_nil separator rest)
    | cons part others =>
      rw [found] at ih
      split
      · next same => simp [joined, ih, same]
      · cases others with
        | nil => simp_all [joined]
        | cons other others => simp_all [joined]

/-- The parts of a string. -/
def stringParts (separator : Char) (text : String) : List String :=
  (parts separator text.toList).map String.ofList

/-- A line without the carriage return that belongs to its line break. -/
def withoutReturn (line : List Char) : List Char :=
  if line.getLast? = some '\r' then line.dropLast else line

/-- The lines of parts between line breaks. What follows the last line break is a line only if it
is not empty, and a carriage return at its end belongs to no line break. -/
def linesOfParts : List (List Char) → List (List Char)
  | [] => []
  | [last] => if last.isEmpty then [] else [last]
  | line :: rest => withoutReturn line :: linesOfParts rest

/-- The lines of a text. A line break is a line feed, with or without a carriage return. -/
def lines (text : List Char) : List (List Char) :=
  linesOfParts (parts '\n' text)

end JsonShape.Text
