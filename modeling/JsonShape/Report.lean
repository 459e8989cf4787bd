import JsonShape.Validation

/-!
# Reports

A report of a checked value has one line for each failure: a label for the root, then the line
of the failure. The console can mark its lines and paint them.
-/
namespace JsonShape

/-- The label of the root when none is given. -/
def defaultRootLabel : String := "object"

/-- The line that reports a failure. -/
def Failure.diagnostic (rootLabel : String) (failure : Failure) : String :=
  rootLabel ++ failure.text

/-- The lines that report a value, in the order of its failures. -/
def Shape.report (shape : Shape) (rootLabel : String) (value : Json) : List String :=
  (shape.validate value).map (Failure.diagnostic rootLabel)

namespace Console

/-- The code that switches every style off. -/
def reset : String := "\x1b[0m"

/-- The code that switches a style on. -/
def styled (code : String) : String := "\x1b[" ++ code ++ "m"

/-- A text between the codes that switch a style on and off. -/
def painted (code text : String) : String :=
  styled code ++ text ++ reset

/-- A text in which a style goes on wherever the text itself switches every style off. -/
def resumed (style : List Char) : List Char → List Char
  | '\x1b' :: '[' :: '0' :: 'm' :: rest => reset.toList ++ style ++ resumed style rest
  | c :: rest => c :: resumed style rest
  | [] => []

/-- Paint a text if painting is on. -/
def paint (painting : Bool) (code text : String) : String :=
  if painting then painted code (String.ofList (resumed (styled code).toList text.toList))
  else text

/-- How the console shows reported lines. -/
structure Settings where
  /-- Whether each line is marked by a cross. -/
  marked : Bool
  /-- Whether the cross and the line are painted. -/
  painting : Bool

/-- A reported line on the console. -/
def line (settings : Settings) (text : String) : String :=
  if settings.marked then
    paint settings.painting "1;31" "✗" ++ " " ++ paint settings.painting "33" text
  else text

/-- What the console shows for reported lines, each with a line break behind it. -/
def printed (settings : Settings) (lines : List String) : String :=
  String.join (lines.map fun text => line settings text ++ "\n")

end Console

end JsonShape
