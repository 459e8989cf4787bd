import JsonShape.Report
import JsonShape.Text.Shown

/-!
# Log entries

An entry has a level, the target that it comes from, a message and named values. It is written as
a line: the level, flush right, the target if it is asked for, the message and the values. No
character of a message can steer the terminal that shows the log.
-/
namespace JsonShape

namespace Log

/-- How grave an entry is. -/
inductive Level where
  /-- Something failed. -/
  | error
  /-- Something deserves attention. -/
  | warn
  /-- A result. -/
  | info
  /-- A step on the way to a result. -/
  | debug
  /-- A detail. -/
  | trace
deriving DecidableEq

namespace Level

/-- The place of a level from the gravest on; nothing is graver than one. -/
def rank : Level → Nat
  | .error => 1
  | .warn => 2
  | .info => 3
  | .debug => 4
  | .trace => 5

/-- The name of a level, flush right in five columns. -/
def column : Level → String
  | .error => "ERROR"
  | .warn => " WARN"
  | .info => " INFO"
  | .debug => "DEBUG"
  | .trace => "TRACE"

/-- The code of the colour of a level. -/
def colour : Level → String
  | .error => "31"
  | .warn => "33"
  | .info => "32"
  | .debug => "34"
  | .trace => "35"

end Level

/-- An entry of a log. -/
structure Entry where
  /-- How grave it is. -/
  level : Level
  /-- Where it comes from. -/
  target : String
  /-- What it says. -/
  message : String
  /-- Names and values. -/
  values : List (String × String)

/-- How entries are written. -/
structure Style where
  /-- Whether levels, targets and names are painted. -/
  painting : Bool
  /-- Whether targets are written. -/
  targets : Bool

/-- Levels, messages and values alone. -/
def Style.plain : Style := ⟨false, false⟩

/-- A character of a message as it is logged. A control character that a terminal takes as a
command, or as the start of one, is written as its code point. -/
def messageChar (c : Char) : List Char :=
  if c = '\x07' || c = '\x08' || c = '\x0c' || c = '\x1b' || c = '\x7f' then
    ['\\', 'x', Text.hexDigit (c.toNat / 16), Text.hexDigit (c.toNat % 16)]
  else if 0x80 ≤ c.toNat && c.toNat < 0xa0 then Text.codePointEscape c
  else [c]

/-- A message as it is logged. -/
def messageText (message : String) : String :=
  String.ofList (message.toList.flatMap messageChar)

/-- The target of what concerns the library as a whole. -/
def rootTarget : String := "json_shapecheck"

namespace Entry

/-- Paint a part of an entry if painting is on. -/
def paint (style : Style) (code text : String) : String :=
  if style.painting then Console.painted code text else text

/-- The target of an entry before its message. -/
def targetText (style : Style) (entry : Entry) : String :=
  if style.targets then
    paint style "2" entry.target ++ paint style "2" ":" ++ " "
  else ""

/-- A value of an entry behind its message. -/
def valueText (style : Style) (value : String × String) : String :=
  " " ++ paint style "3" value.1 ++ paint style "2" "=" ++ value.2

/-- The line of an entry. -/
def line (style : Style) (entry : Entry) : String :=
  paint style entry.level.colour entry.level.column ++ " " ++
    entry.targetText style ++ messageText entry.message ++
      String.join (entry.values.map (valueText style))

end Entry

/-- The entry that warns of a failure. -/
def warning (text : String) : Entry := ⟨.warn, rootTarget, text, []⟩

end Log

/-- The log entries that report a value, in the order of its failures. -/
def Shape.warnings (shape : Shape) (rootLabel : String) (value : Json) : List Log.Entry :=
  (shape.report rootLabel value).map Log.warning

end JsonShape
