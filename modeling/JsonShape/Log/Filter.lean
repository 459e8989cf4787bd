import JsonShape.Log
import JsonShape.Text.Literal
import JsonShape.Text.Parts
import JsonShape.Unicode.Alphanumeric
import JsonShape.Unicode.WhiteSpace

/-!
# Log filters

A filter is a list of directives, each of which admits entries up to a level: of all targets or of
those that start with a text, and of all entries or of those that have a value of a name. Of the
directives that concern an entry the one with the longest target decides, then one with a name
before one without, then the greatest name, and of equals the later one. Directives for spans
concern no entry of this log.
-/
namespace JsonShape.Log

/-- Whether an entry has a value of a name; the message is one of its values. -/
def Entry.hasValue (entry : Entry) (name : String) : Bool :=
  name = "message" || entry.values.any fun value => value.1 = name

/-- Up to which level which entries are admitted. -/
structure Directive where
  /-- The start of the targets. -/
  target : String
  /-- The name of a value that the entries have. -/
  value : Option String
  /-- The rank of the last admitted level, zero for none. -/
  admitted : Nat
deriving DecidableEq

/-- Whether a directive concerns an entry. -/
def Directive.concerns (directive : Directive) (entry : Entry) : Bool :=
  entry.target.startsWith directive.target && directive.value.all entry.hasValue

/-- Whether a directive is less specific than another one. -/
def Directive.lessSpecific (directive other : Directive) : Bool :=
  if directive.target.utf8ByteSize = other.target.utf8ByteSize then
    match directive.value, other.value with
    | some name, some otherName => name < otherName
    | none, some _ => true
    | _, none => false
  else directive.target.utf8ByteSize < other.target.utf8ByteSize

/-- Directives in the order in which they are given. -/
abbrev Filter := List Directive

namespace Filter

/-- The admitted rank of every level. -/
def everything : Nat := Level.trace.rank

/-- Everything up to a level. -/
def upTo (level : Level) : Filter := [⟨"", none, level.rank⟩]

/-- The more specific of two directives for an entry, the later one of equals. -/
def moreSpecific (best : Option Directive) (directive : Directive) : Option Directive :=
  match best with
  | some other => if directive.lessSpecific other then some other else some directive
  | none => some directive

/-- The directive that decides on an entry. -/
def deciding? (filter : Filter) (entry : Entry) : Option Directive :=
  (filter.filter (·.concerns entry)).foldl moreSpecific none

/-- Whether an entry is admitted. -/
def admits (filter : Filter) (entry : Entry) : Bool :=
  match filter.deciding? entry with
  | some directive => entry.level.rank ≤ directive.admitted
  | none => false

/-- The names of the levels, and the name for none, with the ranks that they admit. -/
def levelNames : List (String × Nat) :=
  [("off", 0), ("error", 1), ("warn", 2), ("info", 3), ("debug", 4), ("trace", 5)]

/-- The rank that a text names: by a level's name, whose case does not matter, or by its
digits. -/
def rank? (text : List Char) : Option Nat :=
  let digits := if text.head? = some '+' then text.drop 1 else text
  if !digits.isEmpty && digits.all Text.isDigit then
    let value := Text.digitsValue digits
    if value ≤ everything then some value else none
  else Fields.get? (String.ofList (text.map Char.toLower)) levelNames

/-- What a directive says of entries: a directive, or nothing when it concerns no entry of this
log. -/
abbrev Reading := Option Directive

/-- The rank behind an equals sign, everything if it is missing. -/
def rankOrAll? (text : List Char) : Option Nat :=
  if text.isEmpty then some everything else rank? text

/-- The directive for a target and what is asked of values, due behind both. Only blanks or an
equals sign and a level may follow; the level is read by `level?`. -/
def readLevel? (level? : List Char → Option Nat) (target : List Char)
    (value : Option (Option String)) : List Char → Option Reading
  | '=' :: level =>
    (level? level).map fun rank => value.map fun value => ⟨String.ofList target, value, rank⟩
  | rest =>
    if rest.all Unicode.isWhiteSpace then
      some (value.map fun value => ⟨String.ofList target, value, everything⟩)
    else none

/-- The name of a value in braces, which is not empty; none if the value itself is asked for too,
which only spans tell. -/
def valueName? (text : List Char) : Option String :=
  if text.contains '=' then none else some (String.ofList text)

/-- The directive for a target with a span, behind the opening bracket: the name of the span, and
in braces that of a value. Without the name of a span the value is asked of entries. -/
def readSpan? (level? : List Char → Option Nat) (target text : List Char) : Option Reading :=
  let span := text.takeWhile fun c => c ≠ ']' && c ≠ '\x7b'
  match text.dropWhile fun c => c ≠ ']' && c ≠ '\x7b' with
  | ']' :: rest => readLevel? level? target none rest
  | '\x7b' :: rest =>
    let value := rest.takeWhile (· ≠ '\x7d')
    if value.isEmpty then none
    else
      match rest.dropWhile (· ≠ '\x7d') with
      | '\x7d' :: ']' :: rest =>
        let name := if span.isEmpty then valueName? value else none
        readLevel? level? target (name.map some) rest
      | _ => none
  | _ => none

/-- Whether a directive may start with a character. -/
def startsDirective (c : Char) : Bool :=
  Unicode.isAlphanumeric c || c = '-' || c = ':' || c = '_'

/-- Whether a character ends a target. -/
def endsTarget (c : Char) : Bool := c = '=' || c = '['

/-- The directive of a text that starts with no blank: a level, a target, or a target, an equals
sign and a level. A bracketed span may stand in place of the target or behind it. The level behind
an equals sign is read by `level?`. -/
def readDirective? (level? : List Char → Option Nat) (text : List Char) : Option Reading :=
  let target := text.takeWhile fun c => !endsTarget c
  match text.head?, text.dropWhile fun c => !endsTarget c with
  | none, _ => none
  | some '[', _ => readSpan? level? [] (text.drop 1)
  | some first, rest =>
    if !startsDirective first then none
    else
      match rest with
      | [] =>
        match rank? target with
        | some rank => some (some ⟨"", none, rank⟩)
        | none => some (some ⟨String.ofList target, none, everything⟩)
      | '=' :: level => readLevel? level? target (some none) ('=' :: level)
      | _ :: span => readSpan? level? target span

/-- The directive of a text. Blanks before it belong to its target and its names, which no entry
then has, and no level behind them is understood. -/
def readPaddedDirective? (text : List Char) : Option Reading :=
  let inner := text.dropWhile Unicode.isWhiteSpace
  if inner.length = text.length then readDirective? rankOrAll? text
  else (readDirective? (fun _ => none) inner).map fun _ => none

/-- The filter of a text, its directives between commas. -/
def ofText? (text : String) : Option Filter := do
  let written := (Text.parts ',' text.toList).filter (!·.isEmpty)
  let directives ← written.mapM readPaddedDirective?
  return directives.filterMap id

end Filter

end JsonShape.Log
