import JsonShape.Jq.Filter
import JsonShape.Jq.Token

/-!
# The grammar of jq filters

A filter text is read as terms joined by operators of ten precedences. Pipes and bindings bind
loosest and to the right, all others to the left; in an object a comma ends a value. Readers
take the tokens from where their part starts and return the tokens behind it.
-/
namespace JsonShape.Jq

/-- Operators between terms. -/
inductive Operator where
  /-- The second filter on the outputs of the first. -/
  | pipe
  /-- The second filter with a variable for every output of the first. -/
  | bind (name : String)
  /-- Both filters. -/
  | comma
  /-- An alternative. -/
  | fallback
  /-- One of two conditions. -/
  | oneOf
  /-- Both conditions. -/
  | both
  /-- A comparison. -/
  | comparison (op : Comparison)
  /-- Arithmetic. -/
  | arithmetic (op : Arithmetic)

namespace Operator

/-- Operators of greater precedence bind tighter. -/
def precedence : Operator → Nat
  | .pipe => 0
  | .bind _ => 0
  | .comma => 1
  | .fallback => 3
  | .oneOf => 4
  | .both => 5
  | .comparison .eq => 6
  | .comparison .ne => 6
  | .comparison _ => 7
  | .arithmetic .add => 8
  | .arithmetic .sub => 8
  | .arithmetic .mul => 9
  | .arithmetic .div => 9
  | .arithmetic .rem => 10

/-- The least precedence of an operator inside the right operand. -/
def rightLevel (op : Operator) : Nat :=
  if op.precedence = 0 then 0 else op.precedence + 1

/-- An operator on two filters. -/
def join (first second : Filter) : Operator → Filter
  | .pipe => .pipe first second
  | .bind name => .bind first name second
  | .comma => .comma first second
  | .fallback => .fallback first second
  | .oneOf => .oneOf first second
  | .both => .both first second
  | .comparison op => .comparison op first second
  | .arithmetic op => .arithmetic op first second

/-- The operators that are symbols. -/
def symbols : List (String × Operator) :=
  [("|", .pipe), ("//", .fallback), ("==", .comparison .eq), ("!=", .comparison .ne),
    ("<", .comparison .lt), ("<=", .comparison .le), (">", .comparison .gt),
    (">=", .comparison .ge), ("+", .arithmetic .add), ("-", .arithmetic .sub),
    ("*", .arithmetic .mul), ("/", .arithmetic .div), ("%", .arithmetic .rem)]

/-- The operator that tokens start with; a comma is one only if `commas` says so. -/
def read? (commas : Bool) : List Token → Option (Operator × List Token)
  | .word "and" :: rest => some (.both, rest)
  | .word "or" :: rest => some (.oneOf, rest)
  | .word "as" :: .variableName name :: .symbol "|" :: rest => some (.bind name, rest)
  | .symbol "," :: rest => if commas then some (.comma, rest) else none
  | .symbol text :: rest => (symbols.lookup text).map fun op => (op, rest)
  | _ => none

/-- Join a filter with the operands behind it whose operators have at least a precedence; at
most `fuel` of them. The operands that are left come back too. -/
def climb : Nat → Filter → List (Operator × Filter) → Nat → Filter × List (Operator × Filter)
  | 0, left, operands, _ => (left, operands)
  | _ + 1, left, [], _ => (left, [])
  | fuel + 1, left, (op, right) :: rest, level =>
    if op.precedence < level then (left, (op, right) :: rest)
    else
      let (right, rest) := climb fuel right rest op.rightLevel
      climb fuel (op.join left right) rest level

end Operator

namespace Filter

/-- Words that start other constructs than calls. -/
def reserved : List String := ["foreach", "label", "def"]

/-- Words that start a declaration at the beginning of a text. -/
def declarations : List String := ["module", "import", "include"]

/-- No output. -/
def nothing : Filter := .call "empty" []

/-- The part of the input under a name. -/
def fieldOf (name : String) : Filter :=
  .path .identity [.index (.literal (.string name)) false]

/-- A number as it is written: an integer if 64 bits with sign hold it. -/
def ofNumber (text : List Char) : Filter :=
  .literal <|
    if text.all Text.isDigit ∧ Text.digitsValue text < 0x8000000000000000 then
      .integer (Text.digitsValue text)
    else .decimal text

/-- A filter whose thrown values are dropped if question marks follow. -/
def attempted (source : Filter) : List Token → Filter × List Token
  | .symbol "?" :: rest => (attempt source nothing).attempted rest
  | rest => (source, rest)

/-- A filter with the steps of a path, if there are any. -/
def withParts (source : Filter) (parts : List (PathPart Filter)) : Filter :=
  if parts.isEmpty then source else .path source parts

/-- The same step, dropping what fails. -/
def optionalPart : PathPart Filter → PathPart Filter
  | .index part _ => .index part true
  | .slice first last _ => .slice first last true
  | .each _ => .each true

mutual

/-- Terms joined by operators. -/
def readFilter (fuel : Nat) (commas : Bool) (tokens : List Token) :
    Option (Filter × List Token) :=
  match fuel with
  | 0 => none
  | fuel + 1 => do
    let (head, rest) ← readTerm fuel tokens
    let (operands, rest) ← readOperands fuel commas rest
    return ((Operator.climb (operands.length + 1) head operands 0).1, rest)

/-- Operators, each with the term behind it. -/
def readOperands (fuel : Nat) (commas : Bool) (tokens : List Token) :
    Option (List (Operator × Filter) × List Token) :=
  match fuel with
  | 0 => none
  | fuel + 1 =>
    match Operator.read? commas tokens with
    | none => some ([], tokens)
    | some (op, rest) => do
      let (term, rest) ← readTerm fuel rest
      let (others, rest) ← readOperands fuel commas rest
      return ((op, term) :: others, rest)

/-- A term with the steps behind it. -/
def readTerm (fuel : Nat) (tokens : List Token) : Option (Filter × List Token) :=
  match fuel with
  | 0 => none
  | fuel + 1 => do
    let (source, rest) ← readAtom fuel tokens
    let (source, rest) := source.attempted rest
    let (parts, rest) ← readParts fuel rest
    return (source.withParts parts, rest)

/-- A term without steps behind it. -/
def readAtom (fuel : Nat) (tokens : List Token) : Option (Filter × List Token) :=
  match fuel with
  | 0 => none
  | fuel + 1 =>
    match tokens with
    | .symbol "." :: .string name :: rest => do
      let (parts, rest) ← readStep fuel (.index (.literal (.string name)) false) rest
      return (.path .identity parts, rest)
    | .symbol "." :: rest => some (.identity, rest)
    | .symbol ".." :: rest => some (.descendants, rest)
    | .field name :: rest => do
      let (parts, rest) ← readStep fuel (.index (.literal (.string name)) false) rest
      return (.path .identity parts, rest)
    | .number text :: rest => some (ofNumber text, rest)
    | .string text :: rest => some (.literal (.string text), rest)
    | .variableName name :: rest => some (.variableRef name, rest)
    | .symbol "-" :: rest => do
      let (body, rest) ← readTerm fuel rest
      return (.negate body, rest)
    | .symbol "(" :: rest => do
      let (body, rest) ← readFilter fuel true rest
      match rest with
      | .symbol ")" :: rest => some (body, rest)
      | _ => none
    | .symbol "[" :: .symbol "]" :: rest => some (.literal (.array []), rest)
    | .symbol "[" :: rest => do
      let (body, rest) ← readFilter fuel true rest
      match rest with
      | .symbol "]" :: rest => some (.collect body, rest)
      | _ => none
    | .symbol "\x7b" :: .symbol "\x7d" :: rest => some (.literal (.object []), rest)
    | .symbol "\x7b" :: rest => do
      let (fields, rest) ← readFields fuel rest
      return (.construct fields, rest)
    | .word "if" :: rest => readCondition fuel rest
    | .word "try" :: rest => do
      let (body, rest) ← readTerm fuel rest
      match rest with
      | .word "catch" :: rest => do
        let (handler, rest) ← readTerm fuel rest
        return (.attempt body handler, rest)
      | rest => some (.attempt body nothing, rest)
    | .word "reduce" :: rest => do
      let (source, rest) ← readTerm fuel rest
      match rest with
      | .word "as" :: .variableName name :: rest => do
        let (arguments, rest) ← readArguments fuel rest
        match arguments with
        | [start, step] => some (.reduce source name start step, rest)
        | arguments => some (.call "reduce" arguments, rest)
      | _ => none
    | .word name :: rest =>
      if reserved.contains name then none
      else do
        let (arguments, rest) ← readArguments fuel rest
        return (.call name arguments, rest)
    | _ => none

/-- A condition with its two filters, due behind its first word. -/
def readCondition (fuel : Nat) (tokens : List Token) : Option (Filter × List Token) :=
  match fuel with
  | 0 => none
  | fuel + 1 => do
    let (condition, rest) ← readFilter fuel true tokens
    match rest with
    | .word "then" :: rest => do
      let (positive, rest) ← readFilter fuel true rest
      match rest with
      | .word "elif" :: rest => do
        let (negative, rest) ← readCondition fuel rest
        return (.choose condition positive negative, rest)
      | .word "else" :: rest => do
        let (negative, rest) ← readFilter fuel true rest
        match rest with
        | .word "end" :: rest => some (.choose condition positive negative, rest)
        | _ => none
      | .word "end" :: rest => some (.choose condition positive .identity, rest)
      | _ => none
    | _ => none

/-- Arguments between parentheses, if there are any. -/
def readArguments (fuel : Nat) (tokens : List Token) : Option (List Filter × List Token) :=
  match fuel with
  | 0 => none
  | fuel + 1 =>
    match tokens with
    | .symbol "(" :: rest => readArgumentsLeft fuel rest
    | rest => some ([], rest)

/-- Arguments between parentheses, due behind the first one or behind a semicolon. -/
def readArgumentsLeft (fuel : Nat) (tokens : List Token) : Option (List Filter × List Token) :=
  match fuel with
  | 0 => none
  | fuel + 1 => do
    let (argument, rest) ← readFilter fuel true tokens
    match rest with
    | .symbol ")" :: rest => some ([argument], rest)
    | .symbol ";" :: rest => do
      let (others, rest) ← readArgumentsLeft fuel rest
      return (argument :: others, rest)
    | _ => none

/-- Fields between braces, due behind the first one; a comma may follow the last field. -/
def readFields (fuel : Nat) (tokens : List Token) :
    Option (List (Filter × Filter) × List Token) :=
  match fuel with
  | 0 => none
  | fuel + 1 => do
    let (field, rest) ← readField fuel tokens
    match rest with
    | .symbol "\x7d" :: rest => some ([field], rest)
    | .symbol "," :: .symbol "\x7d" :: rest => some ([field], rest)
    | .symbol "," :: rest => do
      let (others, rest) ← readFields fuel rest
      return (field :: others, rest)
    | _ => none

/-- A field between braces. A name alone stands for the input's field; a variable alone gives its
own name and value, but with a value behind it, it gives the name. -/
def readField (fuel : Nat) (tokens : List Token) : Option ((Filter × Filter) × List Token) :=
  match fuel with
  | 0 => none
  | fuel + 1 =>
    match tokens with
    | .variableName name :: .symbol ":" :: rest => do
      let (value, rest) ← readFilter fuel false rest
      return ((.variableRef name, value), rest)
    | .variableName name :: rest => some ((.literal (.string name), .variableRef name), rest)
    | .word name :: .symbol ":" :: rest => do
      let (value, rest) ← readFilter fuel false rest
      return ((.literal (.string name), value), rest)
    | .string name :: .symbol ":" :: rest => do
      let (value, rest) ← readFilter fuel false rest
      return ((.literal (.string name), value), rest)
    | .word name :: rest => some ((.literal (.string name), fieldOf name), rest)
    | .string name :: rest => some ((.literal (.string name), fieldOf name), rest)
    | .symbol "(" :: rest => do
      let (name, rest) ← readFilter fuel true rest
      match rest with
      | .symbol ")" :: .symbol ":" :: rest => do
        let (value, rest) ← readFilter fuel false rest
        return ((name, value), rest)
      | _ => none
    | _ => none

/-- A step that was read but for its question mark, and the steps behind it. -/
def readStep (fuel : Nat) (part : PathPart Filter) (tokens : List Token) :
    Option (List (PathPart Filter) × List Token) :=
  match fuel with
  | 0 => none
  | fuel + 1 =>
    match tokens with
    | .symbol "?" :: rest => readStep fuel (optionalPart part) rest
    | rest => do
      let (parts, rest) ← readParts fuel rest
      return (part :: parts, rest)

/-- The steps behind a term. -/
def readParts (fuel : Nat) (tokens : List Token) :
    Option (List (PathPart Filter) × List Token) :=
  match fuel with
  | 0 => none
  | fuel + 1 =>
    match tokens with
    | .field name :: rest => readStep fuel (.index (.literal (.string name)) false) rest
    | .symbol "." :: .string name :: rest =>
      readStep fuel (.index (.literal (.string name)) false) rest
    | .symbol "[" :: rest => readBracket fuel rest
    | rest => some ([], rest)

/-- A step between brackets and the steps behind it, due behind the first bracket. -/
def readBracket (fuel : Nat) (tokens : List Token) :
    Option (List (PathPart Filter) × List Token) :=
  match fuel with
  | 0 => none
  | fuel + 1 =>
    match tokens with
    | .symbol "]" :: rest => readStep fuel (.each false) rest
    | .symbol ":" :: rest => do
      let (last, rest) ← readFilter fuel true rest
      match rest with
      | .symbol "]" :: rest => readStep fuel (.slice none (some last) false) rest
      | _ => none
    | rest => do
      let (first, rest) ← readFilter fuel true rest
      match rest with
      | .symbol "]" :: rest => readStep fuel (.index first false) rest
      | .symbol ":" :: .symbol "]" :: rest => readStep fuel (.slice (some first) none false) rest
      | .symbol ":" :: rest => do
        let (last, rest) ← readFilter fuel true rest
        match rest with
        | .symbol "]" :: rest => readStep fuel (.slice (some first) (some last) false) rest
        | _ => none
      | _ => none

end

/-- The filter that a text consists of. Each token is the start of few parts only. -/
def ofText? (text : List Char) : Option Filter := do
  let tokens ← Token.ofText? text
  if declarations.any fun word => tokens.head? = some (.word word) then none
  else
    match ← readFilter (8 * tokens.length + 8) true tokens with
    | (filter, []) => some filter
    | _ => none

end Filter

end JsonShape.Jq
