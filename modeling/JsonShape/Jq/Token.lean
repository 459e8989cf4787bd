import JsonShape.Text.Literal
import JsonShape.Unicode.WhiteSpace

/-!
# Tokens of the jq language

A filter text is cut into words, variables, fields, literals and symbols. A run of operator
characters is one symbol, but a minus sign starts a new one. White space and comments separate
tokens.
-/
namespace JsonShape.Jq

/-- A token of a filter. -/
inductive Token where
  /-- A name. -/
  | word (name : String)
  /-- A name behind a dollar sign. -/
  | variableName (name : String)
  /-- A name behind a point. -/
  | field (name : String)
  /-- A number. -/
  | number (text : List Char)
  /-- A string. -/
  | string (text : String)
  /-- An operator, a bracket or another sign. -/
  | symbol (text : String)
deriving DecidableEq

namespace Token

/-- Characters that start a name. -/
def startsName (c : Char) : Bool :=
  ('a' ≤ c ∧ c ≤ 'z') || ('A' ≤ c ∧ c ≤ 'Z') || c = '_'

/-- Characters inside a name. -/
def insideName (c : Char) : Bool :=
  startsName c || Text.isDigit c

/-- Characters of operators. -/
def isOperator (c : Char) : Bool :=
  ['|', '=', '!', '<', '>', '+', '-', '*', '/', '%'].contains c

/-- Characters that are a symbol by themselves. -/
def isSign (c : Char) : Bool :=
  [',', ';', ':', '?', '(', ')', '[', ']', '\x7b', '\x7d'].contains c

/-- Characters that go on with an operator. -/
def continuesOperator (c : Char) : Bool :=
  isOperator c && c ≠ '-'

/-- Digits, at least one of which is due, and the text behind them. -/
def digits? (text : List Char) : Option (List Char × List Char) :=
  let digits := text.takeWhile Text.isDigit
  if digits.isEmpty then none else some (digits, text.dropWhile Text.isDigit)

/-- The fraction of a number, if there is one, and the text behind it. -/
def fraction? : List Char → Option (List Char × List Char)
  | '.' :: rest => do
    let (digits, rest) ← digits? rest
    return ('.' :: digits, rest)
  | rest => some ([], rest)

/-- The exponent of a number, if there is one, and the text behind it. -/
def exponent? : List Char → Option (List Char × List Char)
  | c :: rest =>
    if c = 'e' ∨ c = 'E' then do
      let (sign, rest) := match rest with
        | '+' :: rest => (['+'], rest)
        | '-' :: rest => (['-'], rest)
        | rest => ([], rest)
      let (digits, rest) ← digits? rest
      return (c :: sign ++ digits, rest)
    else some ([], c :: rest)
  | [] => some ([], [])

/-- The number that a text starts with and the text behind it. -/
def number? (text : List Char) : Option (List Char × List Char) := do
  let (whole, rest) ← digits? text
  let (fraction, rest) ← fraction? rest
  let (exponent, rest) ← exponent? rest
  return (whole ++ fraction ++ exponent, rest)

/-- The character of an escape that has a letter or a sign for it. -/
def escaped? (c : Char) : Option Char :=
  if c = '"' ∨ c = '\\' ∨ c = '/' then some c
  else if c = 'b' then some '\x08'
  else if c = 'f' then some '\x0c'
  else if c = 'n' then some '\n'
  else if c = 'r' then some '\r'
  else if c = 't' then some '\t'
  else none

/-- The character of a code point, which is no surrogate. -/
def charOf? (code : Nat) : Option Char :=
  if code.isValidChar then some (Char.ofNat code) else none

/-- The characters of a string up to its closing quote and the text behind it. Every character may
stand for itself but the quote and the backslash. -/
def string? : List Char → Option (List Char × List Char)
  | [] => none
  | '"' :: rest => some ([], rest)
  | '\\' :: 'u' :: a :: b :: c :: d :: rest => do
    let (code, _) ← Text.fourHex? [a, b, c, d]
    let first ← charOf? code
    let (others, rest) ← string? rest
    return (first :: others, rest)
  | '\\' :: c :: rest => do
    let first ← escaped? c
    let (others, rest) ← string? rest
    return (first :: others, rest)
  | c :: rest => do
    let (others, rest) ← string? rest
    return (c :: others, rest)

/-- The text behind a comment, which ends with its line. A line whose last characters are an odd
number of backslashes goes on with the next one; `backslash` says whether an odd number of them
stands before the text. -/
def behindComment (backslash : Bool) : List Char → List Char
  | [] => []
  | '\n' :: rest => if backslash then behindComment false rest else rest
  | '\r' :: '\n' :: rest => if backslash then behindComment false rest else rest
  | '\\' :: rest => behindComment (!backslash) rest
  | _ :: rest => behindComment false rest

/-- The name that a text starts with and the text behind it. -/
def nameText (text : List Char) : String × List Char :=
  (String.ofList (text.takeWhile insideName), text.dropWhile insideName)

/-- The token that a text starts with, its first character being `c`. -/
def next? (c : Char) (rest : List Char) : Option (Token × List Char) :=
  if startsName c then
    let (name, rest) := nameText (c :: rest)
    some (.word name, rest)
  else if c = '$' then
    match rest with
    | [] => none
    | first :: others =>
      if startsName first then
        let (name, rest) := nameText (first :: others)
        some (.variableName name, rest)
      else none
  else if Text.isDigit c then
    (number? (c :: rest)).map fun (text, rest) => (.number text, rest)
  else if c = '"' then
    (string? rest).map fun (text, rest) => (.string (String.ofList text), rest)
  else if isOperator c then
    some (.symbol (String.ofList (c :: rest.takeWhile continuesOperator)),
      rest.dropWhile continuesOperator)
  else if c = '.' then
    match rest with
    | '.' :: rest => some (.symbol "..", rest)
    | first :: others =>
      if startsName first then
        let (name, rest) := nameText (first :: others)
        some (.field name, rest)
      else some (.symbol ".", first :: others)
    | [] => some (.symbol ".", [])
  else if isSign c then some (.symbol (String.ofList [c]), rest)
  else none

/-- The tokens of a text, at most `fuel` of them. -/
def scan : Nat → List Char → Option (List Token)
  | 0, _ => none
  | _ + 1, [] => some []
  | fuel + 1, c :: rest =>
    if Unicode.isWhiteSpace c then scan fuel rest
    else if c = '#' then scan fuel (behindComment false rest)
    else do
      let (token, rest) ← next? c rest
      let others ← scan fuel rest
      return token :: others

/-- The tokens of a filter text. -/
def ofText? (text : List Char) : Option (List Token) :=
  scan (text.length + 1) text

end Token

end JsonShape.Jq
