/-!
# Faults of a text and their places

A fault says what is wrong with a text at a place. A place is a tail of the text and a number of
bytes into that tail, so finding one needs no counting; its line and its column are computed only
when a message asks for them. Lines count from one, columns count bytes since the last line break.
-/
namespace JsonShape.Text

/-- What can be wrong with a JSON text. -/
inductive Fault where
  /-- The text ends where a value is due. -/
  | endOfValue
  /-- The text ends inside an array. -/
  | endOfList
  /-- The text ends inside an object. -/
  | endOfObject
  /-- The text ends inside a string. -/
  | endOfString
  /-- A value is due and none starts here. -/
  | expectedValue
  /-- A word that starts like a literal goes on differently. -/
  | expectedIdent
  /-- A key is not followed by a colon. -/
  | expectedColon
  /-- An element is not followed by a comma or the closing bracket. -/
  | expectedCommaOrBracket
  /-- A member is not followed by a comma or the closing brace. -/
  | expectedCommaOrBrace
  /-- A closing bracket follows a comma. -/
  | trailingComma
  /-- A key does not start with a quote. -/
  | keyMustBeString
  /-- Something follows the value. -/
  | trailingCharacters
  /-- A digit is missing or misplaced in a number. -/
  | invalidNumber
  /-- A number is past the largest double. -/
  | numberOutOfRange
  /-- A backslash is followed by no known escape. -/
  | invalidEscape
  /-- A leading surrogate is not followed by another escape. -/
  | unexpectedEndOfHexEscape
  /-- A surrogate stands without its partner. -/
  | loneSurrogate
  /-- A control character stands unescaped in a string. -/
  | controlCharacter
  /-- Arrays and objects are nested too deeply. -/
  | nestingLimit
deriving DecidableEq

/-- The wording of a fault. -/
def Fault.message : Fault → String
  | .endOfValue => "EOF while parsing a value"
  | .endOfList => "EOF while parsing a list"
  | .endOfObject => "EOF while parsing an object"
  | .endOfString => "EOF while parsing a string"
  | .expectedValue => "expected value"
  | .expectedIdent => "expected ident"
  | .expectedColon => "expected `:`"
  | .expectedCommaOrBracket => "expected `,` or `]`"
  | .expectedCommaOrBrace => "expected `,` or `\x7d`"
  | .trailingComma => "trailing comma"
  | .keyMustBeString => "key must be a string"
  | .trailingCharacters => "trailing characters"
  | .invalidNumber => "invalid number"
  | .numberOutOfRange => "number out of range"
  | .invalidEscape => "invalid escape"
  | .unexpectedEndOfHexEscape => "unexpected end of hex escape"
  | .loneSurrogate => "lone leading surrogate in hex escape"
  | .controlCharacter => "control character (\\u0000-\\u001F) found while parsing a string"
  | .nestingLimit => "recursion limit exceeded"

/-- A number of bytes into a tail of a text. -/
structure Place where
  /-- The tail of the text. -/
  rest : List Char
  /-- How many bytes into the tail. -/
  bytes : Nat
deriving DecidableEq

namespace Place

/-- Behind everything that was read. -/
def upTo (rest : List Char) : Place := ⟨rest, 0⟩

/-- Behind the first byte of what is left. -/
def firstOf (rest : List Char) : Place := ⟨rest, 1⟩

/-- Behind the last byte of a text. -/
def ending : Place := ⟨[], 0⟩

end Place

/-- A line, counted from one, and the bytes of it up to a place. -/
structure Position where
  /-- The line. -/
  line : Nat
  /-- The bytes since the last line break. -/
  column : Nat
deriving DecidableEq

/-- How many bytes a text takes in UTF-8. -/
def byteLength : List Char → Nat
  | [] => 0
  | c :: rest => c.utf8Size + byteLength rest

/-- Count lines and columns over the first bytes of a text. -/
def Position.advance (start : Position) : List Char → Nat → Position
  | [], _ => start
  | c :: rest, bytes =>
    if bytes = 0 then start
    else if c = '\n' then advance ⟨start.line + 1, 0⟩ rest (bytes - 1)
    else advance ⟨start.line, start.column + min bytes c.utf8Size⟩ rest (bytes - c.utf8Size)

/-- The line and the column of a place in a text. -/
def Place.position (text : List Char) (place : Place) : Position :=
  Position.advance ⟨1, 0⟩ text (byteLength text - byteLength place.rest + place.bytes)

/-- The words that give a position. -/
def Position.message (position : Position) : String :=
  s!" at line {position.line} column {position.column}"

/-- A fault with its place. -/
structure FaultAt where
  /-- What is wrong. -/
  fault : Fault
  /-- Where. -/
  place : Place
deriving DecidableEq

/-- A fault with its position in the whole text. -/
structure ReadError where
  /-- What is wrong. -/
  fault : Fault
  /-- Where. -/
  position : Position
deriving DecidableEq

/-- The wording of a fault and its position. -/
def ReadError.message (error : ReadError) : String :=
  error.fault.message ++ error.position.message

end JsonShape.Text
