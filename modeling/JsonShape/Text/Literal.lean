import JsonShape.Double.Scaling
import JsonShape.Number
import JsonShape.Text.Fault

/-!
# Reading strings and numbers

Readers of one token. Each takes the text from where the token starts and returns what it read
with the text behind it, or the first fault.
-/
namespace JsonShape.Text

/-- Report a fault. -/
def fault {α : Type} (fault : Fault) (place : Place) : Except FaultAt α :=
  .error ⟨fault, place⟩

/-- The blanks between tokens. -/
def isBlank (c : Char) : Bool :=
  c = ' ' || c = '\n' || c = '\t' || c = '\r'

/-- A text without its leading blanks. -/
def skipBlanks (text : List Char) : List Char :=
  text.dropWhile isBlank

/-! ## Strings -/

/-- The value of a hexadecimal digit. -/
def hexValue? (c : Char) : Option Nat :=
  if '0' ≤ c ∧ c ≤ '9' then some (c.toNat - 48)
  else if 'a' ≤ c ∧ c ≤ 'f' then some (c.toNat - 87)
  else if 'A' ≤ c ∧ c ≤ 'F' then some (c.toNat - 55)
  else none

/-- The value of four hexadecimal digits at the start of a text. -/
def fourHex? : List Char → Option (Nat × List Char)
  | a :: b :: c :: d :: rest => do
    let a ← hexValue? a
    let b ← hexValue? b
    let c ← hexValue? c
    let d ← hexValue? d
    return (((a * 16 + b) * 16 + c) * 16 + d, rest)
  | _ => none

/-- The number of a hexadecimal escape, whose four digits are due. Fewer than four bytes count as
the end of the text; four bytes that are not all digits are faulty at the fourth. -/
def readFourHex (text : List Char) : Except FaultAt (Nat × List Char) :=
  match fourHex? text with
  | some found => .ok found
  | none =>
    if byteLength (text.take 4) < 4 then fault .endOfString .ending
    else fault .invalidEscape ⟨text, 4⟩

/-- Whether a number is a leading surrogate. -/
def isLeading (unit : Nat) : Bool := 0xD800 ≤ unit ∧ unit < 0xDC00

/-- Whether a number is a trailing surrogate. -/
def isTrailing (unit : Nat) : Bool := 0xDC00 ≤ unit ∧ unit < 0xE000

/-- The character of a surrogate pair. -/
def pairedChar (leading trailing : Nat) : Char :=
  Char.ofNat (0x10000 + (leading - 0xD800) * 0x400 + (trailing - 0xDC00))

/-- The trailing half of a surrogate pair, due behind a leading surrogate. -/
def readTrailing (leading : Nat) : List Char → Except FaultAt (Char × List Char)
  | [] => fault .endOfString .ending
  | '\\' :: [] => fault .endOfString .ending
  | '\\' :: 'u' :: rest => do
    let (trailing, rest) ← readFourHex rest
    if isTrailing trailing then .ok (pairedChar leading trailing, rest)
    else fault .loneSurrogate (.upTo rest)
  | '\\' :: rest => fault .unexpectedEndOfHexEscape (.firstOf rest)
  | rest => fault .unexpectedEndOfHexEscape (.firstOf rest)

/-- The character of a hexadecimal escape, due behind its letter. -/
def readUnicode (text : List Char) : Except FaultAt (Char × List Char) := do
  let (unit, rest) ← readFourHex text
  if isTrailing unit then fault .loneSurrogate (.upTo rest)
  else if isLeading unit then readTrailing unit rest
  else .ok (Char.ofNat unit, rest)

/-- The character of an escape, due behind its backslash. -/
def readEscape : List Char → Except FaultAt (Char × List Char)
  | [] => fault .endOfString .ending
  | c :: rest =>
    if c = '"' ∨ c = '\\' ∨ c = '/' then .ok (c, rest)
    else if c = 'b' then .ok ('\x08', rest)
    else if c = 'f' then .ok ('\x0c', rest)
    else if c = 'n' then .ok ('\n', rest)
    else if c = 'r' then .ok ('\r', rest)
    else if c = 't' then .ok ('\t', rest)
    else if c = 'u' then readUnicode rest
    else fault .invalidEscape (.firstOf (c :: rest))

/-- The characters of a string up to its closing quote, at most `fuel` of them. -/
def readCharacters : Nat → List Char → Except FaultAt ((List Char) × List Char)
  | 0, _ => fault .endOfString .ending
  | _ + 1, [] => fault .endOfString .ending
  | fuel + 1, c :: rest =>
    if c = '"' then .ok ([], rest)
    else if c = '\\' then do
      let (first, rest) ← readEscape rest
      let (others, rest) ← readCharacters fuel rest
      return (first :: others, rest)
    else if c.toNat < 32 then fault .controlCharacter (.firstOf (c :: rest))
    else do
      let (others, rest) ← readCharacters fuel rest
      return (c :: others, rest)

/-- A string, due behind its opening quote. -/
def readString (text : List Char) : Except FaultAt (String × List Char) := do
  let (characters, rest) ← readCharacters (text.length + 1) text
  return (String.ofList characters, rest)

/-! ## Numbers -/

/-- Whether a character is a decimal digit. -/
def isDigit (c : Char) : Bool := '0' ≤ c ∧ c ≤ '9'

/-- The number that decimal digits write. -/
def digitsValue (digits : List Char) : Nat :=
  digits.foldl (fun value c => 10 * value + (c.toNat - 48)) 0

/-- The digits that a 64-bit word holds behind those that it has, and how many it leaves out: from
the first one on that does not fit, all of them. -/
def kept (word : Nat) : List Char → Nat × Nat
  | [] => (word, 0)
  | c :: rest =>
    let longer := 10 * word + (c.toNat - 48)
    if longer < 0x10000000000000000 then kept longer rest else (word, rest.length + 1)

/-- Digits, at least one of which is due. -/
def readDigits : List Char → Except FaultAt ((List Char) × List Char)
  | [] => fault .endOfValue .ending
  | c :: rest =>
    if isDigit c then .ok (c :: rest.takeWhile isDigit, rest.dropWhile isDigit)
    else fault .invalidNumber (.firstOf (c :: rest))

/-- The digits before the point: a zero stands alone. -/
def readWhole : List Char → Except FaultAt ((List Char) × List Char)
  | '0' :: c :: rest =>
    if isDigit c then fault .invalidNumber (.firstOf (c :: rest)) else .ok (['0'], c :: rest)
  | text => readDigits text

/-- The digits behind the point, if there is one. -/
def readFraction : List Char → Except FaultAt ((Option (List Char)) × List Char)
  | '.' :: rest => do
    let (digits, rest) ← readDigits rest
    return (some digits, rest)
  | text => .ok (none, text)

/-- An exponent: its sign, its digits and the text at its first digit. -/
structure Exponent where
  /-- Whether the exponent has a minus sign. -/
  negative : Bool
  /-- The digits. -/
  digits : List Char
  /-- The text from the first digit on. -/
  text : List Char

/-- The value of an exponent. -/
def Exponent.value (exponent : Exponent) : Int :=
  if exponent.negative then -(digitsValue exponent.digits : Int) else digitsValue exponent.digits

/-- The exponent, if there is one. -/
def readExponent : List Char → Except FaultAt ((Option Exponent) × List Char)
  | c :: rest =>
    if c = 'e' ∨ c = 'E' then do
      let (negative, rest) := match rest with
        | '+' :: rest => (false, rest)
        | '-' :: rest => (true, rest)
        | rest => (false, rest)
      let (digits, behind) ← readDigits rest
      return (some ⟨negative, digits, rest⟩, behind)
    else .ok (none, c :: rest)
  | [] => .ok (none, [])

/-- The text behind the first digit that takes a number over 2³¹ - 1, if one does. -/
def overflowing? (value : Nat) : List Char → Option (List Char)
  | [] => none
  | c :: rest =>
    if isDigit c then
      let value := 10 * value + (c.toNat - 48)
      if 2147483647 < value then some rest else overflowing? value rest
    else none

/-- The parts of a number as it is written. -/
structure Numeral where
  /-- Whether there is a minus sign. -/
  negative : Bool
  /-- The digits before the point. -/
  whole : List Char
  /-- The digits behind the point. -/
  fraction : Option (List Char)
  /-- The exponent. -/
  exponent : Option Exponent

namespace Numeral

/-- All digits before the exponent as one number. -/
def digits (numeral : Numeral) : Nat :=
  digitsValue (numeral.whole ++ numeral.fraction.getD [])

/-- The power of ten that the last of these digits counts. -/
def scale (numeral : Numeral) : Int :=
  (numeral.exponent.map Exponent.value).getD 0 - (numeral.fraction.getD []).length

/-- The digits before the point that are kept, and how many are left out. -/
def keptWhole (numeral : Numeral) : Nat × Nat :=
  kept 0 numeral.whole

/-- The digits of both sides of the point that are kept, and how many behind it are left out. The
word that is full before the point may yet take digits behind it. -/
def keptBoth (numeral : Numeral) : Nat × Nat :=
  kept numeral.keptWhole.1 (numeral.fraction.getD [])

/-- The power of ten that the last kept digit counts. -/
def keptScale (numeral : Numeral) : Int :=
  numeral.scale + numeral.keptWhole.2 + numeral.keptBoth.2

/-- The integer that a numeral without fraction and exponent writes, if it fits a 64-bit word.
The negative zero is no integer. -/
def integer? (numeral : Numeral) : Option Number :=
  match numeral.fraction, numeral.exponent with
  | none, none =>
    if numeral.negative then
      if numeral.digits = 0 then none else Number.ofInt? (-(numeral.digits : Int))
    else Number.ofInt? numeral.digits
  | _, _ => none

/-- The place of the exponent digit that makes a number too large to be looked at, if one does. -/
def tooLargeAt? (numeral : Numeral) : Option Place := do
  let exponent ← numeral.exponent
  let rest ← overflowing? 0 exponent.text
  if exponent.negative ∨ numeral.digits = 0 then none else some (.upTo rest)

/-- The number that a numeral writes, `rest` being the text behind it. -/
def number (numeral : Numeral) (rest : List Char) : Except FaultAt Number :=
  match numeral.integer? with
  | some number => .ok number
  | none =>
    match numeral.tooLargeAt? with
    | some place => fault .numberOutOfRange place
    | none =>
      match Double.ofWord? numeral.negative numeral.keptBoth.1 numeral.keptScale with
      | some value => .ok (.double value)
      | none => fault .numberOutOfRange (.upTo rest)

end Numeral

/-- The parts of a number whose minus sign, if it has one, is read already. -/
def readNumeral (negative : Bool) (text : List Char) : Except FaultAt (Numeral × List Char) := do
  let (whole, rest) ← readWhole text
  let (fraction, rest) ← readFraction rest
  let (exponent, rest) ← readExponent rest
  return (⟨negative, whole, fraction, exponent⟩, rest)

/-- A number, due at its minus sign or first digit. -/
def readNumber (text : List Char) : Except FaultAt (Number × List Char) := do
  let (numeral, rest) ← match text with
    | '-' :: rest => readNumeral true rest
    | rest => readNumeral false rest
  let number ← numeral.number rest
  return (number, rest)

end JsonShape.Text
