import JsonShape.Text.Quoted
import JsonShape.Unicode.Shown

/-!
# Shown text

A text in a message stands between quotes so that every character of it can be seen. The quote,
the backslash, the line breaks, the tab and the null character have a short escape; any other
character that is not shown as it is stands as its code point in hexadecimal digits.
-/
namespace JsonShape.Text

/-- The hexadecimal digits of a number without leading zeros, at most `count` of them. -/
def hexDigits : Nat → Nat → List Char
  | 0, _ => []
  | count + 1, value =>
    if value < 16 then [hexDigit value]
    else hexDigits count (value / 16) ++ [hexDigit (value % 16)]

/-- A character as its code point, which has at most six digits. -/
def codePointEscape (c : Char) : List Char :=
  ['\\', 'u', '\x7b'] ++ hexDigits 6 c.toNat ++ ['\x7d']

/-- A character as it is shown inside quotes. -/
def shownChar (c : Char) : List Char :=
  if c = '"' then ['\\', '"']
  else if c = '\\' then ['\\', '\\']
  else if c = '\n' then ['\\', 'n']
  else if c = '\r' then ['\\', 'r']
  else if c = '\t' then ['\\', 't']
  else if c = '\x00' then ['\\', '0']
  else if Unicode.isShown c then [c]
  else codePointEscape c

/-- A text as it is shown between quotes. -/
def shown (text : List Char) : List Char :=
  '"' :: (text.flatMap shownChar ++ ['"'])

end JsonShape.Text
