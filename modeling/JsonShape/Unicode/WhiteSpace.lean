/-!
# White space

The characters of the Unicode property White_Space.
-/
namespace JsonShape.Unicode

/-- The code points of white space, apart from the two ranges of the table. -/
def whiteSpaceSingles : List Nat :=
  [0x20, 0x85, 0xA0, 0x1680, 0x2028, 0x2029, 0x202F, 0x205F, 0x3000]

/-- Whether a character is white space: one of the singles, a control character from tab to
carriage return, or a space of a fixed width. -/
def isWhiteSpace (c : Char) : Bool :=
  (9 ≤ c.toNat ∧ c.toNat ≤ 13) || (0x2000 ≤ c.toNat ∧ c.toNat ≤ 0x200A) ||
    whiteSpaceSingles.contains c.toNat

end JsonShape.Unicode
