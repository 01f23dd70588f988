/-! Character classes: closed ranges of code points, and white space with its trimming. -/

set_option autoImplicit false

namespace QueryCache.Text

/-- Closed ranges of code points. -/
abbrev Ranges := List (Nat × Nat)

/-- Whether a code point lies in one of the ranges. -/
def Ranges.contains (ranges : Ranges) (point : Nat) : Bool :=
  ranges.any fun range => range.1 ≤ point && point ≤ range.2

theorem Ranges.contains_iff {ranges : Ranges} {point : Nat} :
    ranges.contains point = true ↔ ∃ range ∈ ranges, range.1 ≤ point ∧ point ≤ range.2 := by
  simp [Ranges.contains]

/-- The characters that count as white space, separators U+001C to U+001F included. -/
def blanks : List Nat := [
  0x9, 0xA, 0xB, 0xC, 0xD, 0x1C, 0x1D, 0x1E, 0x1F, 0x20, 0x85, 0xA0, 0x1680, 0x2000, 0x2001,
  0x2002, 0x2003, 0x2004, 0x2005, 0x2006, 0x2007, 0x2008, 0x2009, 0x200A, 0x2028, 0x2029,
  0x202F, 0x205F, 0x3000]

/-- Whether a character is white space. -/
def isBlank (c : Char) : Bool :=
  blanks.contains c.toNat

/-- Drops leading white space. -/
def trimStart (text : List Char) : List Char :=
  text.dropWhile isBlank

/-- Drops leading and trailing white space. -/
def trim (text : List Char) : List Char :=
  (trimStart (trimStart text).reverse).reverse

/-- Whether a text has no character other than white space. -/
def isBlankText (text : List Char) : Bool :=
  text.all isBlank

end QueryCache.Text
