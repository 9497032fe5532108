import RowMapper.Text.Ranges

/-!
# Blank characters

A character is blank when Unicode counts it as white space; the separators U+001C to U+001F are
blank as well, except around numbers. `trim` takes blanks off both ends of a text.
-/

namespace RowMapper.Text

/-- Blank characters outside ASCII. -/
def blankRanges : Ranges :=
  [
    (0x85, 0x85), (0xA0, 0xA0), (0x1680, 0x1680), (0x2000, 0x200A), (0x2028, 0x2029),
    (0x202F, 0x202F), (0x205F, 0x205F), (0x3000, 0x3000)]

/-- Whether a character is white space. -/
def isBlank (c : Char) : Bool :=
  if c.toNat < 128 then
    c = ' ' || (9 ≤ c.toNat && c.toNat ≤ 13) || (28 ≤ c.toNat && c.toNat ≤ 31)
  else blankRanges.contains c

/-- Blanks that may surround a number: the separators do not count. -/
def isNumberBlank (c : Char) : Bool :=
  isBlank c && !(28 ≤ c.toNat && c.toNat ≤ 31)

/-- Drop leading blanks. -/
def trimStart (cs : List Char) : List Char :=
  cs.dropWhile isBlank

/-- Drop leading and trailing characters of a class. -/
def trimBy (isDropped : Char → Bool) (cs : List Char) : List Char :=
  ((cs.dropWhile isDropped).reverse.dropWhile isDropped).reverse

/-- Drop leading and trailing blanks. -/
def trim (cs : List Char) : List Char :=
  trimBy isBlank cs

end RowMapper.Text
