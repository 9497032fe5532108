import RowMapper.Text.Printable

/-!
# Quoted texts

A text is quoted by apostrophes, or by double quotes when it holds an apostrophe and no double
quote. The quote in use, the backslash and the characters that do not print are escaped; an
escape by number has two, four or eight hexadecimal digits, the fewest that suffice. Octets are
quoted by the same rule behind a `b`, with every octet above ASCII escaped.
-/

namespace RowMapper.Text

/-- The hexadecimal digits of a number, least significant first, as many as asked for. -/
def hexDigitsReversed (n : Nat) : Nat → List Char
  | 0 => []
  | width + 1 => Nat.digitChar (n % 16) :: hexDigitsReversed (n / 16) width

/-- A number in hexadecimal with a fixed count of digits. -/
def hexDigits (width n : Nat) : List Char :=
  (hexDigitsReversed n width).reverse

namespace Quoted

/-- The mark that quotes a text: the one that needs no escape, the apostrophe first. -/
def mark (cs : List Char) : Char :=
  if cs.contains '\'' && !cs.contains '"' then '"' else '\''

/-- An escape by number, in the shortest of the three widths. -/
def numericEscape (n : Nat) : List Char :=
  if n < 0x100 then '\\' :: 'x' :: hexDigits 2 n
  else if n < 0x10000 then '\\' :: 'u' :: hexDigits 4 n
  else '\\' :: 'U' :: hexDigits 8 n

/-- One character inside a quoted text; `bare` says which characters need no escape. -/
def escapeChar (bare : Char → Bool) (quote c : Char) : List Char :=
  if c = quote || c = '\\' then ['\\', c]
  else if c = '\t' then ['\\', 't']
  else if c = '\n' then ['\\', 'n']
  else if c = '\r' then ['\\', 'r']
  else if bare c then [c]
  else numericEscape c.toNat

/-- A text between its marks, escaped. -/
def encode (bare : Char → Bool) (cs : List Char) : List Char :=
  mark cs :: cs.flatMap (escapeChar bare (mark cs)) ++ [mark cs]

end Quoted

/-- The quoted form of a text. -/
def quoted (s : String) : String :=
  .ofList (Quoted.encode isPrintable s.toList)

/-- The quoted form of octets. -/
def quotedOctets (octets : List UInt8) : String :=
  .ofList ('b' :: Quoted.encode (fun c => 32 ≤ c.toNat && c.toNat < 127)
    (octets.map fun octet => Char.ofNat octet.toNat))

end RowMapper.Text
