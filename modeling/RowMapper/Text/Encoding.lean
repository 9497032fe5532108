/-!
# Octets as text

Octets are taken for UTF-8, UTF-16 or UTF-32. A byte order mark decides; without one, the places
of the zeros among the first four octets do. Units that stand for no character become replacement
characters where the encoding form itself is sound.
-/

namespace RowMapper.Text

/-- The encoding forms, with the order of octets in a unit where it matters. -/
inductive Encoding where
  | utf8
  | utf16 (bigEndian : Bool)
  | utf32 (bigEndian : Bool)
  deriving DecidableEq

namespace Encoding

/-- The encoding of octets, and how many of them the byte order mark takes up. -/
def detect (octets : List Nat) : Encoding × Nat :=
  match octets with
  | 0x00 :: 0x00 :: 0xFE :: 0xFF :: _ => (.utf32 true, 4)
  | 0xFF :: 0xFE :: 0x00 :: 0x00 :: _ => (.utf32 false, 4)
  | 0xFE :: 0xFF :: _ => (.utf16 true, 2)
  | 0xFF :: 0xFE :: _ => (.utf16 false, 2)
  | 0xEF :: 0xBB :: 0xBF :: _ => (.utf8, 3)
  | a :: b :: c :: d :: _ =>
      if a = 0 then (if b = 0 then .utf32 true else .utf16 true, 0)
      else if b = 0 then (if c = 0 && d = 0 then .utf32 false else .utf16 false, 0)
      else (.utf8, 0)
  | [a, b] =>
      if a = 0 then (.utf16 true, 0) else if b = 0 then (.utf16 false, 0) else (.utf8, 0)
  | _ => (.utf8, 0)

/-- The character of a code point; a surrogate becomes the replacement character. -/
def charOf (n : Nat) : Char :=
  if n.isValidChar then Char.ofNat n else '\ufffd'

/-- Whether a number continues a UTF-8 sequence. -/
def isTail (n : Nat) : Bool :=
  0x80 ≤ n && n < 0xC0

/-- Characters from UTF-8, in which no character is longer than needed. -/
def decodeUtf8 : List Nat → Option (List Char)
  | [] => some []
  | a :: rest =>
      if a < 0x80 then (decodeUtf8 rest).map (charOf a :: ·)
      else if 0xC2 ≤ a && a < 0xE0 then
        match rest with
        | b :: rest =>
            if isTail b then
              (decodeUtf8 rest).map (charOf ((a - 0xC0) * 64 + (b - 0x80)) :: ·)
            else none
        | _ => none
      else if 0xE0 ≤ a && a < 0xF0 then
        match rest with
        | b :: c :: rest =>
            let n := (a - 0xE0) * 4096 + (b - 0x80) * 64 + (c - 0x80)
            if isTail b && isTail c && 0x800 ≤ n then (decodeUtf8 rest).map (charOf n :: ·)
            else none
        | _ => none
      else if 0xF0 ≤ a && a < 0xF5 then
        match rest with
        | b :: c :: d :: rest =>
            let n := (a - 0xF0) * 262144 + (b - 0x80) * 4096 + (c - 0x80) * 64 + (d - 0x80)
            if isTail b && isTail c && isTail d && 0x10000 ≤ n && n < 0x110000 then
              (decodeUtf8 rest).map (charOf n :: ·)
            else none
        | _ => none
      else none

/-- Units of two octets. -/
def pairs (bigEndian : Bool) : List Nat → Option (List Nat)
  | [] => some []
  | [_] => none
  | a :: b :: rest =>
      (pairs bigEndian rest).map ((if bigEndian then a * 256 + b else b * 256 + a) :: ·)

/-- Characters from UTF-16 units. -/
def joinUnits : List Nat → List Char
  | [] => []
  | [a] => [charOf a]
  | a :: b :: rest =>
      if 0xD800 ≤ a && a < 0xDC00 && 0xDC00 ≤ b && b < 0xE000 then
        charOf (0x10000 + (a - 0xD800) * 0x400 + (b - 0xDC00)) :: joinUnits rest
      else charOf a :: joinUnits (b :: rest)

/-- Characters from UTF-32. -/
def decodeUtf32 (bigEndian : Bool) : List Nat → Option (List Char)
  | [] => some []
  | a :: b :: c :: d :: rest =>
      let n := if bigEndian then ((a * 256 + b) * 256 + c) * 256 + d
        else ((d * 256 + c) * 256 + b) * 256 + a
      if n < 0x110000 then (decodeUtf32 bigEndian rest).map (charOf n :: ·) else none
  | _ => none

/-- The characters that octets encode, by the encoding they show. -/
def decode (octets : List UInt8) : Option (List Char) :=
  let numbers := octets.map UInt8.toNat
  let (encoding, mark) := detect numbers
  let body := numbers.drop mark
  match encoding with
  | .utf8 => decodeUtf8 body
  | .utf16 bigEndian => (pairs bigEndian body).map joinUnits
  | .utf32 bigEndian => decodeUtf32 bigEndian body

end Encoding

end RowMapper.Text
