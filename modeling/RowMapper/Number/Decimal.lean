import RowMapper.Number.Binary64
import RowMapper.Text.Blank
import RowMapper.Text.Digit

/-!
# Decimal texts of numbers

An integer is written in decimal with a leading minus. A binary fraction is written with the
fewest digits that read back as the same value, and of those the digits nearest to it. The search
goes over decimal grids from coarse to fine: if a point of a grid reads back as the value, one of
the two grid points next to the value does.
-/

namespace RowMapper

/-- The decimal text of an integer. -/
def decimalText (n : Int) : String :=
  if n < 0 then "-" ++ Nat.repr n.natAbs else Nat.repr n.natAbs

/-- A decimal number `coefficient * 10 ^ exponent`. -/
structure Decimal where
  coefficient : Nat
  exponent : Int
  deriving DecidableEq

namespace Decimal

/-- The power of ten with an exponent of either sign, as a numerator and a denominator. -/
def tenPower (exponent : Int) : Nat × Nat :=
  if 0 ≤ exponent then (Nat.pow 10 exponent.toNat, 1) else (1, Nat.pow 10 (-exponent).toNat)

/-- The numbers that round to a given value: everything is counted in quarters of the value's
last binary place, and the ends belong to it when the mantissa is even. -/
structure Interval where
  low : Nat
  value : Nat
  high : Nat
  unit : Nat × Nat
  closed : Bool

/-- The numbers that round to `mantissa * 2 ^ exponent`. Below a power of two the values lie twice
as close as above it. -/
def Interval.around (mantissa : Nat) (exponent : Int) : Interval where
  low := 4 * mantissa -
    (if mantissa = Binary64.mantissaBound / 2 && Binary64.minExponent < exponent then 1 else 2)
  value := 4 * mantissa
  high := 4 * mantissa + 2
  unit := Binary64.twoPower (exponent - 2)
  closed := mantissa % 2 == 0

/-- The point of the grid `10 ^ exponent` inside the interval that is nearest to the value. -/
def Interval.nearestOn? (range : Interval) (exponent : Int) : Option Decimal :=
  let ten := tenPower exponent
  let scale := range.unit.1 * ten.2
  let step := range.unit.2 * ten.1
  let target := range.value * scale
  let inside (c : Nat) : Bool :=
    if range.closed then range.low * scale ≤ c * step && c * step ≤ range.high * scale
    else range.low * scale < c * step && c * step < range.high * scale
  let below := target / step
  let above := below + 1
  match inside below, inside above with
  | false, false => none
  | true, false => some ⟨below, exponent⟩
  | false, true => some ⟨above, exponent⟩
  | true, true =>
      let left := target - below * step
      let right := above * step - target
      if left < right || (left = right && below % 2 = 0) then some ⟨below, exponent⟩
      else some ⟨above, exponent⟩

/-- The first grid with a point inside the interval, going from coarse to fine. -/
def Interval.search (range : Interval) : Nat → Int → Option Decimal
  | 0, _ => none
  | grids + 1, exponent =>
      match range.nearestOn? exponent with
      | some decimal => some decimal
      | none => range.search grids (exponent - 1)

/-- The shortest decimal that rounds to `mantissa * 2 ^ exponent`, for a positive mantissa. The
first grid tried is coarser than the value, and seventeen digits always suffice. -/
def shortest (mantissa : Nat) (exponent : Int) : Decimal :=
  let magnitude := ((Nat.log2 mantissa : Int) + exponent) * 30103 / 100000
  ((Interval.around mantissa exponent).search 24 (magnitude + 2)).getD ⟨mantissa, exponent⟩

/-- How a decimal is laid out: a number whose point falls after more than `lowest` and at most
`highest` digits is written positionally, any other with an exponent of at least `width` digits. -/
structure Layout where
  lowest : Int
  highest : Int
  width : Nat

/-- The layout of binary fractions. -/
def Layout.standard : Layout := ⟨-4, 16, 2⟩

/-- Zeros in a row. -/
def zeros (n : Nat) : List Char :=
  List.replicate n '0'

/-- The text of a positive decimal whose coefficient does not end in zero. -/
def render (layout : Layout) (decimal : Decimal) : List Char :=
  let digits := (Nat.repr decimal.coefficient).toList
  let point : Int := digits.length + decimal.exponent
  if layout.lowest < point && point ≤ layout.highest then
    if point ≤ 0 then '0' :: '.' :: zeros (-point).toNat ++ digits
    else if digits.length ≤ point then
      digits ++ zeros (point.toNat - digits.length) ++ ['.', '0']
    else digits.take point.toNat ++ '.' :: digits.drop point.toNat
  else
    let power := (Nat.repr (point - 1).natAbs).toList
    digits.take 1 ++ (if digits.length = 1 then [] else '.' :: digits.drop 1) ++
      'e' :: (if point - 1 < 0 then '-' else '+') :: zeros (layout.width - power.length) ++ power

/-- The binary fraction nearest to a decimal. Decimals far outside the range of the format are
told by their count of digits. -/
def toBinary64 (negative : Bool) (decimal : Decimal) : Binary64 :=
  let point : Int := (Nat.repr decimal.coefficient).length + decimal.exponent
  if decimal.coefficient = 0 || point < -400 then Binary64.zero negative
  else if 400 < point then .infinite negative
  else
    let ten := tenPower decimal.exponent
    .ofRatio negative (decimal.coefficient * ten.1) ten.2

end Decimal

namespace Binary64

/-- The shortest text that reads back as the value. -/
def text : Binary64 → String
  | .nan _ => "nan"
  | .infinite negative => if negative then "-inf" else "inf"
  | .finite negative mantissa exponent =>
      let digits :=
        if mantissa = 0 then ['0', '.', '0']
        else (Decimal.shortest mantissa exponent).render .standard
      .ofList (if negative then '-' :: digits else digits)

end Binary64

/-- The natural written by ASCII digits. -/
def naturalOfDigits (digits : List Char) : Nat :=
  digits.foldl (fun n c => 10 * n + (c.toNat - '0'.toNat)) 0

namespace Decimal

/-- The exponent part of a decimal text, `e` and an integer; an empty text is exponent zero. -/
def readExponent? : List Char → Option Int
  | [] => some 0
  | e :: cs =>
      if e = 'e' || e = 'E' then
        let signed := match cs with
          | '-' :: digits => (true, digits)
          | '+' :: digits => (false, digits)
          | digits => (false, digits)
        if signed.2.isEmpty || !signed.2.all Char.isDigit then none
        else some (Binary64.signed signed.1 (naturalOfDigits signed.2))
      else none

/-- An unsigned decimal text: digits with at most one point, then perhaps an exponent. -/
def read? (cs : List Char) : Option Decimal := do
  let whole := cs.takeWhile Char.isDigit
  let rest := cs.dropWhile Char.isDigit
  let (fraction, rest) := match rest with
    | '.' :: more => (more.takeWhile Char.isDigit, more.dropWhile Char.isDigit)
    | more => ([], more)
  if whole.isEmpty && fraction.isEmpty then none
  else
    let power ← readExponent? rest
    return ⟨naturalOfDigits (whole ++ fraction), power - fraction.length⟩

/-- A text without the underscores that separate digits; an underscore elsewhere is an error. -/
def dropSeparators? (previous : Option Char) : List Char → Option (List Char)
  | [] => if previous = some '_' then none else some []
  | c :: cs =>
      if c = '_' then
        if (previous.map Char.isDigit).getD false then dropSeparators? (some c) cs else none
      else if previous = some '_' && !c.isDigit then none
      else (dropSeparators? (some c) cs).map (c :: ·)

end Decimal

namespace Binary64

/-- The value written by a text: a decimal, or a name of infinity or NaN, with a sign and with
blanks around it. The digits may be those of any script. -/
def read? (s : String) : Option Binary64 := do
  let trimmed := Text.trimBy Text.isNumberBlank s.toList
  let cs ← Decimal.dropSeparators? none (trimmed.map Text.westernDigit)
  let (negative, body) := match cs with
    | '-' :: rest => (true, rest)
    | '+' :: rest => (false, rest)
    | rest => (false, rest)
  let name := body.map Char.toLower
  if name = "inf".toList || name = "infinity".toList then return .infinite negative
  else if name = "nan".toList then return .nan 0
  else return (← Decimal.read? body).toBinary64 negative

end Binary64

end RowMapper
