import RowMapper.Number.Basic

/-!
# Binary fractions of double precision

A finite value is a sign, a mantissa below 2^53 and an exponent of two, the mantissa as long as
the exponent range allows. A rational is rounded to the nearest value, a tie to the even
mantissa. A NaN carries a mark: two NaNs are the same occurrence when their marks agree, which
matters where containers are compared.
-/

namespace RowMapper

/-- A value of the double precision binary format. -/
inductive Binary64 where
  | nan (mark : Nat)
  | infinite (negative : Bool)
  | finite (negative : Bool) (mantissa : Nat) (exponent : Int)
  deriving DecidableEq

namespace Binary64

/-- The least exponent of a finite value. -/
def minExponent : Int := -1074

/-- The greatest exponent of a finite value. -/
def maxExponent : Int := 971

/-- The bound of mantissas, two to the power of their length in binary places. -/
def mantissaBound : Nat := Nat.pow 2 53

/-- Zero of either sign. -/
def zero (negative : Bool) : Binary64 :=
  .finite negative 0 minExponent

/-- The quotient of two naturals, rounded to the nearest natural, a tie to the even one. -/
def roundHalfEven (num den : Nat) : Nat :=
  let floor := num / den
  let rest := num % den
  if 2 * rest < den then floor
  else if den < 2 * rest then floor + 1
  else floor + floor % 2

/-- The power of two with an exponent of either sign, as a numerator and a denominator. -/
def twoPower (exponent : Int) : Nat × Nat :=
  if 0 ≤ exponent then (Nat.pow 2 exponent.toNat, 1) else (1, Nat.pow 2 (-exponent).toNat)

/-- The value nearest to `num / den`. -/
def ofRatio (negative : Bool) (num den : Nat) : Binary64 :=
  if num = 0 then zero negative
  else
    let size : Int := (Nat.log2 num : Int) - Nat.log2 den
    let first := max (size - 53) minExponent
    let quotientAt (exponent : Int) : Nat × Nat :=
      let power := twoPower (-exponent)
      (num * power.1, den * power.2)
    let exponent :=
      if mantissaBound ≤ (quotientAt first).1 / (quotientAt first).2 then first + 1 else first
    let rounded := roundHalfEven (quotientAt exponent).1 (quotientAt exponent).2
    let carried :=
      if rounded = mantissaBound then (mantissaBound / 2, exponent + 1) else (rounded, exponent)
    if maxExponent < carried.2 then .infinite negative
    else .finite negative carried.1 carried.2

/-- A signed natural. -/
def signed (negative : Bool) (n : Nat) : Int :=
  if negative then -n else n

/-- The number that a value stands for. -/
def toNumber : Binary64 → Number
  | .nan _ => .undefined
  | .infinite negative => .infinite negative
  | .finite negative mantissa exponent =>
      let power := twoPower exponent
      .finite (mkRat (signed negative (mantissa * power.1)) power.2)

/-- Whether a value is a zero of either sign. -/
def isZero : Binary64 → Bool
  | .finite _ mantissa _ => mantissa == 0
  | _ => false

/-- The value with its fraction dropped; only finite values have one. -/
def truncate? : Binary64 → Option Int
  | .finite negative mantissa exponent =>
      let power := twoPower exponent
      some (signed negative (mantissa * power.1 / power.2))
  | _ => none

/-- A value times a natural, rounded. -/
def scale (factor : Nat) : Binary64 → Binary64
  | .finite negative mantissa exponent =>
      let power := twoPower exponent
      ofRatio negative (mantissa * factor * power.1) power.2
  | x => x

/-- A value and one, rounded. -/
def addOne : Binary64 → Binary64
  | .finite negative mantissa exponent =>
      let power := twoPower exponent
      let sum := signed negative (mantissa * power.1) + power.2
      ofRatio (sum < 0) sum.natAbs power.2
  | x => x

end Binary64

end RowMapper
