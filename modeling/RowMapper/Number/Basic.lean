/-!
# Numbers with infinities

Integers, truth values and binary fractions are compared by the number they stand for, without
rounding. `Number` is that common ground: the rationals, two infinities and one value that stands
in no order to any number.
-/

namespace RowMapper

/-- The number that a numeric value stands for. -/
inductive Number where
  | undefined
  | infinite (negative : Bool)
  | finite (value : Rat)
  deriving DecidableEq

namespace Number

/-- The order of two numbers; `undefined` has none. -/
def compare? : Number → Number → Option Ordering
  | .undefined, _ => none
  | _, .undefined => none
  | .infinite a, .infinite b =>
      some (if a = b then .eq else if a then .lt else .gt)
  | .infinite a, .finite _ => some (if a then .lt else .gt)
  | .finite _, .infinite b => some (if b then .gt else .lt)
  | .finite a, .finite b => some (if a = b then .eq else if a < b then .lt else .gt)

/-- Equality of numbers, which `undefined` does not satisfy with anything. -/
def equal (a b : Number) : Bool :=
  a.compare? b = some .eq

@[simp] theorem equal_finite (a b : Rat) : (finite a).equal (.finite b) = decide (a = b) := by
  unfold equal compare?
  by_cases h : a = b
  · simp [h]
  · by_cases h' : a < b <;> simp [h, h']

end Number

end RowMapper
