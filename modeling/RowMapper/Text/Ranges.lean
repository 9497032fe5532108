/-!
# Sets of characters given by code point ranges

The character properties of this library are data of the Unicode standard. Each is a list of
closed ranges of code points, and membership is a search of that list.
-/

namespace RowMapper.Text

/-- A set of characters: closed ranges of code points in increasing order. -/
abbrev Ranges := List (Nat × Nat)

namespace Ranges

/-- Whether a character lies in one of the ranges. -/
def contains (ranges : Ranges) (c : Char) : Bool :=
  ranges.any fun range => range.1 ≤ c.toNat && c.toNat ≤ range.2

theorem contains_eq_true {ranges : Ranges} {c : Char} :
    ranges.contains c = true ↔ ∃ range ∈ ranges, range.1 ≤ c.toNat ∧ c.toNat ≤ range.2 := by
  simp [contains, List.any_eq_true]

end Ranges

end RowMapper.Text
