import RowMapper.Number.Decimal
import RowMapper.Proofs.Sql.BoundText

/-!
# Numeric literals

A numeric literal is a sign, decimal digits, a fraction and an exponent, of which only the digits
have to be there. Integers are written as such literals, and so are decimals in every layout, hence
every finite binary fraction. Infinities and what is no number are written as names.
-/

namespace RowMapper

namespace Sql

/-- Whether a text is decimal digits, one at least. -/
structure IsDigits (cs : List Char) : Prop where
  nonempty : cs ≠ []
  digits : ∀ c ∈ cs, c.isDigit = true

/-- Whether a text is a sign, or is empty. -/
inductive IsSign : List Char → Prop
  | none : IsSign []
  | plus : IsSign ['+']
  | minus : IsSign ['-']

/-- Whether a text is a point with digits behind it, or is empty. -/
inductive IsFraction : List Char → Prop
  | none : IsFraction []
  | some {digits : List Char} : IsDigits digits → IsFraction ('.' :: digits)

/-- Whether a text is the mark of an exponent with an integer behind it, or is empty. -/
inductive IsExponent : List Char → Prop
  | none : IsExponent []
  | some {mark : Char} {sign digits : List Char} : mark = 'e' ∨ mark = 'E' → IsSign sign →
      IsDigits digits → IsExponent (mark :: (sign ++ digits))

/-- Whether a text is digits with perhaps a fraction and an exponent behind them. -/
def IsUnsignedLiteral (cs : List Char) : Prop :=
  ∃ whole fraction exponent, cs = whole ++ (fraction ++ exponent) ∧ IsDigits whole ∧
    IsFraction fraction ∧ IsExponent exponent

/-- Whether a text is a numeric literal. -/
def IsNumericLiteral (cs : List Char) : Prop :=
  ∃ sign number, cs = sign ++ number ∧ IsSign sign ∧ IsUnsignedLiteral number

namespace IsDigits

variable {cs more : List Char}

theorem append (digits : IsDigits cs) (others : ∀ c ∈ more, c.isDigit = true) :
    IsDigits (cs ++ more) where
  nonempty := by simp [digits.nonempty]
  digits := List.forall_mem_append.mpr ⟨digits.digits, others⟩

theorem append_left (others : ∀ c ∈ more, c.isDigit = true) (digits : IsDigits cs) :
    IsDigits (more ++ cs) where
  nonempty := by simp [digits.nonempty]
  digits := List.forall_mem_append.mpr ⟨others, digits.digits⟩

theorem take (digits : IsDigits cs) {count : Nat} (positive : 0 < count) :
    IsDigits (cs.take count) where
  nonempty := by
    rw [Ne, List.take_eq_nil_iff]
    exact not_or.mpr ⟨Nat.ne_of_gt positive, digits.nonempty⟩
  digits := fun c member => digits.digits c (List.mem_of_mem_take member)

theorem drop (digits : IsDigits cs) {count : Nat} (inside : count < cs.length) :
    IsDigits (cs.drop count) where
  nonempty := by
    rw [Ne, List.drop_eq_nil_iff]
    exact Nat.not_le.mpr inside
  digits := fun c member => digits.digits c (List.mem_of_mem_drop member)

end IsDigits

theorem isDigits_repr (n : Nat) : IsDigits (Nat.repr n).toList where
  nonempty := by simp [Nat.toDigits_ne_nil]
  digits := fun c member => isDigit_of_mem_repr member

theorem IsDigits.isUnsignedLiteral {cs : List Char} (digits : IsDigits cs) :
    IsUnsignedLiteral cs :=
  ⟨cs, [], [], by simp, digits, .none, .none⟩

namespace IsUnsignedLiteral

variable {cs : List Char}

theorem isNumericLiteral (literal : IsUnsignedLiteral cs) : IsNumericLiteral cs :=
  ⟨[], cs, rfl, .none, literal⟩

theorem minus_cons (literal : IsUnsignedLiteral cs) : IsNumericLiteral ('-' :: cs) :=
  ⟨['-'], cs, rfl, .minus, literal⟩

end IsUnsignedLiteral

/-- Of letters, only the marks of an exponent stand in a numeric literal. -/
theorem IsNumericLiteral.notMem_of_letter {cs : List Char} (literal : IsNumericLiteral cs)
    {c : Char} (notDigit : c.isDigit = false) (other : c ∉ ['+', '-', '.', 'e', 'E']) : c ∉ cs := by
  have ofDigits {digits : List Char} (isDigits : IsDigits digits) : c ∉ digits := by
    intro member
    rw [isDigits.digits c member] at notDigit
    cases notDigit
  have ofSign {sign : List Char} (isSign : IsSign sign) : c ∉ sign := by
    cases isSign <;> simp_all
  simp only [List.mem_cons, List.not_mem_nil, or_false, not_or] at other
  obtain ⟨sign, _, rfl, isSign, whole, fraction, exponent, rfl, digits, isFraction, isExponent⟩ :=
    literal
  simp only [List.mem_append, not_or]
  refine ⟨ofSign isSign, ofDigits digits, ?_, ?_⟩
  · cases isFraction with
    | none => simp
    | some places => simp [ofDigits places, other]
  · cases isExponent with
    | none => simp
    | some isMark isSign power =>
        rcases isMark with rfl | rfl <;> simp [ofDigits power, ofSign isSign, other]

end Sql

open Sql

theorem isNumericLiteral_decimalText (n : Int) : IsNumericLiteral (decimalText n).toList := by
  have literal := (isDigits_repr n.natAbs).isUnsignedLiteral
  rw [decimalText]
  split
  · rw [String.toList_append]
    exact literal.minus_cons
  · exact literal.isNumericLiteral

/-- Every layout of a decimal is a literal without a sign. -/
theorem Decimal.isUnsignedLiteral_render (layout : Layout) (decimal : Decimal) :
    IsUnsignedLiteral (decimal.render layout) := by
  have digits := isDigits_repr decimal.coefficient
  have padding (count : Nat) : ∀ c ∈ zeros count, c.isDigit = true := by
    intro c member
    rw [(List.mem_replicate.mp member).2]
    decide
  simp only [render]
  generalize (Nat.repr decimal.coefficient).toList = text at digits
  generalize (text.length : Int) + decimal.exponent = point
  split
  · split
    · exact ⟨['0'], '.' :: (zeros (-point).toNat ++ text), [], by simp, ⟨by simp, by simp⟩,
        .some (digits.append_left (padding _)), .none⟩
    next positive =>
      split
      · exact ⟨text ++ zeros (point.toNat - text.length), ['.', '0'], [], by simp,
          digits.append (padding _), .some ⟨by simp, by simp⟩, .none⟩
      next inside =>
        exact ⟨text.take point.toNat, '.' :: text.drop point.toNat, [], by simp,
          digits.take (by omega), .some (digits.drop (by omega)), .none⟩
  · have power := (isDigits_repr (point - 1).natAbs).append_left
      (padding (layout.width - (Nat.repr (point - 1).natAbs).toList.length))
    have sign : IsSign [if point - 1 < 0 then '-' else '+'] := by
      split
      · exact .minus
      · exact .plus
    have fraction : IsFraction (if text.length = 1 then [] else '.' :: text.drop 1) := by
      split
      · exact .none
      next more =>
        have present := List.length_pos_iff.mpr digits.nonempty
        exact .some (digits.drop (by omega))
    exact ⟨_, _, _, by simp, digits.take Nat.zero_lt_one, fraction, .some (.inl rfl) sign power⟩

namespace Binary64

/-- Whether a value is a number and no infinity. -/
def isFinite : Binary64 → Bool
  | .finite .. => true
  | _ => false

/-- The text of a value is a numeric literal just when the value is finite. -/
theorem isNumericLiteral_text_iff (x : Binary64) :
    IsNumericLiteral x.text.toList ↔ x.isFinite = true := by
  have named (name : String) (letter : 'n' ∈ name.toList) : ¬ IsNumericLiteral name.toList :=
    fun literal => literal.notMem_of_letter (by decide) (by decide) letter
  cases x with
  | nan mark => exact iff_of_false (named "nan" (by decide)) Bool.false_ne_true
  | infinite negative =>
      refine iff_of_false ?_ Bool.false_ne_true
      cases negative with
      | false => exact named "inf" (by decide)
      | true => exact named "-inf" (by decide)
  | finite negative mantissa exponent =>
      refine iff_of_true ?_ rfl
      have unsigned : IsUnsignedLiteral (if mantissa = 0 then ['0', '.', '0']
          else (Decimal.shortest mantissa exponent).render .standard) := by
        split
        · exact ⟨['0'], ['.', '0'], [], rfl, ⟨by simp, by simp⟩, .some ⟨by simp, by simp⟩, .none⟩
        · exact Decimal.isUnsignedLiteral_render _ _
      rw [text, String.toList_ofList]
      split
      · exact unsigned.minus_cons
      · exact unsigned.isNumericLiteral

end Binary64

end RowMapper
