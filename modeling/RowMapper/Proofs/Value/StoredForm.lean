import RowMapper.Proofs.Assignments
import RowMapper.Schema.Column

/-!
# Values and their stored forms

What the database stores for a value need not equal the value. A JSON text never does, one and zero
equal a value that counts as true or false only where it is that number, and other columns store
the value itself.
-/

namespace RowMapper

namespace Json

theorem escapeChar_ne_nil (c : Char) : escapeChar c ≠ [] := by
  have escapes : (units c.toNat).flatMap unitEscape ≠ [] := by
    simp only [units]
    split <;> simp [unitEscape]
  simp only [escapeChar]
  iterate 8
    split
    · exact List.cons_ne_nil _ _
  exact escapes

theorem length_le_flatMap_escapeChar (cs : List Char) :
    cs.length ≤ (cs.flatMap escapeChar).length := by
  induction cs with
  | nil => exact Nat.zero_le _
  | cons c rest ih =>
      have written := List.length_pos_of_ne_nil (escapeChar_ne_nil c)
      rw [List.flatMap_cons, List.length_append, List.length_cons]
      omega

/-- The JSON text of a text is longer than that text. -/
theorem ofList_writeText_ne (s : String) : String.ofList (writeText s) ≠ s := by
  intro same
  have chars := congrArg String.toList same
  rw [String.toList_ofList] at chars
  have length := congrArg List.length chars
  have longer := length_le_flatMap_escapeChar s.toList
  simp only [writeText, List.cons_append, List.length_cons, List.length_append,
    List.length_nil] at length
  omega

/-- No value equals its own JSON text. -/
theorem equal_text_of_write {v : Value} {text : List Char} (written : write v = .ok text) :
    v.equal (.text (.ofList text)) = false := by
  rw [Bool.eq_false_iff]
  intro equal
  have same := Value.sameItem_of_equal equal
  rw [Value.sameItem_of_text? rfl] at same
  cases v with
  | text s =>
      cases written
      exact ofList_writeText_ne s (Option.some.inj same).symm
  | fieldType type =>
      cases written
      exact ofList_writeText_ne type.name (Option.some.inj same).symm
  | _ => cases same

end Json

namespace Binary64

theorem twoPower_pos (exponent : Int) :
    0 < (twoPower exponent).1 ∧ 0 < (twoPower exponent).2 := by
  simp only [twoPower]
  split
  · exact ⟨Nat.pow_pos (by decide), Nat.one_pos⟩
  · exact ⟨Nat.one_pos, Nat.pow_pos (by decide)⟩

theorem signed_eq_zero {negative : Bool} {n : Nat} : signed negative n = 0 ↔ n = 0 := by
  cases negative with
  | false => simp [signed]
  | true => simp [signed]

/-- A finite value stands for zero just when its mantissa is zero. -/
theorem toNumber_finite_eq_zero (negative : Bool) (mantissa : Nat) (exponent : Int) :
    toNumber (.finite negative mantissa exponent) = .finite 0 ↔ mantissa = 0 := by
  obtain ⟨numerator, denominator⟩ := twoPower_pos exponent
  simp only [toNumber, Number.finite.injEq, Rat.mkRat_eq_zero (Nat.ne_of_gt denominator),
    signed_eq_zero, Nat.mul_eq_zero]
  constructor
  · rintro (zero | impossible)
    · exact zero
    · exact absurd impossible (Nat.ne_of_gt numerator)
  · exact .inl

end Binary64

namespace Value

/-- A value that equals an integer stands for that number. -/
theorem number?_of_equal_int {v : Value} {n : Int} (equal : v.equal (.int n) = true) :
    v.number? = some (.finite n) := by
  have same : ∀ number : Number, number.equal (.finite n) = true → number = .finite n := by
    intro number equal
    cases number with
    | undefined => exact absurd equal (by simp [Number.equal, Number.compare?])
    | infinite negative =>
        cases negative <;> exact absurd equal (by simp [Number.equal, Number.compare?])
    | finite value =>
        rw [Number.equal_finite, decide_eq_true_eq] at equal
        rw [equal]
  cases v with
  | bool b => exact congrArg some (same _ equal)
  | int m => exact congrArg some (same _ equal)
  | float x =>
      cases x with
      | nan mark => cases equal
      | infinite negative => exact congrArg some (same _ equal)
      | finite negative mantissa exponent => exact congrArg some (same _ equal)
  | _ => cases equal

/-- No sequence equals an integer. -/
theorem equal_int_of_sequence? {v : Value} {items : List Value} (n : Int)
    (sequence : v.sequence? = some items) : v.equal (.int n) = false := by
  cases v with
  | list others => rfl
  | tuple others => rfl
  | _ => cases sequence

/-- A value that equals an integer counts as true just when the integer is not zero. -/
theorem truthy_of_equal_int {v : Value} {n : Int} (equal : v.equal (.int n) = true) :
    v.truthy = true ↔ n ≠ 0 := by
  have number := number?_of_equal_int equal
  cases v with
  | bool b =>
      have same : (if b then 1 else 0 : Rat) = n := by simpa [number?] using number
      cases b with
      | false =>
          have stands : (n : Rat) = 0 := by simpa using same.symm
          simp [truthy, Rat.intCast_eq_zero_iff.mp stands]
      | true =>
          have stands : (n : Rat) = 1 := by simpa using same.symm
          have one : n = 1 := by exact_mod_cast stands
          simp [truthy, one]
  | int m =>
      have same : m = n := by simpa [number?] using number
      simp [truthy, same]
  | float x =>
      cases x with
      | nan mark => cases equal
      | infinite negative => cases number
      | finite negative mantissa exponent =>
          have stands : (Binary64.finite negative mantissa exponent).toNumber = .finite n :=
            Option.some.inj number
          have zero := Binary64.toNumber_finite_eq_zero negative mantissa exponent
          rw [stands, Number.finite.injEq, Rat.intCast_eq_zero_iff] at zero
          simp [truthy, Binary64.isZero, ← zero]
  | _ => cases number

end Value

namespace Column

/-- Columns that are neither of truth values nor of JSON texts store a value as it is, apart from
truth values. -/
theorem toStorage_of_other {column : Column} {v : Value} (notBoolean : column.type ≠ .boolean)
    (notJson : column.type ≠ .json) :
    column.toStorage v =
      .ok (match v with
        | .bool b => .int (if b then 1 else 0)
        | _ => v) := by
  cases type : column.type with
  | boolean => exact absurd type notBoolean
  | json => exact absurd type notJson
  | _ => cases v <;> simp [toStorage, type, Value.isNull]

end Column

end RowMapper
