import RowMapper.Proofs.Value.StoredForm
import RowMapper.Schema.Signature

/-!
# What equal values have in common

Values that are the same item of a container are the same text or the same number and count as true
together. Values that agree in a signature are the same item unless they are routines, and what is
no plain data agrees with itself alone.
-/

namespace RowMapper

/-- Numbers that are equal are the same number. -/
theorem Number.eq_of_equal {a b : Number} (equal : a.equal b = true) : a = b := by
  cases a with
  | undefined => cases equal
  | infinite negative =>
      cases b with
      | undefined => cases equal
      | infinite other =>
          cases negative <;> cases other <;> first | rfl | cases equal
      | finite value => cases negative <;> cases equal
  | finite value =>
      cases b with
      | undefined => cases equal
      | infinite other => cases other <;> cases equal
      | finite other =>
          rw [equal_finite, decide_eq_true_eq] at equal
          rw [equal]

namespace Value

/-- Whether a value is plain data, which stands for itself as a default. -/
def isPlainData : Value → Bool
  | .null | .unset | .currentTime | .routine .. => false
  | _ => true

theorem text?_of_sameItem {v w : Value} (same : v.sameItem w = true) : v.text? = w.text? := by
  cases written : w.text? with
  | some s => exact (sameItem_of_text? written).mp same
  | none =>
      cases v with
      | text s => simp [sameItem, written] at same
      | fieldType type => simp [sameItem, written] at same
      | _ => rfl

/-- A number counts as true unless it is zero. -/
theorem truthy_of_number? {v : Value} {a : Number} (number : v.number? = some a) :
    v.truthy = true ↔ a ≠ .finite 0 := by
  cases v with
  | bool b =>
      cases number
      cases b <;> simp [truthy]
  | int n =>
      cases number
      simp [truthy]
  | float x =>
      cases number
      cases x with
      | finite negative mantissa exponent =>
          rw [Ne, Binary64.toNumber_finite_eq_zero]
          simp [truthy, Binary64.isZero]
      | _ => simp [truthy, Binary64.isZero, Binary64.toNumber]
  | _ => cases number

/-- What is the same item as a number stands for that number. -/
theorem number?_of_sameItem {v w : Value} {a : Number} (number : v.number? = some a)
    (same : v.sameItem w = true) : w.number? = some a := by
  have compared {b : Number} (other : w.number? = some b) (equal : a.equal b = true) :
      w.number? = some a := by
    rw [other, Number.eq_of_equal equal]
  cases v with
  | bool b =>
      cases number
      cases w with
      | bool _ | int _ | float _ => exact compared rfl same
      | _ => cases same
  | int n =>
      cases number
      cases w with
      | bool _ | int _ | float _ => exact compared rfl same
      | _ => cases same
  | float x =>
      cases number
      cases x with
      | nan mark =>
          cases w with
          | float y =>
              cases y with
              | nan other => rfl
              | _ => cases same
          | _ => cases same
      | _ =>
          cases w with
          | bool _ | int _ | float _ => exact compared rfl same
          | _ => cases same
  | _ => cases number

theorem truthy_of_text? {v : Value} {s : String} (text : v.text? = some s) :
    v.truthy = !s.isEmpty := by
  cases v with
  | text t => cases text; rfl
  | fieldType type => cases text; cases type <;> rfl
  | _ => cases text

/-- Values that are the same item count as true together. -/
theorem truthy_of_sameItem {v w : Value} (same : v.sameItem w = true) : v.truthy = w.truthy := by
  have ofTexts {s : String} (text : v.text? = some s) : v.truthy = w.truthy := by
    rw [truthy_of_text? text, truthy_of_text? ((text?_of_sameItem same).symm.trans text)]
  have ofNumbers {a : Number} (number : v.number? = some a) : v.truthy = w.truthy := by
    rw [Bool.eq_iff_iff, truthy_of_number? number,
      truthy_of_number? (number?_of_sameItem number same)]
  have ofItems {as bs : List Value} (items : sameItems as bs = true) :
      as.isEmpty = bs.isEmpty := by
    cases as with
    | nil => cases bs with | nil => rfl | cons b bs => cases items
    | cons a as => cases bs with | nil => cases items | cons b bs => rfl
  have ofLengths {α : Type} {as bs : List α} {rest : Bool}
      (lengths : (as.length == bs.length && rest) = true) : as.isEmpty = bs.isEmpty := by
    rw [Bool.and_eq_true, beq_iff_eq] at lengths
    rw [Bool.eq_iff_iff, List.isEmpty_iff_length_eq_zero, List.isEmpty_iff_length_eq_zero,
      lengths.1]
  cases v with
  | text s => exact ofTexts rfl
  | fieldType type => exact ofTexts rfl
  | bool b => exact ofNumbers rfl
  | int n => exact ofNumbers rfl
  | float x => exact ofNumbers rfl
  | octets as =>
      cases w with
      | octets bs => rw [beq_iff_eq.mp same]
      | _ => cases same
  | list as =>
      cases w with
      | list bs => exact congrArg not (ofItems same)
      | _ => cases same
  | tuple as =>
      cases w with
      | tuple bs => exact congrArg not (ofItems same)
      | _ => cases same
  | dict as =>
      cases w with
      | dict bs => exact congrArg not (ofLengths same)
      | _ => cases same
  | set as =>
      cases w with
      | set bs => exact congrArg not (ofLengths same)
      | _ => cases same
  | _ =>
      cases w with
      | _ => first | rfl | cases same

theorem int_eq_of_sameItem {n m : Int} (same : sameItem (.int n) (.int m) = true) : n = m := by
  have number := number?_of_sameItem rfl same
  simp only [number?, Option.some.injEq, Number.finite.injEq] at number
  exact_mod_cast number.symm

theorem freeze_of_not_callable {environment : Environment} {v : Value}
    (other : v.isCallable = false) : environment.freeze v = v := by
  cases v with
  | routine mark body arguments => cases other
  | _ => rfl

theorem agrees_of_not_callable {v w : Value} (other : v.isCallable = false) :
    v.agrees w = v.sameItem w := by
  cases v with
  | routine mark body arguments => cases other
  | _ => rfl

theorem isCallable_freeze {environment : Environment} {v : Value} :
    (environment.freeze v).isCallable = v.isCallable := by
  cases v with
  | routine mark body arguments => cases body <;> rfl
  | _ => rfl

/-- Only a routine agrees with a routine. -/
theorem isCallable_of_agrees {v w : Value} (agree : v.agrees w = true) :
    v.isCallable = w.isCallable := by
  cases v with
  | routine mark body arguments =>
      cases w with
      | routine mark' body' arguments' => rfl
      | _ => cases agree
  | float x =>
      cases w with
      | routine mark body arguments => cases x <;> cases agree
      | _ => rfl
  | _ =>
      cases w with
      | routine mark body arguments => cases agree
      | _ => rfl

/-- What a marker or null is the same item as. -/
theorem eq_of_sameItem {v w : Value} (same : v.sameItem w = true) (other : v.isCallable = false)
    (noData : v.isPlainData = false) : v = w := by
  cases v with
  | null => cases w with | null => rfl | _ => cases same
  | unset => cases w with | unset => rfl | _ => cases same
  | currentTime => cases w with | currentTime => rfl | _ => cases same
  | routine mark body arguments => cases other
  | _ => cases noData

/-- What is the same item as plain data is plain data. -/
theorem isPlainData_of_sameItem {v w : Value} (same : v.sameItem w = true)
    (plain : v.isPlainData = true) : w.isPlainData = true := by
  cases other : w.isPlainData with
  | true => rfl
  | false =>
      cases v with
      | float x => cases x <;> cases w <;> first | cases same | cases other
      | null => cases plain
      | unset => cases plain
      | currentTime => cases plain
      | routine mark body arguments => cases plain
      | _ => cases w <;> first | cases same | cases other

end Value

end RowMapper
