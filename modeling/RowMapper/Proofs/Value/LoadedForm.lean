import RowMapper.Proofs.Json.RoundTrip
import RowMapper.Proofs.Value.StoredForm

/-!
# Values and their loaded forms

A column gives a value back as it was before it was stored, as long as the value is one that the
column is for. Columns of truth values are for these alone, columns of JSON texts for the values
that such texts hold, and the others for whatever equals itself. Null is kept everywhere.
-/

namespace RowMapper

namespace Column

variable {column : Column} {v stored : Value}

/-- Whether a value is one that the column is for. -/
def Fits (column : Column) (v : Value) : Prop :=
  match column.type with
  | .boolean => v = .null ∨ ∃ b, v = .bool b
  | .json => Json.IsDocument Json.maxDepth v
  | _ => v.equal v = true

/-- Nothing is stored for null, and null is loaded for nothing. -/
theorem loads_null (column : Column) (converted : column.toStorage .null = .ok stored) :
    column.fromStorage stored = .ok .null := by
  cases converted
  rfl

/-- A truth value is stored as a number that counts as true just when it does. -/
theorem loads_bool (boolean : column.type = .boolean) {b : Bool}
    (converted : column.toStorage (.bool b) = .ok stored) :
    column.fromStorage stored = .ok (.bool b) := by
  simp only [toStorage, Value.isNull, boolean] at converted
  cases converted
  cases b <;> simp [fromStorage, Value.isNull, boolean, Value.truthy]

/-- A document is stored as its text, from which an equal value is read. -/
theorem loads_document (json : column.type = .json) (notNull : v.isNull = false)
    (document : Json.IsDocument Json.maxDepth v) (converted : column.toStorage v = .ok stored) :
    ∃ w, column.fromStorage stored = .ok w ∧ w.equal v = true := by
  obtain ⟨text, w, written, read, equal⟩ := Json.exists_readString_of_document document
  simp only [toStorage, notNull, json, written] at converted
  cases converted
  refine ⟨w, ?_, equal⟩
  simp only [fromStorage, Value.isNull, json]
  exact read

/-- Where values are stored as they are, what is stored is loaded, and it equals the value. -/
theorem loads_other (notBoolean : column.type ≠ .boolean) (notJson : column.type ≠ .json)
    (itself : v.equal v = true) (converted : column.toStorage v = .ok stored) :
    column.fromStorage stored = .ok stored ∧ stored.equal v = true := by
  have same : column.fromStorage stored = .ok stored := by
    cases type : column.type with
    | boolean => exact absurd type notBoolean
    | json => exact absurd type notJson
    | _ => cases stored <;> simp [fromStorage, type, Value.isNull]
  refine ⟨same, ?_⟩
  rw [toStorage_of_other notBoolean notJson] at converted
  cases converted
  cases v with
  | bool b => cases b <;> decide
  | _ => exact itself

/-- What is stored for a value that fits a column is loaded as an equal value. -/
theorem Fits.exists_fromStorage (fits : column.Fits v)
    (converted : column.toStorage v = .ok stored) :
    ∃ w, column.fromStorage stored = .ok w ∧ w.equal v = true := by
  by_cases isNull : v = .null
  · rw [isNull] at converted ⊢
    exact ⟨.null, column.loads_null converted, rfl⟩
  · have notNull : v.isNull = false := by
      rw [Bool.eq_false_iff]
      exact fun null => isNull (Value.isNull_eq_true.mp null)
    rw [Fits] at fits
    split at fits
    next boolean =>
      rcases fits with null | ⟨b, isBool⟩
      · exact absurd null isNull
      · rw [isBool] at converted ⊢
        exact ⟨.bool b, loads_bool boolean converted, by cases b <;> decide⟩
    next json => exact loads_document json notNull fits converted
    next notBoolean notJson => exact ⟨stored, loads_other notBoolean notJson fits converted⟩

end Column

end RowMapper
