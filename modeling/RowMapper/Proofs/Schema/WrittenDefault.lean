import RowMapper.Proofs.Schema.SameSignature

/-!
# Defaults in column definitions

The storage check lets only certain defaults through for each type of column, and of these some are
written into the definition and some are not. `Column.WritesDefault` lists what is written, one case
for each form: null where the column takes it, numbers, truth values, texts and times.
-/

namespace RowMapper

open Sql

/-- Texts with different first characters differ. -/
theorem Sql.ne_of_head?_ne {a b : String} (apart : a.toList.head? ≠ b.toList.head?) : a ≠ b := by
  rintro rfl
  exact apart rfl

/-- How a default stands in the definition of an accepted column. -/
inductive Column.WritesDefault (column : Column) : Value → String → Prop
  | null : column.nullable.truthy = true → column.WritesDefault .null "NULL"
  | whole (n : Int) : column.type = .integer ∨ column.type = .bigint ∨ column.type = .timestamp ∨
      column.type = .float → column.WritesDefault (.int n) (decimalText n)
  | fraction (x : Binary64) : column.type = .float → column.WritesDefault (.float x) x.text
  | truth (b : Bool) : column.type = .boolean →
      column.WritesDefault (.bool b) (if b then "1" else "0")
  | text (s : String) : column.type = .string →
      column.WritesDefault (.text s) (quoteLiteral s)
  | member (type : FieldType) : column.type = .string →
      column.WritesDefault (.fieldType type) (quoteLiteral (Value.fieldType type).display)
  | time (t : Timestamp) : column.type = .datetime →
      column.WritesDefault (.timestamp t) (quoteLiteral t.literalText)

namespace Column

variable {column : Column} {sql : String}

theorem WritesDefault.of_null (isNull : column.default = .null)
    (takes : column.nullable.truthy = true) : column.WritesDefault column.default "NULL" := by
  rw [isNull]
  exact .null takes

/-- A truth value is written as the number that stands for it. -/
theorem truthText_eq (b : Bool) :
    (if b then "1" else "0") = decimalText (if b then 1 else 0) := by
  cases b <;> rfl

theorem ne_of_wholeType (type : column.type = .integer ∨ column.type = .bigint ∨
    column.type = .timestamp ∨ column.type = .float) :
    column.type ≠ .text ∧ column.type ≠ .json ∧ column.type ≠ .boolean ∧
      column.type ≠ .datetime := by
  rcases type with type | type | type | type <;> rw [type] <;> decide

theorem WritesDefault.defaultSql?_eq (writes : column.WritesDefault column.default sql) :
    column.defaultSql? = some sql := by
  rw [defaultSql?]
  generalize column.default = v at writes
  cases writes with
  | null takes => simp [takes]
  | whole n type => rcases type with type | type | type | type <;> simp [type]
  | fraction x type => simp [type]
  | truth b type => simp [type]
  | text s type => simp [type, Value.display]
  | member named type => simp [type]
  | time t type => simp [type]

/-- Of the defaults that are no plain data, only null is written. -/
theorem writesDefault_of_marker (marker : column.default.isPlainData = false)
    (written : column.defaultSql? = some sql) : column.WritesDefault column.default sql := by
  rw [defaultSql?] at written
  generalize column.default = v at marker written
  cases v with
  | null =>
      dsimp only at written
      split at written
      next takes =>
        cases written
        exact .null takes
      next => cases written
  | unset | currentTime | routine => cases written
  | _ => cases marker

/-- Just those defaults of an accepted column are written that have a written form. -/
theorem defaultSql?_eq_some_iff (accepted : column.verdict = .ok) :
    column.defaultSql? = some sql ↔ column.WritesDefault column.default sql := by
  refine ⟨fun written => ?_, WritesDefault.defaultSql?_eq⟩
  cases plain : column.default.isPlainData with
  | false => exact writesDefault_of_marker plain written
  | true =>
      have default := default_of_accepted accepted plain
      cases type : column.type with
      | string =>
          rw [type] at default
          obtain ⟨s, isText⟩ := default
          rw [defaultSql?, type] at written
          generalize column.default = v at isText written
          cases v with
          | text s =>
              cases written
              exact .text s type
          | fieldType named =>
              cases written
              exact .member named type
          | _ => cases isText
      | text =>
          rw [type] at default
          obtain ⟨s, isText⟩ := default
          rw [defaultSql?_of_text type isText] at written
          cases written
      | json =>
          rw [defaultSql?_of_json type plain] at written
          cases written
      | float =>
          rw [type] at default
          rw [defaultSql?, type] at written
          rcases default with ⟨n, isInt⟩ | ⟨x, isFloat⟩
          · rw [isInt] at written ⊢
            rw [← Option.some.inj written]
            exact .whole n (.inr (.inr (.inr type)))
          · rw [isFloat] at written ⊢
            rw [← Option.some.inj written]
            exact .fraction x type
      | datetime =>
          rw [type] at default
          obtain ⟨t, isTime⟩ := default
          rw [defaultSql?, type, isTime] at written
          rw [isTime, ← Option.some.inj written]
          exact .time t type
      | boolean =>
          rw [type] at default
          obtain ⟨b, isBool⟩ := default
          rw [defaultSql?, type, isBool] at written
          rw [isBool, ← Option.some.inj written]
          exact .truth b type
      | _ =>
          rw [type] at default
          obtain ⟨n, isInt⟩ := default
          rw [defaultSql?, type, isInt] at written
          rw [isInt, ← Option.some.inj written]
          exact .whole n (by simp [type])

end Column

end RowMapper
