import RowMapper.Proofs.Schema.QuotedDefinition
import RowMapper.Proofs.Sql.NumericLiteral

/-!
# Clauses of a column definition

Behind its type a column definition has clauses: that null is ruled out, that the database
generates the values, a default and a comment. Each is written for a reason of its own, and nothing
compares them. So two of them can clash, and the statements below say for which columns they do:
when the key has null as its default, when a generated column has a default that is written, and
when the default is a binary fraction that is not finite, whose text the database takes for a name.
-/

namespace RowMapper

open Sql

namespace Sql

/-- Whether a text is null, a string literal or a numeric literal. -/
def IsConstant (sql : String) : Prop :=
  sql = "NULL" ∨ (∃ s, sql = quoteLiteral s) ∨ IsNumericLiteral sql.toList

theorem ne_null_of_number {sql : String} (number : ∀ c ∈ sql.toList, isNumberTextChar c = true) :
    sql ≠ "NULL" := by
  rintro rfl
  exact absurd (number 'N' (by decide)) (by decide)

theorem ne_quoteLiteral_of_number {sql : String}
    (number : ∀ c ∈ sql.toList, isNumberTextChar c = true) (s : String) : sql ≠ quoteLiteral s := by
  rintro rfl
  exact absurd (number '\'' (by simp [quoteLiteralChars])) (by decide)

theorem quoteLiteral_ne_null (s : String) : quoteLiteral s ≠ "NULL" :=
  ne_of_head?_ne (by simp [quoteLiteralChars])

end Sql

/-- Whether clauses rule null out and make it the default. -/
def DefaultsToExcludedNull (clauses : List String) : Prop :=
  "NOT NULL" ∈ clauses ∧ "DEFAULT NULL" ∈ clauses

/-- Whether clauses have the database generate the values and give a default as well. -/
def DefaultsGeneratedValues (clauses : List String) : Prop :=
  "AUTO_INCREMENT" ∈ clauses ∧ ∃ sql, "DEFAULT " ++ sql ∈ clauses

/-- Whether clauses give nothing but constants as default. -/
def DefaultsToConstant (clauses : List String) : Prop :=
  ∀ sql, "DEFAULT " ++ sql ∈ clauses → IsConstant sql

namespace Column

variable {column : Column} {comment : Option String}

/-- Whether the default of the column is written into its definition. -/
def HasWrittenDefault (column : Column) : Prop :=
  (column.default = .null ∧ column.nullable.truthy = true) ∨
    (column.default.isPlainData = true ∧ column.type ≠ .text ∧ column.type ≠ .json)

/-- Whether the default of the column is a binary fraction that is not finite. -/
def HasNonFiniteDefault (column : Column) : Prop :=
  column.type = .float ∧ ∃ x, column.default = .float x ∧ x.isFinite = false

/-! ## Which clauses there are -/

theorem mem_clauses_iff {clause : String} :
    clause ∈ column.clauses comment ↔
      (clause = "NOT NULL" ∧ (column.isPrimaryKey = true ∨ column.nullable.truthy = false)) ∨
      (clause = "AUTO_INCREMENT" ∧ column.isAutoIncrement = true) ∨
      (∃ sql, column.defaultSql? = some sql ∧ clause = "DEFAULT " ++ sql) ∨
      ∃ sql, comment = some sql ∧ clause = "COMMENT " ++ sql := by
  have flagged {flag : Prop} [Decidable flag] {text : String} :
      clause ∈ (if flag then [text] else []) ↔ clause = text ∧ flag := by
    split <;> simp [*]
  simp only [clauses, List.mem_append, Option.mem_toList, Option.map_eq_some_iff, flagged,
    Bool.or_eq_true, Bool.not_eq_true', or_assoc, eq_comm (b := clause)]

theorem notNull_mem_clauses_iff :
    "NOT NULL" ∈ column.clauses comment ↔
      column.isPrimaryKey = true ∨ column.nullable.truthy = false := by
  have notDefault (sql : String) : "NOT NULL" ≠ "DEFAULT " ++ sql := ne_of_head?_ne (by simp)
  have notComment (sql : String) : "NOT NULL" ≠ "COMMENT " ++ sql := ne_of_head?_ne (by simp)
  simp [mem_clauses_iff, notDefault, notComment]

theorem autoIncrement_mem_clauses_iff :
    "AUTO_INCREMENT" ∈ column.clauses comment ↔ column.isAutoIncrement = true := by
  have notDefault (sql : String) : "AUTO_INCREMENT" ≠ "DEFAULT " ++ sql :=
    ne_of_head?_ne (by simp)
  have notComment (sql : String) : "AUTO_INCREMENT" ≠ "COMMENT " ++ sql :=
    ne_of_head?_ne (by simp)
  simp [mem_clauses_iff, notDefault, notComment]

theorem default_mem_clauses_iff {sql : String} :
    "DEFAULT " ++ sql ∈ column.clauses comment ↔ column.defaultSql? = some sql := by
  have notNull : "DEFAULT " ++ sql ≠ "NOT NULL" := ne_of_head?_ne (by simp)
  have notIncrement : "DEFAULT " ++ sql ≠ "AUTO_INCREMENT" := ne_of_head?_ne (by simp)
  have notComment (text : String) : "DEFAULT " ++ sql ≠ "COMMENT " ++ text :=
    ne_of_head?_ne (by simp)
  simp [mem_clauses_iff, notNull, notIncrement, notComment, String.append_right_inj]

/-! ## What is written for a default -/

/-- What is written for a default is null for null, else a string literal or a number. -/
theorem WritesDefault.forms {sql : String} (writes : column.WritesDefault column.default sql) :
    (column.default = .null ∧ column.nullable.truthy = true ∧ sql = "NULL") ∨
      (column.default.isPlainData = true ∧ column.type ≠ .text ∧ column.type ≠ .json ∧
        ((¬ column.HasNonFiniteDefault ∧ ∃ s, sql = quoteLiteral s) ∨
          ((∀ c ∈ sql.toList, isNumberTextChar c = true) ∧
            (IsNumericLiteral sql.toList ↔ ¬ column.HasNonFiniteDefault)))) := by
  rw [HasNonFiniteDefault]
  generalize column.default = v at writes
  cases writes with
  | null takes => exact .inl ⟨rfl, takes, rfl⟩
  | whole n type =>
      have literal := isNumericLiteral_decimalText n
      obtain ⟨notText, notJson, _⟩ := ne_of_wholeType type
      exact .inr ⟨rfl, notText, notJson,
        .inr ⟨isNumberTextChar_decimalText n, iff_of_true literal (by simp)⟩⟩
  | fraction x type =>
      -- Of all that is written, only this text may be no constant.
      exact .inr ⟨rfl, by simp [type], by simp [type],
        .inr ⟨x.isNumberTextChar_text, by simp [x.isNumericLiteral_text_iff, type]⟩⟩
  | truth b type =>
      rw [truthText_eq]
      have literal := isNumericLiteral_decimalText (if b then 1 else 0)
      exact .inr ⟨rfl, by simp [type], by simp [type],
        .inr ⟨isNumberTextChar_decimalText _, iff_of_true literal (by simp)⟩⟩
  | text s type => exact .inr ⟨rfl, by simp [type], by simp [type], .inl ⟨by simp, s, rfl⟩⟩
  | member named type =>
      exact .inr ⟨rfl, by simp [type], by simp [type], .inl ⟨by simp, _, rfl⟩⟩
  | time t type => exact .inr ⟨rfl, by simp [type], by simp [type], .inl ⟨by simp, _, rfl⟩⟩

/-- Null is written just for null. -/
theorem WritesDefault.eq_null_iff {sql : String}
    (writes : column.WritesDefault column.default sql) :
    sql = "NULL" ↔ column.default = .null ∧ column.nullable.truthy = true := by
  rcases writes.forms with ⟨isNull, takes, rfl⟩ | ⟨plain, _, _, form⟩
  · exact iff_of_true rfl ⟨isNull, takes⟩
  · have notNull : ¬ (column.default = .null ∧ column.nullable.truthy = true) := by
      rintro ⟨isNull, _⟩
      rw [isNull] at plain
      cases plain
    refine iff_of_false ?_ notNull
    rcases form with ⟨_, s, rfl⟩ | ⟨number, _⟩
    · exact quoteLiteral_ne_null s
    · exact ne_null_of_number number

/-- Constants are written for all defaults but binary fractions that are not finite. -/
theorem WritesDefault.isConstant_iff {sql : String}
    (writes : column.WritesDefault column.default sql) :
    IsConstant sql ↔ ¬ column.HasNonFiniteDefault := by
  rcases writes.forms with ⟨isNull, _, rfl⟩ | ⟨_, _, _, form⟩
  · refine iff_of_true (.inl rfl) ?_
    rintro ⟨_, x, isFloat, _⟩
    rw [isNull] at isFloat
    cases isFloat
  · rcases form with ⟨finite, s, rfl⟩ | ⟨number, literal_iff⟩
    · exact iff_of_true (.inr (.inl ⟨s, rfl⟩)) finite
    · rw [IsConstant, ← literal_iff]
      constructor
      · rintro (isNull | ⟨s, isLiteral⟩ | literal)
        · exact absurd isNull (ne_null_of_number number)
        · exact absurd isLiteral (ne_quoteLiteral_of_number number s)
        · exact literal
      · exact fun literal => .inr (.inr literal)

/-- The default of an accepted column is written, unless it is produced for each record, or is that
of a text or JSON column, or is null where null is ruled out. -/
theorem exists_defaultSql?_iff (accepted : column.verdict = .ok) :
    (∃ sql, column.defaultSql? = some sql) ↔ column.HasWrittenDefault := by
  constructor
  · rintro ⟨sql, written⟩
    rcases ((defaultSql?_eq_some_iff accepted).mp written).forms with
      ⟨isNull, takes, _⟩ | ⟨plain, notText, notJson, _⟩
    · exact .inl ⟨isNull, takes⟩
    · exact .inr ⟨plain, notText, notJson⟩
  · rintro (⟨isNull, takes⟩ | ⟨plain, notText, notJson⟩)
    · exact ⟨"NULL", (WritesDefault.of_null isNull takes).defaultSql?_eq⟩
    · rw [defaultSql?]
      generalize column.default = v at plain
      cases v with
      | null | unset | currentTime | routine => cases plain
      | _ => simp [notText, notJson]

/-! ## Which clauses clash -/

section Clauses

variable (accepted : column.verdict = .ok)

include accepted

theorem defaultSql?_eq_null_iff :
    column.defaultSql? = some "NULL" ↔ column.default = .null ∧ column.nullable.truthy = true := by
  rw [defaultSql?_eq_some_iff accepted]
  constructor
  · exact fun writes => writes.eq_null_iff.mp rfl
  · rintro ⟨isNull, takes⟩
    exact .of_null isNull takes

/-- Only for the key do the clauses rule out the null that is the default. -/
theorem defaultsToExcludedNull_iff :
    DefaultsToExcludedNull (column.clauses comment) ↔
      column.isPrimaryKey = true ∧ column.nullable.truthy = true ∧ column.default = .null := by
  have ofNull : "DEFAULT NULL" ∈ column.clauses comment ↔ column.defaultSql? = some "NULL" :=
    @default_mem_clauses_iff column comment "NULL"
  rw [DefaultsToExcludedNull, notNull_mem_clauses_iff, ofNull, defaultSql?_eq_null_iff accepted]
  constructor
  · rintro ⟨isKey | excluded, isNull, takes⟩
    · exact ⟨isKey, takes, isNull⟩
    · rw [excluded] at takes
      cases takes
  · rintro ⟨isKey, takes, isNull⟩
    exact ⟨.inl isKey, isNull, takes⟩

theorem defaultsGeneratedValues_iff :
    DefaultsGeneratedValues (column.clauses comment) ↔
      column.isAutoIncrement = true ∧ column.HasWrittenDefault := by
  simp only [DefaultsGeneratedValues, autoIncrement_mem_clauses_iff, default_mem_clauses_iff,
    exists_defaultSql?_iff accepted]

theorem defaultsToConstant_iff :
    DefaultsToConstant (column.clauses comment) ↔ ¬ column.HasNonFiniteDefault := by
  simp only [DefaultsToConstant, default_mem_clauses_iff, defaultSql?_eq_some_iff accepted]
  constructor
  · intro constant nonFinite
    have ⟨type, x, isFloat, _⟩ := nonFinite
    have writes : column.WritesDefault column.default x.text := by
      rw [isFloat]
      exact .fraction x type
    exact writes.isConstant_iff.mp (constant _ writes) nonFinite
  · exact fun finite sql writes => writes.isConstant_iff.mpr finite

end Clauses

/-- The definitions of accepted columns, each put together from its parts. -/
theorem forall₂_definitions {columns : List Column} {lines : List String}
    (accepted : ∀ column ∈ columns, column.verdict = .ok)
    (defined : definitions columns = .ok lines) :
    List.Forall₂ (fun column line => column.verdict = .ok ∧ ∃ type comment,
        column.physicalType.text? = some type ∧ column.commentSql? = .ok comment ∧
        line = String.intercalate " " (quoteName column.name :: type :: column.clauses comment))
      columns lines := by
  induction columns generalizing lines with
  | nil =>
      cases defined
      exact .nil
  | cons column rest ih =>
      obtain ⟨first, others, ofFirst, ofRest, rfl⟩ := definitions_cons_eq_ok defined
      obtain ⟨firstAccepted, restAccepted⟩ := List.forall_mem_cons.mp accepted
      exact .cons ⟨firstAccepted, exists_parts_of_definition firstAccepted ofFirst⟩
        (ih restAccepted ofRest)

end Column

/-- The statement that creates an accepted table has one definition for each column, and this says
which of them contradict themselves. Null is the default where it is ruled out just for a key that
has it as its default. Values are both generated and given just for a generated column with a
default that is written. A default is no constant just when it is a binary fraction that is not
finite. -/
theorem Table.clauses_clash_iff {name fields label : Value} {table : Table}
    (built : (build name fields .standard label).result = .ok table)
    (commented : ∀ column ∈ table.columns, column.HasTextComment) :
    ∃ lines, table.createSql = .ok ("CREATE TABLE IF NOT EXISTS " ++ quoteName table.name ++
        " (\n  " ++ String.intercalate ",\n  " (lines ++ table.closingLines) ++
          "\n) ENGINE=InnoDB DEFAULT CHARSET=utf8mb4") ∧
      List.Forall₂ (fun column line => ∃ type comment,
          column.physicalType.text? = some type ∧ column.commentSql? = .ok comment ∧
          line = String.intercalate " " (quoteName column.name :: type :: column.clauses comment) ∧
          (DefaultsToExcludedNull (column.clauses comment) ↔
            column.isPrimaryKey = true ∧ column.nullable.truthy = true ∧
              column.default = .null) ∧
          (DefaultsGeneratedValues (column.clauses comment) ↔
            column.isAutoIncrement = true ∧ column.HasWrittenDefault) ∧
          (DefaultsToConstant (column.clauses comment) ↔ ¬ column.HasNonFiniteDefault))
        table.columns lines := by
  have coherent := coherent_of_build built
  obtain ⟨sql, _, created, _, _⟩ := exists_createSql coherent commented
  obtain ⟨lines, defined, rfl⟩ := exists_lines_of_createSql created
  refine ⟨lines, created, ?_⟩
  apply (Column.forall₂_definitions (fun _ => coherent.verdict_eq_ok) defined).imp
  rintro column line ⟨accepted, type, comment, physical, written, parts⟩
  exact ⟨type, comment, physical, written, parts,
    Column.defaultsToExcludedNull_iff accepted, Column.defaultsGeneratedValues_iff accepted,
    Column.defaultsToConstant_iff accepted⟩

/-- A key whose values the database generates, for examples. -/
def levelId : Column :=
  { personId with autoIncrement := .bool true }

/-- A column with minus two and a half as its default, for examples. -/
def levelDepth : Column :=
  { ColumnTraits.standard with
    default := .float (.finite true 5 (-1)), nullable := .bool false, label := .text "depth",
    type := .float }

/-- A table of levels, for examples. -/
def levels : Table :=
  ⟨.text "Level", .text "levels", [levelId, levelDepth], some levelId, none⟩

/-- No definition in the table of levels contradicts itself. -/
theorem clauses_clash_iff_levels :
    ∃ lines, levels.createSql = .ok ("CREATE TABLE IF NOT EXISTS " ++ quoteName levels.name ++
        " (\n  " ++ String.intercalate ",\n  " (lines ++ levels.closingLines) ++
          "\n) ENGINE=InnoDB DEFAULT CHARSET=utf8mb4") ∧
      List.Forall₂ (fun column line => ∃ type comment,
          line = String.intercalate " " (quoteName column.name :: type :: column.clauses comment) ∧
          ¬ DefaultsToExcludedNull (column.clauses comment) ∧
          ¬ DefaultsGeneratedValues (column.clauses comment) ∧
          DefaultsToConstant (column.clauses comment)) levels.columns lines := by
  have built : (Table.build (.text "Level") (.list [levelId.toValue, levelDepth.toValue])
      .standard (.text "levels")).result = .ok levels := rfl
  have commented : ∀ column ∈ levels.columns, column.HasTextComment := by
    simp only [levels, List.forall_mem_cons]
    exact ⟨.inl rfl, .inl rfl, by simp⟩
  obtain ⟨lines, created, each⟩ := Table.clauses_clash_iff built commented
  refine ⟨lines, created, ?_⟩
  have notNull : ∀ column ∈ levels.columns, column.default ≠ .null := by
    simp [levels, levelId, levelDepth, personId, ColumnTraits.standard]
  have unwritten : ¬ levelId.HasWrittenDefault := by
    simp [Column.HasWrittenDefault, levelId, personId, ColumnTraits.standard, Value.isPlainData]
  have finite : ∀ column ∈ levels.columns, ¬ column.HasNonFiniteDefault := by
    simp [Column.HasNonFiniteDefault, levels, levelId, levelDepth, personId,
      ColumnTraits.standard, Binary64.isFinite]
  simp only [levels, List.forall_mem_cons] at notNull finite
  rcases each with _ | ⟨⟨type, comment, _, _, line, excluded, generated, constant⟩, rest⟩
  rcases rest with _ | ⟨⟨type', comment', _, _, line', excluded', generated', constant'⟩, none⟩
  cases none
  refine .cons ⟨type, comment, line, ?_, ?_, constant.mpr finite.1⟩
    (.cons ⟨type', comment', line', ?_, ?_, constant'.mpr finite.2.1⟩ .nil)
  · exact fun clash => notNull.1 (excluded.mp clash).2.2
  · exact fun clash => unwritten (generated.mp clash).2
  · exact fun clash => notNull.2.1 (excluded'.mp clash).2.2
  · exact fun clash => absurd (generated'.mp clash).1 (by decide)

/-- A key with null as its default, for examples. -/
def gaugeId : Column :=
  { personId with default := .null }

/-- A table of gauges, for examples. -/
def gauges : Table :=
  ⟨.text "Gauge", .text "gauges",
    [gaugeId, { ColumnTraits.standard with label := .text "label", type := .string }],
    some gaugeId, none⟩

/-- The definition of a key can rule out the null that it makes the default. -/
theorem key_defaults_to_excluded_null :
    (Table.build (.text "Gauge") (.list (gauges.columns.map Column.toValue)) .standard
        (.text "gauges")).result = .ok gauges ∧
      gaugeId ∈ gauges.columns ∧ gaugeId.commentSql? = .ok none ∧
      gaugeId.definition = .ok "\x60id\x60 INT NOT NULL DEFAULT NULL" ∧
      DefaultsToExcludedNull (gaugeId.clauses none) :=
  ⟨rfl, List.mem_cons_self, rfl, rfl, by decide, by decide⟩

end RowMapper
