import RowMapper.Manager
import RowMapper.Proofs.Schema.QuotedDefinition

/-!
# Which accepted tables can be created

Of what a column definition is written from, the storage check sees the physical type and the
default, and the declaration the name. Nothing looks at the comment before the definition is
written, and there it has to be a text unless it counts as none. So an accepted table can be created
just when its comments can be written, and otherwise the first comment that cannot be is what its
creation fails with.
-/

namespace RowMapper

open Sql

namespace Column

variable {column : Column} {fault : ValueFault}

/-- Whether the comment of the column can be written: it is a text, or it counts as none. -/
def HasWritableComment (column : Column) : Prop :=
  column.comment.truthy = true → column.comment.text?.isSome = true

instance (column : Column) : Decidable column.HasWritableComment :=
  inferInstanceAs (Decidable (_ → _))

/-- A value in which marks cannot be escaped is no text. -/
theorem exists_escapable_eq_error_iff {v : Value} :
    (∃ fault, v.escapable = .error fault) ↔ v.text? = none := by
  unfold Value.escapable
  cases v.text? with
  | some s => simp
  | none =>
      refine iff_of_true ?_ rfl
      cases v <;> exact ⟨_, rfl⟩

theorem commentSql?_eq_error_iff :
    column.commentSql? = .error fault ↔
      column.comment.truthy = true ∧ column.comment.escapable = .error fault := by
  rw [commentSql?]
  split
  next present =>
    rw [Value.asLiteral]
    cases column.comment.escapable <;> simp [present, Except.map]
  next absent => simp [absent]

/-- Writing a comment fails if and only if it is not writable. -/
theorem exists_commentSql?_eq_error_iff :
    (∃ fault, column.commentSql? = .error fault) ↔ ¬ column.HasWritableComment := by
  simp only [commentSql?_eq_error_iff, exists_and_left, exists_escapable_eq_error_iff,
    HasWritableComment, Classical.not_imp, Option.isSome_iff_ne_none, not_not]

/-- The definition of an accepted column fails with nothing but its comment. -/
theorem definition_eq_error_iff (accepted : column.verdict = .ok) :
    column.definition = .error fault ↔ column.commentSql? = .error fault := by
  obtain ⟨type, physical, _⟩ := exists_text_physicalType accepted
  cases written : column.commentSql? with
  | error other => simp [definition, written, bind, Except.bind]
  | ok comment =>
      rw [definition_eq_ok physical written]
      simp

theorem exists_definition_iff (accepted : column.verdict = .ok) :
    (∃ sql, column.definition = .ok sql) ↔ column.HasWritableComment := by
  rw [← not_iff_not, ← exists_commentSql?_eq_error_iff]
  simp only [← definition_eq_error_iff accepted]
  cases column.definition <;> simp

theorem definitions_cons (column : Column) (rest : List Column) :
    definitions (column :: rest) =
      match column.definition with
      | .error fault => .error fault
      | .ok first => (definitions rest).map (first :: ·) := by
  rw [definitions]
  cases column.definition with
  | error fault => rfl
  | ok first => cases definitions rest <;> rfl

/-- Columns can be defined if each of them can. -/
theorem exists_definitions_iff {columns : List Column} :
    (∃ lines, definitions columns = .ok lines) ↔
      ∀ column ∈ columns, ∃ sql, column.definition = .ok sql := by
  induction columns with
  | nil => simp [definitions]
  | cons column rest ih =>
      rw [List.forall_mem_cons, ← ih, definitions_cons]
      cases column.definition with
      | error fault => simp
      | ok first => cases definitions rest <;> simp [Except.map]

/-- Columns are defined in order, and the first one that cannot be is what that fails with. -/
theorem definitions_eq_error_iff {columns : List Column} :
    definitions columns = .error fault ↔ ∃ front column rest, columns = front ++ column :: rest ∧
      (∀ other ∈ front, ∃ sql, other.definition = .ok sql) ∧ column.definition = .error fault := by
  induction columns with
  | nil => simp [definitions]
  | cons head tail ih =>
      rw [definitions_cons]
      cases ofHead : head.definition with
      | error early =>
          change Except.error early = .error fault ↔ _
          constructor
          · intro same
            cases same
            exact ⟨[], head, tail, rfl, by simp, ofHead⟩
          · rintro ⟨_ | ⟨first, front⟩, column, rest, split, written, failed⟩
            · cases split
              rw [ofHead] at failed
              cases failed
              rfl
            · cases split
              obtain ⟨sql, ofFirst⟩ := written head List.mem_cons_self
              rw [ofHead] at ofFirst
              cases ofFirst
      | ok line =>
          have ofTail : (definitions tail).map (line :: ·) = .error fault ↔
              definitions tail = .error fault := by
            cases definitions tail <;> simp [Except.map]
          rw [ofTail, ih]
          constructor
          · rintro ⟨front, column, rest, rfl, written, failed⟩
            exact ⟨head :: front, column, rest, rfl,
              List.forall_mem_cons.mpr ⟨⟨line, ofHead⟩, written⟩, failed⟩
          · rintro ⟨_ | ⟨first, front⟩, column, rest, split, written, failed⟩
            · cases split
              rw [ofHead] at failed
              cases failed
            · cases split
              exact ⟨front, column, rest, rfl, (List.forall_mem_cons.mp written).2, failed⟩

end Column

namespace Table

variable {table : Table} {fault : ValueFault}

theorem createSql_eq_error_iff :
    table.createSql = .error fault ↔ Column.definitions table.columns = .error fault := by
  cases defined : Column.definitions table.columns with
  | error other => simp [createSql, defined, bind, Except.bind]
  | ok lines =>
      rw [createSql_eq_ok defined]
      simp

theorem exists_createSql_iff :
    (∃ sql, table.createSql = .ok sql) ↔ ∃ lines, Column.definitions table.columns = .ok lines := by
  constructor
  · rintro ⟨sql, created⟩
    obtain ⟨lines, defined, _⟩ := exists_lines_of_createSql created
    exact ⟨lines, defined⟩
  · rintro ⟨lines, defined⟩
    exact ⟨_, createSql_eq_ok defined⟩

end Table

/-- A table without a statement that creates it is not created, and nothing is sent or noted for
it. -/
theorem Model.createTable_of_createSql_eq_error {model : Model} {fault : ValueFault}
    (failed : model.table.createSql = .error fault) (session : Session) :
    model.createTable session = (.error (.operand fault), session) := by
  simp only [createTable, Statement.create, failed]
  rfl

/-- An accepted table can be created if each of its comments is a text or counts as none, whatever
the other parts of its columns are. Otherwise the first comment that is neither is what writing the
statement fails with, and creating the table of its model does that as well and leaves the session
as it was. -/
theorem Table.created_iff_writable_comments {name fields label : Value} {table : Table}
    (built : (build name fields .standard label).result = .ok table) :
    ((∃ sql, table.createSql = .ok sql) ↔
      ∀ column ∈ table.columns, column.HasWritableComment) ∧
    (∀ fault, table.createSql = .error fault ↔
      ∃ front column rest, table.columns = front ++ column :: rest ∧
        (∀ other ∈ front, other.HasWritableComment) ∧ ¬ column.HasWritableComment ∧
        column.comment.escapable = .error fault) ∧
    ∀ fault guard session, table.createSql = .error fault →
      Model.createTable ⟨table, guard⟩ session = (.error (.operand fault), session) := by
  have accepted {column : Column} (member : column ∈ table.columns) : column.verdict = .ok :=
    (coherent_of_build built).verdict_eq_ok member
  refine ⟨?_, ?_, fun fault guard session failed =>
    Model.createTable_of_createSql_eq_error failed session⟩
  · rw [exists_createSql_iff, Column.exists_definitions_iff]
    exact forall₂_congr fun column member => Column.exists_definition_iff (accepted member)
  · intro fault
    rw [createSql_eq_error_iff, Column.definitions_eq_error_iff]
    refine exists₃_congr fun front column rest => and_congr_right fun split => ?_
    have inFront {other : Column} (member : other ∈ front) : other ∈ table.columns := by
      rw [split]
      exact List.mem_append_left _ member
    have isColumn : column ∈ table.columns := by
      rw [split]
      exact List.mem_append_right _ List.mem_cons_self
    apply and_congr
    · exact forall₂_congr fun other member =>
        Column.exists_definition_iff (accepted (inFront member))
    · rw [Column.definition_eq_error_iff (accepted isColumn),
        ← Column.exists_commentSql?_eq_error_iff, Column.commentSql?_eq_error_iff]
      constructor
      · intro failed
        exact ⟨⟨fault, Column.commentSql?_eq_error_iff.mpr failed⟩, failed.2⟩
      · rintro ⟨⟨other, failed⟩, unescaped⟩
        exact ⟨(Column.commentSql?_eq_error_iff.mp failed).1, unescaped⟩

/-- A column with a comment, for examples. -/
def notedColumn (label : String) (comment : Value) : Column :=
  { ColumnTraits.standard with comment, label := .text label, type := .string }

/-- A table with two noted columns, for examples. -/
def noted (first second : Value) : Table :=
  ⟨.text "Shop", .text "shops", [notedColumn "note" first, notedColumn "remark" second], none,
    none⟩

/-- A declaration of that table, for examples. -/
def notedFields (first second : Value) : Value :=
  .list [(notedColumn "note" first).toValue, (notedColumn "remark" second).toValue]

/-- An empty list counts as no comment, and of two numbers that are accepted as comments the first
one is what the creation fails with. -/
theorem created_iff_writable_comments_noted :
    (∃ sql, (noted (.list []) (.text "it's")).createSql = .ok sql) ∧
      (noted (.float (.finite true 5 (-1))) (.int 5)).createSql =
        .error ((Value.float (.finite true 5 (-1))).lacks "replace") := by
  have built (first second : Value) :
      (Table.build (.text "Shop") (notedFields first second) .standard (.text "shops")).result =
        .ok (noted first second) := rfl
  constructor
  · obtain ⟨created, _⟩ := Table.created_iff_writable_comments (built (.list []) (.text "it's"))
    refine created.mpr ?_
    simp only [noted, List.forall_mem_cons]
    exact ⟨by decide, by decide, by simp⟩
  · obtain ⟨_, fails, _⟩ := Table.created_iff_writable_comments
      (built (.float (.finite true 5 (-1))) (.int 5))
    exact (fails _).mpr ⟨[], _, _, rfl, by simp, by decide, rfl⟩

/-- A declaration with a number as the comment is accepted, and then the table cannot be created. -/
theorem uncreatable_table_accepted :
    ¬ ∀ (name fields label : Value) (table : Table),
      (Table.build name fields .standard label).result = .ok table →
        ∃ sql, table.createSql = .ok sql := by
  intro always
  have declared : (Table.build (.text "Shop")
      (.list [.dict [(.text "name", .text "note"), (.text "type", .text "string")],
        .dict [(.text "name", .text "remark"), (.text "type", .text "string"),
          (.text "comment", .int 5)]]) .standard (.text "shops")).result =
        .ok (noted .null (.int 5)) := rfl
  obtain ⟨sql, created⟩ := always _ _ _ _ declared
  cases created

end RowMapper
