import RowMapper.Proofs.Assignments
import RowMapper.Proofs.Query.StatementLayout
import RowMapper.Proofs.Schema.PhysicalForm
import RowMapper.Proofs.Sql.ClosedText
import RowMapper.Proofs.Sql.OperationReading
import RowMapper.Query.Statement

/-!
# The definition of a table as a statement

The statement that creates a table is put together from quoted names, physical types, numbers and
string literals. Each of these is closed text, so the statement is, and what sends it finds no
placeholder and no bind in it and reads the table's name off its front.
-/

namespace RowMapper

open Sql

/-! ## Numbers in statements -/

/-- The characters of which the text of a finite number consists. -/
def isNumberChar (c : Char) : Bool :=
  c.isDigit || c = '.' || c = 'e' || c = '+' || c = '-'

theorem isNumberChar_repr (n : Nat) : ∀ c ∈ (Nat.repr n).toList, isNumberChar c = true := by
  intro c member
  simp [isNumberChar, isDigit_of_mem_repr member]

theorem Decimal.isNumberChar_render (layout : Layout) (decimal : Decimal) :
    ∀ c ∈ decimal.render layout, isNumberChar c = true := by
  have digits := isNumberChar_repr decimal.coefficient
  have taken (count : Nat) :
      ∀ c ∈ (Nat.repr decimal.coefficient).toList.take count, isNumberChar c = true :=
    fun c member => digits c (List.mem_of_mem_take member)
  have dropped (count : Nat) :
      ∀ c ∈ (Nat.repr decimal.coefficient).toList.drop count, isNumberChar c = true :=
    fun c member => digits c (List.mem_of_mem_drop member)
  have padding (count : Nat) : ∀ c ∈ zeros count, isNumberChar c = true := by
    intro c member
    rw [(List.mem_replicate.mp member).2]
    decide
  have point : isNumberChar '.' = true := by decide
  have zero : isNumberChar '0' = true := by decide
  simp only [render]
  split
  · split
    · simp only [List.cons_append, List.forall_mem_cons, List.forall_mem_append]
      exact ⟨zero, point, padding _, digits⟩
    · split
      · simp only [List.forall_mem_append, List.forall_mem_cons]
        exact ⟨⟨digits, padding _⟩, point, zero, by simp⟩
      · simp only [List.forall_mem_append, List.forall_mem_cons]
        exact ⟨taken _, point, dropped _⟩
  · simp only [List.forall_mem_append, List.forall_mem_cons]
    refine ⟨⟨⟨taken _, ?_⟩, by decide, ?_, padding _⟩, isNumberChar_repr _⟩
    · split
      · simp
      · rw [List.forall_mem_cons]
        exact ⟨point, dropped _⟩
    · split <;> decide

theorem isPlain_decimalText (n : Int) : IsPlain (decimalText n).toList := by
  rw [decimalText]
  split
  · rw [String.toList_append]
    exact (IsPlain.of_text rfl).append (isPlain_repr _)
  · exact isPlain_repr _

theorem Binary64.isNumberChar_finite (negative : Bool) (mantissa : Nat) (exponent : Int) :
    ∀ c ∈ (text (.finite negative mantissa exponent)).toList, isNumberChar c = true := by
  have unsigned : ∀ c ∈ if mantissa = 0 then ['0', '.', '0']
      else (Decimal.shortest mantissa exponent).render .standard, isNumberChar c = true := by
    split
    · simp [isNumberChar]
    · exact Decimal.isNumberChar_render _ _
  rw [text, String.toList_ofList]
  split
  · rw [List.forall_mem_cons]
    exact ⟨by decide, unsigned⟩
  · exact unsigned

theorem Binary64.isPlain_text (x : Binary64) : IsPlain x.text.toList := by
  cases x with
  | nan mark =>
      change IsPlain "nan".toList
      exact .of_text rfl
  | infinite negative =>
      rw [text]
      split <;> exact .of_text rfl
  | finite negative mantissa exponent =>
      exact .of_class (p := isNumberChar) (by decide) (isNumberChar_finite _ _ _)

/-! ## Column definitions -/

namespace Column

variable {column : Column}

theorem isClosed_of_defaultSql? {sql : String} (written : column.defaultSql? = some sql) :
    IsClosed sql.toList := by
  simp only [defaultSql?] at written
  split at written
  · cases written
  · cases written
  · cases written
  · split at written
    · cases written
      exact (IsPlain.of_text rfl).isClosed
    · cases written
  · split at written
    · cases written
    · split at written
      next b _ =>
        rw [← Option.some.inj written]
        cases b <;> exact (IsPlain.of_text rfl).isClosed
      next n _ =>
        rw [← Option.some.inj written]
        exact (isPlain_decimalText n).isClosed
      next x _ =>
        rw [← Option.some.inj written]
        exact x.isPlain_text.isClosed
      next t _ =>
        split at written
        · cases written
        · rw [← Option.some.inj written]
          exact isClosed_quoteLiteral t.literalText
      next =>
        split at written
        · cases written
        · rw [← Option.some.inj written]
          exact isClosed_quoteLiteral _

/-- A column that passed the storage check has a physical type: a known one that it was given, or
that of its logical type. -/
theorem exists_text_physicalType (accepted : column.verdict = .ok) :
    ∃ type, column.physicalType.text? = some type ∧
      (PhysicalType.isKnown type = true ∨ type = column.type.physical) := by
  have known : column.hasKnownDatabaseType = true := by
    rw [verdict, ColumnTraits.verdict] at accepted
    split at accepted
    next => cases accepted
    next known => simpa using known
  rw [physicalType]
  split
  next given =>
    rw [ColumnTraits.hasKnownDatabaseType, Bool.or_eq_true] at known
    rcases known with isNull | isKnown
    · rw [Value.isNull_eq_true.mp isNull] at given
      cases given
    · cases text : column.databaseType.text? with
      | none => rw [text] at isKnown; cases isKnown
      | some type =>
          rw [text] at isKnown
          exact ⟨type, rfl, .inl isKnown⟩
  next => exact ⟨_, rfl, .inr rfl⟩

/-- The physical type of a column that passed the storage check is plain text. -/
theorem exists_physicalType (accepted : column.verdict = .ok) :
    ∃ type, column.physicalType.text? = some type ∧ IsPlain type.toList := by
  obtain ⟨type, physical, known | rfl⟩ := exists_text_physicalType accepted
  · exact ⟨type, physical, PhysicalType.isPlain_of_isKnown known⟩
  · exact ⟨_, physical, column.type.isPlain_physical⟩

/-- Whether the comment of the column is a text, or null for none. -/
def HasTextComment (column : Column) : Prop :=
  column.comment = .null ∨ column.comment.text?.isSome = true

theorem exists_commentSql? (commented : column.HasTextComment) :
    ∃ comment, column.commentSql? = .ok comment ∧ ∀ sql ∈ comment, IsClosed sql.toList := by
  rw [commentSql?]
  split
  next present =>
    rcases commented with isNull | isText
    · rw [isNull] at present
      cases present
    · obtain ⟨text, isText⟩ := Option.isSome_iff_exists.mp isText
      refine ⟨some (quoteLiteral text), ?_, ?_⟩
      · simp only [Value.asLiteral, Value.escapable, isText]
        rfl
      · intro sql same
        rw [← Option.mem_some_iff.mp same]
        exact isClosed_quoteLiteral text
  next => exact ⟨none, rfl, by simp⟩

theorem isClosed_of_mem_clauses {comment : Option String}
    (closed : ∀ sql ∈ comment, IsClosed sql.toList) {clause : String}
    (member : clause ∈ column.clauses comment) : IsClosed clause.toList := by
  simp only [clauses, List.mem_append, Option.mem_toList, Option.map_eq_some_iff] at member
  rcases member with ((notNull | increment) | ⟨sql, written, rfl⟩) | ⟨sql, written, rfl⟩
  · split at notNull
    · rw [List.mem_singleton.mp notNull]
      exact (IsPlain.of_text rfl).isClosed
    · cases notNull
  · split at increment
    · rw [List.mem_singleton.mp increment]
      exact (IsPlain.of_text rfl).isClosed
    · cases increment
  · rw [String.toList_append]
    exact (IsPlain.of_text rfl).isClosed.append (isClosed_of_defaultSql? written)
  · rw [String.toList_append]
    exact (IsPlain.of_text rfl).isClosed.append (closed sql written)

/-- The definition of an accepted column can be written, and it is closed text. -/
theorem exists_definition (accepted : column.verdict = .ok) (commented : column.HasTextComment) :
    ∃ sql, column.definition = .ok sql ∧ IsClosed sql.toList := by
  obtain ⟨type, physical, typePlain⟩ := exists_physicalType accepted
  obtain ⟨comment, written, closed⟩ := exists_commentSql? commented
  refine ⟨_, by simp only [definition, written, physical]; rfl, ?_⟩
  rw [String.toList_intercalate]
  apply IsClosed.intercalate (IsPlain.of_text rfl).isClosed
  simp only [List.map_cons, List.forall_mem_cons, List.forall_mem_map]
  exact ⟨isClosed_quoteName column.name, typePlain.isClosed,
    fun clause => isClosed_of_mem_clauses closed⟩

theorem exists_definitions {columns : List Column}
    (each : ∀ column ∈ columns, ∃ sql, column.definition = .ok sql ∧ IsClosed sql.toList) :
    ∃ lines, definitions columns = .ok lines ∧ ∀ line ∈ lines, IsClosed line.toList := by
  induction columns with
  | nil => exact ⟨[], rfl, by simp⟩
  | cons column rest ih =>
      obtain ⟨first, defined, firstClosed⟩ := each column List.mem_cons_self
      obtain ⟨others, othersDefined, othersClosed⟩ :=
        ih fun other member => each other (List.mem_cons_of_mem column member)
      refine ⟨first :: others, ?_, List.forall_mem_cons.mpr ⟨firstClosed, othersClosed⟩⟩
      rw [definitions, defined, othersDefined]
      rfl

theorem isClosed_index {keyword front : String} (keywordPlain : IsPlain keyword.toList) :
    IsClosed (keyword ++ quoteName (front ++ column.name) ++ " (" ++ quoteName column.name ++
      ")").toList := by
  simp only [String.toList_append]
  exact (((keywordPlain.isClosed.append (isClosed_quoteName _)).append
    (IsPlain.of_text rfl).isClosed).append (isClosed_quoteName _)).append
      (IsPlain.of_text rfl).isClosed

theorem isClosed_of_indexDefinition? {sql : String} (written : column.indexDefinition? = some sql) :
    IsClosed sql.toList := by
  rw [indexDefinition?] at written
  split at written
  · cases written
  · split at written
    · rw [← Option.some.inj written]
      exact isClosed_index (.of_text rfl)
    · split at written
      · rw [← Option.some.inj written]
        exact isClosed_index (.of_text rfl)
      · cases written

end Column

namespace Sql.Label

/-- The label of a statement that creates a table is read off its front. -/
theorem ofSql_create {name : String} (plain : isPlainName name = true) (rest : String) :
    ofSql ("CREATE TABLE IF NOT EXISTS " ++ quoteName name ++ rest) =
      ⟨some name, some .create⟩ :=
  ofSql_of_phrase _ plain rfl (fun _ => rfl) ⟨rest.toList, (String.toList_append ..).symm⟩

end Sql.Label

namespace Table

variable {table : Table}

theorem isClosed_of_keyDefinition? {sql : String} (written : table.keyDefinition? = some sql) :
    IsClosed sql.toList := by
  obtain ⟨name, isKey, rfl⟩ := Option.map_eq_some_iff.mp written
  simp only [String.toList_append]
  exact ((IsPlain.of_text rfl).isClosed.append (isClosed_quoteName name)).append
    (IsPlain.of_text rfl).isClosed

/-- The statement that creates an accepted table can be written. It is closed text, and it begins
with the table's name. -/
theorem exists_createSql (coherent : table.Coherent .standard)
    (commented : ∀ column ∈ table.columns, column.HasTextComment) :
    ∃ sql rest, table.createSql = .ok sql ∧ IsClosed sql.toList ∧
      sql = "CREATE TABLE IF NOT EXISTS " ++ quoteName table.name ++ rest := by
  obtain ⟨lines, defined, linesClosed⟩ := Column.exists_definitions fun column member =>
    Column.exists_definition (coherent.verdict_eq_ok member) (commented column member)
  have allClosed : ∀ line ∈ lines ++ table.keyDefinition?.toList ++
      table.columns.filterMap Column.indexDefinition?, IsClosed line.toList := by
    simp only [List.forall_mem_append, Option.mem_toList]
    refine ⟨⟨linesClosed, fun line => isClosed_of_keyDefinition?⟩, ?_⟩
    intro line member
    obtain ⟨column, _, written⟩ := List.mem_filterMap.mp member
    exact Column.isClosed_of_indexDefinition? written
  let body := String.intercalate ",\n  " (lines ++ table.keyDefinition?.toList ++
    table.columns.filterMap Column.indexDefinition?)
  have bodyClosed : IsClosed body.toList := by
    rw [String.toList_intercalate]
    exact (IsPlain.of_text rfl).isClosed.intercalate (List.forall_mem_map.mpr allClosed)
  refine ⟨_, " (\n  " ++ body ++ "\n) ENGINE=InnoDB DEFAULT CHARSET=utf8mb4",
    by rw [createSql, defined]; rfl, ?_, by simp only [String.append_assoc]; rfl⟩
  simp only [String.toList_append]
  exact (((((IsPlain.of_text rfl).isClosed.append (isClosed_quoteName table.name)).append
    (IsPlain.of_text rfl).isClosed).append bodyClosed).append (IsPlain.of_text rfl).isClosed)

/-- The statement that creates a table reaches the database as one statement without parameters,
whatever texts its defaults and comments are: it is one piece, binding no parameters to it succeeds
and leaves no bind to be found, and its label is that of the table's creation. -/
theorem createSql_takes_no_parameters {name fields label : Value} {table : Table}
    (built : (build name fields .standard label).result = .ok table)
    (names : table.HasPlainNames)
    (commented : ∀ column ∈ table.columns, column.HasTextComment) :
    ∃ sql bound, table.createSql = .ok sql ∧ splitPlaceholders sql = [sql] ∧
      bindPositional sql (.tuple []) = .ok bound ∧ bound.binds = [] ∧
      bindNames bound.text = [] ∧ Label.ofSql sql = ⟨some table.name, some .create⟩ := by
  obtain ⟨sql, rest, created, closed, front⟩ :=
    exists_createSql (coherent_of_build built) commented
  have onePiece := pieces_of_hasNoPlaceholder closed.noPlaceholder
  refine ⟨sql, ⟨boundText sql, []⟩, created, ?_, ?_, rfl, ?_, ?_⟩
  · rw [splitPlaceholders, onePiece, List.map_singleton, String.ofList_toList]
  · have none : placeholderCount sql = 0 := by rw [placeholderCount, onePiece]; rfl
    simp [bindPositional, Value.size, Value.items?, none, nameParameters]
  · rw [bindNames, toList_boundText, bindNamesAfter_bindFrom none 0 closed.noPlaceholder,
      List.map_nil]
  · rw [front]
    exact Label.ofSql_create names.table_plain rest

end Table

/-- A column whose default and comment are full of marks, for examples. -/
def remarkColumn : Column :=
  { ColumnTraits.standard with
    databaseType := .text " varchar ( 40 ) ", default := .text "it's ?, :a and \\",
    comment := .text "\"what?\" :b\n", label := .text "remark", type := .string }

/-- A table of remarks, for examples. -/
def remarks : Table :=
  ⟨.text "Remark", .text "remarks", [personId, remarkColumn], some personId, none⟩

/-- None of the marks in the default and the comment of a column is taken for more than text. -/
theorem createSql_takes_no_parameters_remarks :
    ∃ sql bound, remarks.createSql = .ok sql ∧
      sql = "CREATE TABLE IF NOT EXISTS `remarks` (\n  " ++
        "`id` INT NOT NULL,\n  `remark`  varchar ( 40 )  DEFAULT 'it''s ?, :a and \\\\' " ++
        "COMMENT '\"what?\" :b\n',\n  PRIMARY KEY (`id`)\n) " ++
        "ENGINE=InnoDB DEFAULT CHARSET=utf8mb4" ∧
      splitPlaceholders sql = [sql] ∧ bindPositional sql (.tuple []) = .ok bound ∧
      bindNames bound.text = [] ∧ Label.ofSql sql = ⟨some "remarks", some .create⟩ := by
  have built : (Table.build (.text "Remark")
      (.list [personId.toValue, remarkColumn.toValue]) .standard (.text "remarks")).result =
        .ok remarks := rfl
  have commented : ∀ column ∈ remarks.columns, column.HasTextComment := by
    simp only [remarks, List.forall_mem_cons]
    exact ⟨.inl rfl, .inr rfl, by simp⟩
  obtain ⟨sql, bound, created, onePiece, binds, _, noNames, labelled⟩ :=
    Table.createSql_takes_no_parameters built ⟨by decide, by decide⟩ commented
  have written : remarks.createSql.toOption = some sql := by
    rw [created]
    rfl
  refine ⟨sql, bound, created, ?_, onePiece, binds, noNames, labelled⟩
  apply Option.some.inj
  rw [← written]
  decide +kernel

end RowMapper
