import RowMapper.Proofs.Schema.WrittenDefault
import RowMapper.Proofs.Sql.QuotedReading

/-!
# What a table definition quotes

The statement that creates a table is written from names and texts of its declaration. Whoever
reads it by the rules of the database finds these and no others: the names of the table, its
columns and its indexes, and the defaults and comments as they were declared. What they consist of
makes no difference, since none of them can end the part in which it stands.
-/

namespace RowMapper

open Sql

variable {meaning : Char → List Char}

theorem PhysicalType.isUnquoted_of_isKnown {type : String} (known : isKnown type = true) :
    IsUnquoted type.toList := by
  rw [isKnown] at known
  split at known
  next name read =>
    exact .of_class (p := isTypeChar) (by decide) (isTypeChar_of_name? read)
  next => cases known

theorem FieldType.isUnquoted_physical (type : FieldType) : IsUnquoted type.physical.toList := by
  cases type <;> exact .of_text (by decide)

/-- The text of a number has no marks. -/
theorem isUnquoted_of_number {text : List Char} (number : ∀ c ∈ text, isNumberTextChar c = true) :
    IsUnquoted text :=
  .of_class (by decide) number

namespace Column

variable {column : Column}

/-- The text that the definition of a column quotes for its default: a string as it is displayed,
and a time as its local time. Other defaults are numbers or are not written. -/
def quotedDefault? (column : Column) : Option String :=
  match column.type, column.default with
  | .string, .text s => some s
  | .string, .fieldType type => some (Value.fieldType type).display
  | .datetime, .timestamp t => some t.literalText
  | _, _ => none

/-- The text that the definition of a column quotes for its comment, unless it is empty. -/
def quotedComment? (column : Column) : Option String :=
  column.comment.text?.filter (!·.isEmpty)

/-- What the definition of a column quotes. -/
def quotedParts (column : Column) : List Quoted :=
  .name column.name :: (column.quotedDefault?.toList ++ column.quotedComment?.toList).map .literal

/-- What the definition of the index of a column quotes: the name of the index, and the column. -/
def quotedIndex (column : Column) : List Quoted :=
  if column.isPrimaryKey then []
  else if column.unique.truthy then [.name ("uk_" ++ column.name), .name column.name]
  else if column.index.truthy then [.name ("idx_" ++ column.name), .name column.name]
  else []

theorem exists_unquoted_physicalType (accepted : column.verdict = .ok) :
    ∃ type, column.physicalType.text? = some type ∧ IsUnquoted type.toList := by
  obtain ⟨type, physical, known | rfl⟩ := exists_text_physicalType accepted
  · exact ⟨type, physical, PhysicalType.isUnquoted_of_isKnown known⟩
  · exact ⟨_, physical, column.type.isUnquoted_physical⟩

theorem eachReads_unquoted {text : String} (unquoted : IsUnquoted text.toList) :
    EachReads meaning [text.toList] [] :=
  .of_unquoted (List.forall_mem_singleton.mpr unquoted)

/-- What stands for a default in a definition is read as the text that is quoted for it, or has no
marks. -/
theorem WritesDefault.readsAs {sql : String} (writes : column.WritesDefault column.default sql) :
    ReadsAs meaning sql.toList (column.quotedDefault?.toList.map .literal) := by
  rw [quotedDefault?]
  generalize column.default = v at writes
  cases writes with
  | null takes => cases column.type <;> exact .of_unquoted (.of_text rfl)
  | whole n type =>
      rcases type with type | type | type | type <;> rw [type] <;>
        exact .of_unquoted (isUnquoted_of_number (isNumberTextChar_decimalText n))
  | fraction x type =>
      rw [type]
      exact .of_unquoted (isUnquoted_of_number x.isNumberTextChar_text)
  | truth b type =>
      rw [type]
      cases b <;> exact .of_unquoted (.of_text rfl)
  | text s type =>
      rw [type]
      exact .quoteLiteral s
  | member named type =>
      rw [type]
      exact .quoteLiteral _
  | time t type =>
      rw [type]
      exact .quoteLiteral t.literalText

/-- A text that is quoted for a default stands in the definition. -/
theorem exists_defaultSql?_of_quoted {s : String} (quoted : column.quotedDefault? = some s) :
    ∃ sql, column.defaultSql? = some sql := by
  have writes : ∃ sql, column.WritesDefault column.default sql := by
    simp only [quotedDefault?] at quoted
    split at quoted
    next s type default =>
      rw [default]
      exact ⟨_, .text s type⟩
    next named type default =>
      rw [default]
      exact ⟨_, .member named type⟩
    next t type default =>
      rw [default]
      exact ⟨_, .time t type⟩
    next => cases quoted
  obtain ⟨sql, writes⟩ := writes
  exact ⟨sql, writes.defaultSql?_eq⟩

/-- The default of an accepted column stands in its definition as the text it quotes, or as
something without marks, or not at all. -/
theorem eachReads_defaultSql? (accepted : column.verdict = .ok) :
    EachReads meaning (column.defaultSql?.toList.map String.toList)
      (column.quotedDefault?.toList.map .literal) := by
  cases written : column.defaultSql? with
  | some sql => exact .singleton ((defaultSql?_eq_some_iff accepted).mp written).readsAs
  | none =>
      cases quoted : column.quotedDefault? with
      | none => exact .nil
      | some s =>
          obtain ⟨sql, present⟩ := exists_defaultSql?_of_quoted quoted
          rw [written] at present
          cases present

/-- A comment stands in the definition of its column as the text it is. -/
theorem eachReads_commentSql? {comment : Option String}
    (written : column.commentSql? = .ok comment) :
    EachReads meaning (comment.toList.map String.toList)
      (column.quotedComment?.toList.map .literal) := by
  rw [commentSql?] at written
  rw [quotedComment?]
  generalize column.comment = v at written
  split at written
  next present =>
    cases v with
    | text s =>
        have nonempty : s.isEmpty = false := by simpa [Value.truthy] using present
        cases written
        simp only [Value.text?, Option.filter, nonempty]
        exact .singleton (.quoteLiteral s)
    | fieldType type =>
        have nonempty : type.name.isEmpty = false := by cases type <;> rfl
        cases written
        simp only [Value.text?, Option.filter, nonempty]
        exact .singleton (.quoteLiteral type.name)
    | _ => cases written
  next absent =>
    cases written
    cases v with
    | text s =>
        have empty : s.isEmpty = true := by simpa [Value.truthy] using absent
        simp only [Value.text?, Option.filter, empty]
        exact .nil
    | fieldType type => exact absurd rfl absent
    | _ => exact .nil

/-- A keyword without marks in front of a text that may be missing. -/
theorem eachReads_keyword {keyword : String} (unquoted : IsUnquoted keyword.toList)
    {sql : Option String} {parts : List Quoted}
    (each : EachReads meaning (sql.toList.map String.toList) parts) :
    EachReads meaning ((sql.map (keyword ++ ·)).toList.map String.toList) parts := by
  cases sql with
  | none => exact each
  | some sql =>
      cases each with
      | cons reads rest =>
          refine .cons ?_ rest
          rw [String.toList_append]
          exact reads.unquoted_append unquoted

theorem eachReads_clauses (accepted : column.verdict = .ok) {comment : Option String}
    (written : column.commentSql? = .ok comment) :
    EachReads meaning ((column.clauses comment).map String.toList)
      ((column.quotedDefault?.toList ++ column.quotedComment?.toList).map .literal) := by
  have flag (given : Bool) {text : String} (unquoted : IsUnquoted text.toList) :
      EachReads meaning ((if given then [text] else []).map String.toList) [] := by
    cases given with
    | false => exact .nil
    | true => exact eachReads_unquoted unquoted
  simp only [clauses, List.map_append]
  exact (((flag _ (.of_text rfl)).append (flag _ (.of_text rfl))).append
    (eachReads_keyword (.of_text rfl) (eachReads_defaultSql? accepted))).append
      (eachReads_keyword (.of_text rfl) (eachReads_commentSql? written))

/-- The definition of a column is its name, its physical type and its clauses. -/
theorem exists_comment_of_definition {type sql : String}
    (physical : column.physicalType.text? = some type) (defined : column.definition = .ok sql) :
    ∃ comment, column.commentSql? = .ok comment ∧
      sql = String.intercalate " " (quoteName column.name :: type :: column.clauses comment) := by
  cases written : column.commentSql? with
  | error fault => rw [definition, written] at defined; cases defined
  | ok comment =>
      rw [definition_eq_ok physical written] at defined
      cases defined
      exact ⟨comment, rfl, rfl⟩

/-- The definition of an accepted column is put together from these parts. -/
theorem exists_parts_of_definition (accepted : column.verdict = .ok) {sql : String}
    (defined : column.definition = .ok sql) :
    ∃ type comment, column.physicalType.text? = some type ∧ column.commentSql? = .ok comment ∧
      sql = String.intercalate " " (quoteName column.name :: type :: column.clauses comment) := by
  obtain ⟨type, physical, _⟩ := exists_text_physicalType accepted
  obtain ⟨comment, written, parts⟩ := exists_comment_of_definition physical defined
  exact ⟨type, comment, physical, written, parts⟩

/-- The definition of an accepted column is read as its name, its default and its comment. -/
theorem reads_definition (accepted : column.verdict = .ok) {sql : String}
    (defined : column.definition = .ok sql) : ReadsAs meaning sql.toList column.quotedParts := by
  obtain ⟨type, comment, physical, written, rfl⟩ := exists_parts_of_definition accepted defined
  obtain ⟨_, found, typeUnquoted⟩ := exists_unquoted_physicalType accepted
  cases physical.symm.trans found
  rw [String.toList_intercalate]
  apply EachReads.intercalate _ (by decide) (.of_text rfl)
  exact .cons (.quoteName column.name)
    (.cons (.of_unquoted typeUnquoted) (eachReads_clauses accepted written))

theorem definitions_cons_eq_ok {rest : List Column} {lines : List String}
    (defined : definitions (column :: rest) = .ok lines) :
    ∃ first others, column.definition = .ok first ∧ definitions rest = .ok others ∧
      lines = first :: others := by
  rw [definitions] at defined
  cases ofFirst : column.definition with
  | error fault => rw [ofFirst] at defined; cases defined
  | ok first =>
      cases ofRest : definitions rest with
      | error fault => rw [ofFirst, ofRest] at defined; cases defined
      | ok others =>
          rw [ofFirst, ofRest] at defined
          cases defined
          exact ⟨first, others, rfl, rfl, rfl⟩

theorem eachReads_definitions {columns : List Column} {lines : List String}
    (accepted : ∀ column ∈ columns, column.verdict = .ok)
    (defined : definitions columns = .ok lines) :
    EachReads meaning (lines.map String.toList) (columns.flatMap quotedParts) := by
  induction columns generalizing lines with
  | nil =>
      cases defined
      exact .nil
  | cons column rest ih =>
      obtain ⟨first, others, ofFirst, ofRest, rfl⟩ := definitions_cons_eq_ok defined
      obtain ⟨firstAccepted, restAccepted⟩ := List.forall_mem_cons.mp accepted
      exact .cons (reads_definition firstAccepted ofFirst) (ih restAccepted ofRest)

theorem reads_index {keyword : String} (unquoted : IsUnquoted keyword.toList)
    (index name : String) :
    ReadsAs meaning (keyword ++ quoteName index ++ " (" ++ quoteName name ++ ")").toList
      [.name index, .name name] := by
  simp only [String.toList_append]
  have front : ReadsAs meaning (keyword.toList ++ (quoteName index).toList) [.name index] :=
    .unquoted_append unquoted (.quoteName index)
  exact (front.append_unquoted (by decide) (.of_text rfl) (.quoteName name)).append_of_unquoted
    (.of_text rfl)

/-- The definition of the index of a column is read as its name and that of the column. -/
theorem eachReads_indexDefinition? (column : Column) :
    EachReads meaning (column.indexDefinition?.toList.map String.toList) column.quotedIndex := by
  rw [indexDefinition?, quotedIndex]
  split
  next => exact .nil
  next =>
    split
    next => exact .singleton (reads_index (.of_text rfl) _ _)
    next =>
      split
      next => exact .singleton (reads_index (.of_text rfl) _ _)
      next => exact .nil

end Column

namespace Table

/-- What the statement that creates a table quotes, from left to right. -/
def quotedParts (table : Table) : List Quoted :=
  .name table.name :: (table.columns.flatMap Column.quotedParts ++
    (table.primaryKey.toList.map .name ++ table.columns.flatMap Column.quotedIndex))

variable {table : Table}

theorem eachReads_keyDefinition? (table : Table) :
    EachReads meaning (table.keyDefinition?.toList.map String.toList)
      (table.primaryKey.toList.map .name) := by
  rw [keyDefinition?]
  cases table.primaryKey with
  | none => exact .nil
  | some name =>
      apply EachReads.singleton
      simp only [String.toList_append]
      exact ReadsAs.append_of_unquoted (.unquoted_append (.of_text rfl) (.quoteName name))
        (.of_text rfl)

theorem eachReads_closingLines (table : Table) :
    EachReads meaning (table.closingLines.map String.toList)
      (table.primaryKey.toList.map .name ++ table.columns.flatMap Column.quotedIndex) := by
  rw [closingLines, List.map_append, List.filterMap_eq_flatMap_toList, List.map_flatMap]
  exact table.eachReads_keyDefinition?.append
    (.flatMap fun column _ => column.eachReads_indexDefinition?)

/-- The statement that creates a table is read as what it quotes. -/
theorem quotedParts_createSql (coherent : table.Coherent .standard) {sql : String}
    (created : table.createSql = .ok sql) :
    Sql.quotedParts meaning sql.toList = some table.quotedParts := by
  obtain ⟨definitions, defined, rfl⟩ := exists_lines_of_createSql created
  have front : ReadsAs meaning ("CREATE TABLE IF NOT EXISTS " ++ quoteName table.name).toList
      [.name table.name] := by
    rw [String.toList_append]
    exact .unquoted_append (.of_text rfl) (.quoteName table.name)
  have accepted : ∀ column ∈ table.columns, column.verdict = .ok :=
    fun _ => coherent.verdict_eq_ok
  have each : EachReads meaning _ _ :=
    (Column.eachReads_definitions accepted defined).append table.eachReads_closingLines
  rw [← List.map_append] at each
  have lines : ReadsAs meaning (",\n  ".toList.intercalate _) _ :=
    each.intercalate (by decide) (.of_text rfl)
  apply ReadsAs.quotedParts_eq
  rw [String.toList_append, String.toList_append, String.toList_append,
    String.toList_intercalate, quotedParts, ← List.singleton_append]
  exact (front.append_unquoted (by decide) (.of_text rfl) lines).append_of_unquoted
    (.of_text rfl)

end Table

/-- What was quoted is read back whole, with whatever follows left over, unless that starts with the
mark that closes the part. So the statement that creates a table, which can be written if the
comments are texts, is read as the names, defaults and comments that it was written from. -/
theorem quoted_text_reads_back (meaning : Char → List Char) :
    (∀ v t : String, t.toList.head? ≠ some '\'' →
      readLiteral meaning (quoteLiteral v ++ t).toList = some ⟨v.toList, t.toList⟩) ∧
    (∀ n t : String, t.toList.head? ≠ some '\x60' →
      readName (quoteName n ++ t).toList = some ⟨n.toList, t.toList⟩) ∧
    ∀ (name fields label : Value) (table : Table),
      (Table.build name fields .standard label).result = .ok table →
        ((∀ column ∈ table.columns, column.HasTextComment) → ∃ sql, table.createSql = .ok sql) ∧
        ∀ sql, table.createSql = .ok sql →
          quotedParts meaning sql.toList = some table.quotedParts := by
  refine ⟨fun v t ends => ?_, fun n t ends => ?_, fun name fields label table built => ⟨?_, ?_⟩⟩
  · rw [String.toList_append, toList_quoteLiteral]
    exact readLiteral_quoteLiteralChars v.toList ends
  · rw [String.toList_append, toList_quoteName]
    exact readName_quoteNameChars n.toList ends
  · intro commented
    obtain ⟨sql, _, created, _, _⟩ :=
      Table.exists_createSql (Table.coherent_of_build built) commented
    exact ⟨sql, created⟩
  · exact fun sql created => Table.quotedParts_createSql (Table.coherent_of_build built) created

/-- A default that ends in a backslash and a comment full of marks are read back as they are. -/
theorem quoted_text_reads_back_remarks :
    readLiteral (fun c => [c]) (quoteLiteral "it's \\" ++ " COMMENT").toList =
      some ⟨"it's \\".toList, " COMMENT".toList⟩ ∧
    readName (quoteName "a`b" ++ "'").toList = some ⟨"a`b".toList, "'".toList⟩ ∧
    ∃ sql, remarks.createSql = .ok sql ∧ quotedParts (fun c => [c]) sql.toList =
      some [.name "remarks", .name "id", .name "remark", .literal "it's ?, :a and \\",
        .literal "\"what?\" :b\n", .name "id"] := by
  obtain ⟨literals, names, tables⟩ := quoted_text_reads_back fun c => [c]
  obtain ⟨written, reads⟩ := tables (.text "Remark")
    (.list [personId.toValue, remarkColumn.toValue]) (.text "remarks") remarks rfl
  have commented : ∀ column ∈ remarks.columns, column.HasTextComment := by
    simp only [remarks, List.forall_mem_cons]
    exact ⟨.inl rfl, .inr rfl, by simp⟩
  obtain ⟨sql, created⟩ := written commented
  refine ⟨literals _ _ (by decide), names _ _ (by decide), sql, created, ?_⟩
  rw [reads sql created]
  rfl

end RowMapper
