import RowMapper.Proofs.Schema.TableDefinition

/-!
# The labels of the library's own statements

What is measured about a statement is filed under the table and the operation that its text tells.
For the statements that the library builds the text tells both as they are, also where the table or
a column has the name of a keyword: names stand between backticks, and the table of a query or a
removal stands behind the first `FROM` that is no part of a name.
-/

namespace RowMapper

open Sql

/-- Whether a statement was built whose text tells the table and an operation. -/
def Table.BuildsLabelled (table : Table) (verb : Verb) (built : Except Fault Statement) : Prop :=
  ∃ statement, built = .ok statement ∧
    Label.ofSql statement.sql = ⟨some table.name, some verb⟩

/-- Whether all columns that options name have plain names. -/
def ReadOptions.NamesPlainly (options : ReadOptions) : Prop :=
  ∀ items, options.fields.sequence? = some items →
    ∀ key ∈ items, isPlainName key.columnName = true

namespace ReadOptions

/-- The search for a table passes over the columns that a query returns. -/
theorem findTable?_columnsText {options : ReadOptions} (plainly : options.NamesPlainly)
    (rest : List Char) :
    findTable? false (options.columnsText.toList ++ ' ' :: rest) = findTable? false rest := by
  have star : PassesAsWord "*".toList := by decide
  rw [columnsText]
  split
  · exact star.findTable? false rest
  · exact star.findTable? false rest
  next names nonempty sequence =>
    have quoted : names.map (fun key => quoteName key.columnName) =
        (names.map Value.columnName).map quoteName := by
      rw [List.map_map]
      rfl
    rw [quoted]
    refine findTable?_names ?_ (List.forall_mem_map.mpr (plainly names sequence)) false rest
    simpa using nonempty

end ReadOptions

namespace Statement

variable {table : Table} {predicate : Predicate}

/-- Clauses begin with the first of them. -/
theorem isPrefix_joinClauses {head : String} (nonempty : head ≠ "") (rest : List String) :
    head.toList <+: (joinClauses (head :: rest)).toList := by
  rw [toList_joinClauses rest nonempty]
  exact List.prefix_append _ _

/-- A query that orders nothing begins with its head. -/
theorem exists_readSql (head : String) (nonempty : head ≠ "") (predicate : Predicate)
    {options : ReadOptions} (noOrder : options.orderBy = .null) :
    ∃ sql, readSql head predicate options = .ok sql ∧ head.toList <+: sql.toList := by
  refine ⟨joinClauses [head, predicate.whereClause, "", limitClause options.limit options.offset],
    ?_, isPrefix_joinClauses nonempty _⟩
  rw [readSql, noOrder]
  rfl

/-- The label of a query: the search for its table passes over what it returns. -/
theorem ofSql_of_query {sql columns name : String} (plain : isPlainName name = true)
    (passed : ∀ cs, findTable? false (columns.toList ++ ' ' :: cs) = findTable? false cs)
    (begins : ("SELECT " ++ columns ++ " FROM " ++ quoteName name).toList <+: sql.toList) :
    Label.ofSql sql = ⟨some name, some .select⟩ := by
  have keyword : PassesAsWord "SELECT".toList := by decide
  have leads (cs : List Char) :
      leadingPhrase? ("SELECT".toList ++ ' ' :: cs) = some (.select, Text.trimStart cs) := rfl
  obtain ⟨rest, written⟩ := begins
  have whole : sql.toList = "SELECT".toList ++ ' ' :: (columns.toList ++ ' ' ::
      'F' :: 'R' :: 'O' :: 'M' :: ' ' :: ((quoteName name).toList ++ rest)) := by
    rw [← written]
    simp
  refine Label.ofSql_of_from rfl (by rw [whole]; exact leads _) ?_
  rw [whole, keyword.findTable?, passed, findTable?_from plain]

/-- The label of a removal. -/
theorem ofSql_of_removal {sql name : String} (plain : isPlainName name = true)
    (begins : ("DELETE FROM " ++ quoteName name).toList <+: sql.toList) :
    Label.ofSql sql = ⟨some name, some .delete⟩ := by
  have keyword : PassesAsWord "DELETE".toList := by decide
  have leads (cs : List Char) : leadingPhrase?
      ("DELETE".toList ++ ' ' :: 'F' :: 'R' :: 'O' :: 'M' :: ' ' :: cs) =
        some (.delete, Text.trimStart cs) := rfl
  obtain ⟨rest, written⟩ := begins
  have whole : sql.toList = "DELETE".toList ++ ' ' :: 'F' :: 'R' :: 'O' :: 'M' :: ' ' ::
      ((quoteName name).toList ++ rest) := by
    rw [← written]
    simp
  refine Label.ofSql_of_from rfl (by rw [whole]; exact leads _) ?_
  rw [whole, keyword.findTable?, findTable?_from plain]

theorem select_buildsLabelled (plain : isPlainName table.name = true) {options : ReadOptions}
    (noText : options.HasNoText table) (plainly : options.NamesPlainly) :
    table.BuildsLabelled .select (select table predicate options) := by
  obtain ⟨sql, read, begins⟩ := exists_readSql
    ("SELECT " ++ options.columnsText ++ " FROM " ++ quoteName table.name) (by simp)
    predicate noText.orderBy
  refine ⟨⟨sql, predicate.parameters, .select, table.name⟩, ?_,
    ofSql_of_query plain (ReadOptions.findTable?_columnsText plainly) begins⟩
  simp only [select, ReadOptions.projection_fields noText]
  change (readSql _ predicate options).mapError _ >>= _ = _
  rw [read]
  rfl

theorem count_buildsLabelled (plain : isPlainName table.name = true) {options : ReadOptions}
    (noText : options.HasNoText table) :
    table.BuildsLabelled .select (count table predicate options) := by
  have counted : PassesAsWord "COUNT(*)".toList := by decide
  have as : PassesAsWord "AS".toList := by decide
  have named : PassesAsWord "N".toList := by decide
  have passed (cs : List Char) :
      findTable? false ("COUNT(*) AS N".toList ++ ' ' :: cs) = findTable? false cs := by
    have words : "COUNT(*) AS N".toList ++ ' ' :: cs =
        "COUNT(*)".toList ++ ' ' :: ("AS".toList ++ ' ' :: ("N".toList ++ ' ' :: cs)) := rfl
    rw [words, counted.findTable?, as.findTable?, named.findTable?]
  obtain ⟨sql, read, begins⟩ := exists_readSql
    ("SELECT " ++ "COUNT(*) AS N" ++ " FROM " ++ quoteName table.name) (by simp)
    predicate noText.orderBy
  refine ⟨⟨sql, predicate.parameters, .count, table.name⟩, ?_, ofSql_of_query plain passed begins⟩
  simp only [count, noText.count]
  change (readSql ("SELECT " ++ "COUNT(*) AS N" ++ " FROM " ++ _) predicate options).mapError _ >>=
    _ = _
  rw [read]
  rfl

theorem insert_buildsLabelled (plain : isPlainName table.name = true) {row : Entries}
    (named : table.NamesColumns row.keys) : table.BuildsLabelled .insert (insert table row) := by
  refine ⟨_, by simp only [insert, quotedNames_of_namesColumns named]; rfl, ?_⟩
  apply Label.ofSql_of_phrase "INSERT INTO " plain rfl (fun _ => rfl)
  simp

theorem update_buildsLabelled (plain : isPlainName table.name = true) {assignments : Entries}
    (named : table.NamesColumns assignments.keys) (assigns : assignments ≠ [])
    (restricts : predicate.isEmpty = false) :
    table.BuildsLabelled .update (update table assignments predicate) := by
  have someAssigned : assignments.isEmpty = false := by simpa using assigns
  refine ⟨⟨updateSql table (assignments.keys.map fun key => quoteName key.columnName) predicate,
    assignments.values ++ predicate.parameters, .update, table.name⟩, ?_, ?_⟩
  · simp only [update, restricts, someAssigned, quotedNames_of_namesColumns named]
    rfl
  · apply Label.ofSql_of_phrase "UPDATE " plain rfl (fun _ => rfl)
    refine List.IsPrefix.trans ?_ (isPrefix_joinClauses (by simp) _)
    simp

theorem delete_buildsLabelled (plain : isPlainName table.name = true)
    (restricts : predicate.isEmpty = false) :
    table.BuildsLabelled .delete (delete table predicate) := by
  refine ⟨_, by simp only [delete, restricts]; rfl, ?_⟩
  exact ofSql_of_removal plain (isPrefix_joinClauses (by simp) _)

theorem ofSql_drop (plain : isPlainName table.name = true) :
    Label.ofSql (drop table).sql = ⟨some table.name, some .drop⟩ :=
  Label.ofSql_of_phrase "DROP TABLE IF EXISTS " plain rfl (fun _ => rfl)
    (List.prefix_refl _)

/-- The label of the statement that creates a table, whenever there is one. -/
theorem ofSql_of_create (plain : isPlainName table.name = true) {statement : Statement}
    (built : create table = .ok statement) :
    Label.ofSql statement.sql = ⟨some table.name, some .create⟩ := by
  cases defined : Column.definitions table.columns with
  | error fault =>
      simp only [create, Table.createSql, defined] at built
      cases built
  | ok lines =>
      simp only [create, Table.createSql, defined] at built
      cases built
      apply Label.ofSql_of_phrase "CREATE TABLE IF NOT EXISTS " plain rfl (fun _ => rfl)
      simp

end Statement

/-- Every statement that the library builds for a declared table with a plain name is measured under
this table and its own operation, where counting rows is reading them. The names of the table and
of its columns do not matter, and neither does the predicate, so names of keywords and values do not
mislead. -/
theorem Table.statements_labelled {name fields label : Value} {check : StorageCheck}
    {table : Table} (built : (build name fields check label).result = .ok table)
    (plain : isPlainName table.name = true) (predicate : Predicate) :
    (∀ options : ReadOptions, options.HasNoText table → options.NamesPlainly →
        table.BuildsLabelled .select (Statement.select table predicate options) ∧
          table.BuildsLabelled .select (Statement.count table predicate options)) ∧
      (∀ row : Entries, table.NamesColumns row.keys →
        table.BuildsLabelled .insert (Statement.insert table row)) ∧
      (predicate.isEmpty = false →
        (∀ assignments : Entries, table.NamesColumns assignments.keys → assignments ≠ [] →
          table.BuildsLabelled .update (Statement.update table assignments predicate)) ∧
        table.BuildsLabelled .delete (Statement.delete table predicate)) ∧
      table.BuildsLabelled .drop (.ok (Statement.drop table)) ∧
      (∀ statement, Statement.create table = .ok statement →
        Label.ofSql statement.sql = ⟨some table.name, some .create⟩) ∧
      (check = .standard → (∀ column ∈ table.columns, column.HasTextComment) →
        table.BuildsLabelled .create (Statement.create table)) := by
  refine ⟨?reading, ?insertion, ?changing, ?dropping, ?creation, ?created⟩
  case reading =>
    intro options noText plainly
    exact ⟨Statement.select_buildsLabelled plain noText plainly,
      Statement.count_buildsLabelled plain noText⟩
  case insertion =>
    intro row named
    exact Statement.insert_buildsLabelled plain named
  case changing =>
    intro restricts
    refine ⟨?_, Statement.delete_buildsLabelled plain restricts⟩
    intro assignments named assigns
    exact Statement.update_buildsLabelled plain named assigns restricts
  case dropping => exact ⟨_, rfl, Statement.ofSql_drop plain⟩
  case creation =>
    intro statement created
    exact Statement.ofSql_of_create plain created
  case created =>
    intro standard commented
    subst standard
    obtain ⟨sql, _, written, _, _⟩ := exists_createSql (coherent_of_build built) commented
    have created : Statement.create table = .ok ⟨sql, [], .create, table.name⟩ := by
      rw [Statement.create, written]
      rfl
    exact ⟨_, created, Statement.ofSql_of_create plain created⟩

/-- A table whose name and columns are keywords, for examples. -/
def keywords : Table :=
  let select : Column := { personId with label := .text "select" }
  let source : Column := { personActive with label := .text "from" }
  ⟨.text "From", .text "from", [select, source], some select, none⟩

/-- A query for the columns `select` and `from` of the table `from` is measured as a query of this
table. -/
theorem statements_labelled_keywords :
    keywords.BuildsLabelled .select (Statement.select keywords ⟨[.equals "from" (.int 1)]⟩
      { ReadOptions.standard with fields := .list [.text "from", .text "select"] }) := by
  have built : (Table.build (.text "From")
      (.list (keywords.columns.map Column.toValue)) .standard (.text "from")).result =
        .ok keywords := rfl
  obtain ⟨reads, -⟩ :=
    Table.statements_labelled built (by decide) ⟨[.equals "from" (.int 1)]⟩
  refine (reads _ ⟨?_, rfl, rfl⟩ ?_).1
  · refine .inr (.inr ⟨_, rfl, ?_⟩)
    simp only [Table.NamesColumns, List.forall_mem_cons]
    exact ⟨rfl, rfl, by simp⟩
  · intro items sequence
    cases sequence
    simp only [List.forall_mem_cons]
    exact ⟨by decide, by decide, by simp⟩

end RowMapper
