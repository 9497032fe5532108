import RowMapper.Proofs.Query.Comparison
import RowMapper.Proofs.Sql.Layout
import RowMapper.Proofs.Sql.PlainName
import RowMapper.Query.Statement

/-!
# Values at their places in statements

For every statement that the library builds there is a layout, which puts each value at the place of
its own column: the columns of a row in an insertion, the assigned columns and then the compared
ones in an update, the compared ones elsewhere. With plain names the parts of these layouts fit
together, so the statements are bound along them.
-/

namespace RowMapper

open Sql

/-! ## Texts and names -/

/-- Whether the table and all its columns have plain names. -/
structure Table.HasPlainNames (table : Table) : Prop where
  table_plain : isPlainName table.name = true
  column_plain : ∀ column ∈ table.columns, isPlainName column.name = true

/-- A value with the items of a sequence is a list or a tuple. -/
theorem Value.eq_of_sequence? {v : Value} {items : List Value}
    (sequence : v.sequence? = some items) : v = .list items ∨ v = .tuple items := by
  cases v with
  | list others => cases sequence; exact .inl rfl
  | tuple others => cases sequence; exact .inr rfl
  | _ => cases sequence

/-- The name of the column that a key names. -/
def Value.columnName (key : Value) : String :=
  key.text?.getD ""

/-- Whether every key of some entries names a column of the table. -/
def Table.NamesColumns (table : Table) (keys : List Value) : Prop :=
  ∀ key ∈ keys, (table.columnAt? key).isSome = true

namespace Table

/-- A key that names a column is the text of its name. -/
theorem text?_of_namesColumns {table : Table} {keys : List Value}
    (named : table.NamesColumns keys) {key : Value} (member : key ∈ keys) :
    key.text? = some key.columnName := by
  obtain ⟨column, found⟩ := Option.isSome_iff_exists.mp (named key member)
  rw [Value.columnName, (columnAt?_eq_some found).2]
  rfl

theorem isPlain_columnName {table : Table} (plain : table.HasPlainNames) {keys : List Value}
    (named : table.NamesColumns keys) {key : Value} (member : key ∈ keys) :
    isPlainName key.columnName = true := by
  obtain ⟨column, found⟩ := Option.isSome_iff_exists.mp (named key member)
  rw [Value.columnName, (columnAt?_eq_some found).2]
  exact plain.column_plain column (columnAt?_eq_some found).1

end Table

namespace Statement

/-- Keys that name columns are quoted without a fault. -/
theorem quotedNames_of_namesColumns {table : Table} {keys : List Value}
    (named : table.NamesColumns keys) :
    quotedNames keys = .ok (keys.map fun key => quoteName key.columnName) := by
  induction keys with
  | nil => rfl
  | cons key rest ih =>
      have text := Table.text?_of_namesColumns named List.mem_cons_self
      have others := ih fun other member => named other (List.mem_cons_of_mem key member)
      simp only [quotedNames, Value.asName, Value.escapable, text, others]
      rfl

/-- The characters of clauses of which the first is not empty: each further one that is not empty
stands behind a space. -/
theorem toList_joinClauses {head : String} (rest : List String) (nonempty : head ≠ "") :
    (joinClauses (head :: rest)).toList =
      head.toList ++ rest.flatMap fun clause =>
        if clause = "" then [] else ' ' :: clause.toList := by
  have general : ∀ clauses : List String, ∀ first : String,
      [' '].intercalate ((first :: clauses.filter (!·.isEmpty)).map String.toList) =
        first.toList ++ clauses.flatMap fun clause =>
          if clause = "" then [] else ' ' :: clause.toList := by
    intro clauses
    induction clauses with
    | nil => simp
    | cons clause others ih =>
        intro first
        by_cases empty : clause = ""
        · have head := ih first
          simpa [empty] using head
        · have head := ih clause
          rw [List.filter_cons_of_pos (by simpa using empty), List.map_cons,
            List.intercalate_cons_of_ne_nil (by simp), head]
          simp [empty]
  rw [joinClauses, List.filter_cons_of_pos (by simpa using nonempty), String.toList_intercalate]
  exact general rest head

end Statement

/-! ## Layouts of clauses -/

/-- The layout of a comparison. -/
def Comparison.layout : Comparison → Layout
  | .equals column v => [.text (quoteName column.name ++ "="), .place column.name v]
  | .memberOf column items =>
      if items.isEmpty then [.text (quoteName column.name ++ " IN (NULL)")]
      else
        .text (quoteName column.name ++ " IN (") ::
          (Layout.separated "," (items.map fun v => [.place column.name v]) ++ [.text ")"])

/-- The layout of a `WHERE` clause with the space before it. -/
def whereLayout (comparisons : List Comparison) : Layout :=
  if comparisons.isEmpty then []
  else .text " WHERE " :: Layout.separated " AND " (comparisons.map Comparison.layout)

/-- The layout of an entry as an assignment. -/
def assignmentLayout (entry : Value × Value) : Layout :=
  [.text (quoteName entry.1.columnName ++ "="), .place entry.1.columnName entry.2]

/-- The layout of a clause that holds no value, with the space before it. -/
def clauseLayout (clause : String) : Layout :=
  if clause = "" then [] else [.text (" " ++ clause)]

theorem isPlain_append_literal {name literal : String} (plain : isPlainName name = true)
    (literalPlain : IsPlain literal.toList) : IsPlain (quoteName name ++ literal).toList := by
  rw [String.toList_append]
  exact (isPlain_quoteName plain).append literalPlain

theorem startsWord_quoteName_append (name rest : String) :
    startsWord (quoteName name ++ rest).toList = false := by
  rw [String.toList_append, toList_quoteName, quoteNameChars]
  rfl

/-- Text behind a quoted name fits wherever a bind may stand. -/
theorem fits_quoteName_text {name literal : String} (plain : isPlainName name = true)
    (literalPlain : IsPlain literal.toList) {previous : Option Char} {rest : Layout}
    (restFits : rest.Fits (quoteName name ++ literal).toList.getLast?) :
    Layout.Fits previous (.text (quoteName name ++ literal) :: rest) := by
  refine ⟨?_, isPlain_append_literal plain literalPlain,
    .inr (startsWord_quoteName_append name literal), restFits⟩
  intro empty
  have noChars := String.toList_eq_nil_iff.mpr empty
  rw [String.toList_append, toList_quoteName, quoteNameChars] at noChars
  cases noChars

theorem getLast?_append_literal (front : String) {back : String} (nonempty : back ≠ "") :
    (front ++ back).toList.getLast? = back.toList.getLast? := by
  cases found : back.toList.getLast? with
  | none =>
      have noChars := List.getLast?_eq_none_iff.mp found
      exact absurd (String.toList_eq_nil_iff.mp noChars) nonempty
  | some c => rw [String.toList_append, List.getLast?_append, found, Option.some_or]

namespace Comparison

theorem chars_layout (comparison : Comparison) :
    comparison.layout.chars = comparison.fragment.text.toList := by
  cases comparison with
  | equals column v =>
      simp [layout, fragment, Fragment.equals, Layout.chars]
  | memberOf column items =>
      simp only [layout, fragment, Fragment.memberOf]
      split
      · simp [Layout.chars]
      · simp [Layout.chars, Layout.chars_separated, String.toList_intercalate,
          Function.comp_def]

theorem values_layout (comparison : Comparison) : comparison.layout.values = comparison.values := by
  cases comparison with
  | equals column v => rfl
  | memberOf column items =>
      simp only [layout, values]
      split
      next empty => exact (List.isEmpty_iff.mp empty).symm
      next => simp [Layout.values, Layout.values_separated, List.flatMap_map]

theorem separates_comma : Layout.Separates "," :=
  ⟨by simp, .of_text rfl, rfl, rfl⟩

/-- A comparison fits wherever a bind may stand. -/
theorem fits_layout {comparison : Comparison}
    (plain : isPlainName comparison.column.name = true) (previous : Option Char) :
    comparison.layout.Fits previous := by
  cases comparison with
  | equals column v =>
      refine fits_quoteName_text plain (.of_text rfl) ⟨?_, trivial⟩
      rw [getLast?_append_literal _ (by simp)]
      decide
  | memberOf column items =>
      simp only [layout]
      split
      · exact fits_quoteName_text plain (.of_text rfl) trivial
      · apply fits_quoteName_text plain (.of_text rfl)
        rw [getLast?_append_literal _ (by simp), Layout.fits_append]
        constructor
        · refine Layout.fits_separated separates_comma ?_ rfl
          intro layout member before allowed
          obtain ⟨v, _, rfl⟩ := List.mem_map.mp member
          exact ⟨allowed, trivial⟩
        · exact ⟨by simp, .of_text rfl, .inr rfl, trivial⟩

end Comparison

theorem separates_and : Layout.Separates " AND " :=
  ⟨by simp, .of_text rfl, rfl, rfl⟩

theorem chars_whereLayout (comparisons : List Comparison) :
    (whereLayout comparisons).chars =
      if (Predicate.ofComparisons comparisons).whereClause = "" then []
      else ' ' :: (Predicate.ofComparisons comparisons).whereClause.toList := by
  cases comparisons with
  | nil => rfl
  | cons comparison rest =>
      have written := Predicate.whereClause_ofComparisons (List.cons_ne_nil comparison rest)
      have nonempty : (Predicate.ofComparisons (comparison :: rest)).whereClause ≠ "" := by
        rw [written]
        simp
      rw [if_neg nonempty, written, whereLayout, if_neg (by simp), Layout.chars,
        Layout.chars_separated, String.toList_append, String.toList_intercalate, List.map_map,
        List.map_map]
      simp [Function.comp_def, Comparison.chars_layout]

theorem values_whereLayout (comparisons : List Comparison) :
    (whereLayout comparisons).values = (Predicate.ofComparisons comparisons).parameters := by
  rw [Predicate.parameters_ofComparisons]
  cases comparisons with
  | nil => rfl
  | cons comparison rest =>
      rw [whereLayout, if_neg (by simp), Layout.values, Layout.values_separated,
        List.flatMap_map]
      simp only [Comparison.values_layout]

/-- A `WHERE` clause fits behind anything, since a space starts it. -/
theorem fits_whereLayout {comparisons : List Comparison}
    (plain : ∀ comparison ∈ comparisons, isPlainName comparison.column.name = true)
    (previous : Option Char) : (whereLayout comparisons).Fits previous := by
  rw [whereLayout]
  split
  · trivial
  · refine ⟨by simp, .of_text rfl, .inr rfl, ?_⟩
    refine Layout.fits_separated separates_and ?_ rfl
    intro layout member before _
    obtain ⟨comparison, inComparisons, rfl⟩ := List.mem_map.mp member
    exact Comparison.fits_layout (plain comparison inComparisons) before

theorem chars_clauseLayout (clause : String) :
    (clauseLayout clause).chars = if clause = "" then [] else ' ' :: clause.toList := by
  rw [clauseLayout]
  split
  · rfl
  · simp [Layout.chars]

theorem values_clauseLayout (clause : String) : (clauseLayout clause).values = [] := by
  rw [clauseLayout]
  split <;> rfl

theorem fits_clauseLayout {clause : String} (plain : IsPlain clause.toList)
    (previous : Option Char) : (clauseLayout clause).Fits previous := by
  rw [clauseLayout]
  split
  · trivial
  · refine ⟨by simp, ?_, .inr ?_, trivial⟩
    · rw [String.toList_append]
      exact IsPlain.append (.of_text rfl) plain
    · rw [String.toList_append]
      rfl

theorem isPlain_limitClause (limit offset : Option Nat) :
    IsPlain (Statement.limitClause limit offset).toList := by
  have keyword : IsPlain "LIMIT ".toList := .of_text rfl
  have comma : IsPlain ", ".toList := .of_text rfl
  cases limit with
  | none => exact IsPlain.nil
  | some limit =>
      have plainLimit : IsPlain ("LIMIT " ++ Nat.repr limit).toList := by
        rw [String.toList_append]
        exact keyword.append (isPlain_repr limit)
      cases offset with
      | none => exact plainLimit
      | some n =>
          cases n with
          | zero => exact plainLimit
          | succ n =>
              simp only [Statement.limitClause, String.toList_append]
              exact ((keyword.append (isPlain_repr _)).append comma).append (isPlain_repr _)

/-! ## Layouts of statements -/

/-- Whether a statement was built that is bound along a layout. -/
def BuildsAlong (layout : Layout) (built : Except Fault Statement) : Prop :=
  ∃ statement, built = .ok statement ∧ BindsAlong layout statement.sql statement.parameters

namespace ReadOptions

/-- Whether options hold no text that becomes part of a statement as it stands: everything or named
columns are returned, nothing is ordered, and every row is counted. -/
structure HasNoText (table : Table) (options : ReadOptions) : Prop where
  fields : options.fields = .null ∨ options.fields = .text "*" ∨
    ∃ items, options.fields.sequence? = some items ∧ table.NamesColumns items
  orderBy : options.orderBy = .null
  count : options.count = .null

/-- The columns that options ask for, everything if they name none. -/
def columnsText (options : ReadOptions) : String :=
  match options.fields.sequence? with
  | none | some [] => "*"
  | some names => String.intercalate ", " (names.map fun key => quoteName key.columnName)

/-- A list or tuple of columns that are named stands in the query, quoted. -/
theorem projection_of_sequence {fields : Value} {items : List Value} {names : List String}
    (sequence : fields.sequence? = some items) (quoted : Statement.quotedNames items = .ok names) :
    Statement.projection fields =
      .ok (if items.isEmpty then "*" else String.intercalate ", " names) := by
  have shape := Value.eq_of_sequence? sequence
  cases items with
  | nil => rcases shape with rfl | rfl <;> rfl
  | cons key rest =>
      have read : Statement.projection fields =
          (Statement.quotedNames (key :: rest)).map (String.intercalate ", ") := by
        rcases shape with rfl | rfl <;> rfl
      rw [read, quoted]
      rfl

theorem projection_fields {table : Table} {options : ReadOptions}
    (noText : options.HasNoText table) :
    Statement.projection options.fields = .ok options.columnsText := by
  rcases noText.fields with null | star | ⟨items, sequence, named⟩
  · rw [columnsText, null]
    rfl
  · rw [columnsText, star]
    rfl
  · rw [projection_of_sequence sequence (Statement.quotedNames_of_namesColumns named),
      columnsText, sequence]
    cases items <;> rfl

theorem isPlain_columnsText {table : Table} (plain : table.HasPlainNames) {options : ReadOptions}
    (noText : options.HasNoText table) : IsPlain options.columnsText.toList := by
  have star : IsPlain "*".toList := .of_text rfl
  rcases noText.fields with null | text | ⟨items, sequence, named⟩
  · rw [columnsText, null]
    exact star
  · rw [columnsText, text]
    exact star
  · rw [columnsText, sequence]
    cases items with
    | nil => exact star
    | cons key rest =>
        rw [String.toList_intercalate, List.map_map]
        apply IsPlain.intercalate (.of_text rfl)
        intro text member
        obtain ⟨other, inItems, rfl⟩ := List.mem_map.mp member
        exact isPlain_quoteName (Table.isPlain_columnName plain named inItems)

end ReadOptions

namespace StatementLayout

/-- The layout of a reading query that starts with a head. -/
def read (head : String) (comparisons : List Comparison) (options : ReadOptions) : Layout :=
  .text head ::
    (whereLayout comparisons ++
      clauseLayout (Statement.limitClause options.limit options.offset))

/-- The layout of a query for rows. -/
def select (table : Table) (options : ReadOptions) (comparisons : List Comparison) : Layout :=
  read ("SELECT " ++ options.columnsText ++ " FROM " ++ quoteName table.name) comparisons options

/-- The layout of a query for the count of rows. -/
def count (table : Table) (options : ReadOptions) (comparisons : List Comparison) : Layout :=
  read ("SELECT COUNT(*) AS N FROM " ++ quoteName table.name) comparisons options

/-- The layout of an insertion: the places stand in the order of the columns. -/
def insert (table : Table) (row : Entries) : Layout :=
  .text ("INSERT INTO " ++ quoteName table.name ++ " (" ++
      String.intercalate ", " (row.map fun entry => quoteName entry.1.columnName) ++
      ") VALUES (") ::
    (Layout.separated ", " (row.map fun entry => [.place entry.1.columnName entry.2]) ++
      [.text ")"])

/-- The layout of an update: the places of the assignments stand before those of the
comparisons. -/
def update (table : Table) (assignments : Entries) (comparisons : List Comparison) : Layout :=
  .text ("UPDATE " ++ quoteName table.name ++ " SET ") ::
    (Layout.separated ", " (assignments.map assignmentLayout) ++ whereLayout comparisons)

/-- The layout of a removal. -/
def delete (table : Table) (comparisons : List Comparison) : Layout :=
  .text ("DELETE FROM " ++ quoteName table.name) :: whereLayout comparisons

theorem fits_read {head : String} (nonempty : head ≠ "") (headPlain : IsPlain head.toList)
    {comparisons : List Comparison}
    (plain : ∀ comparison ∈ comparisons, isPlainName comparison.column.name = true)
    (options : ReadOptions) : (read head comparisons options).Fits none := by
  refine ⟨nonempty, headPlain, .inl rfl, ?_⟩
  rw [Layout.fits_append]
  exact ⟨fits_whereLayout plain _, fits_clauseLayout (isPlain_limitClause _ _) _⟩

end StatementLayout

namespace Statement

variable {table : Table} {comparisons : List Comparison}

/-- A reading query that orders nothing. -/
def plainReadSql (head : String) (comparisons : List Comparison) (options : ReadOptions) :
    String :=
  joinClauses [head, (Predicate.ofComparisons comparisons).whereClause, "",
    limitClause options.limit options.offset]

theorem readSql_eq (head : String) (comparisons : List Comparison) {options : ReadOptions}
    (noOrder : options.orderBy = .null) :
    readSql head (.ofComparisons comparisons) options =
      .ok (plainReadSql head comparisons options) := by
  rw [readSql, noOrder]
  rfl

/-- A reading query is bound along its layout. -/
theorem bindsAlong_read {head : String} (nonempty : head ≠ "") (headPlain : IsPlain head.toList)
    (plain : ∀ comparison ∈ comparisons, isPlainName comparison.column.name = true)
    (options : ReadOptions) :
    BindsAlong (StatementLayout.read head comparisons options)
      (plainReadSql head comparisons options)
      (Predicate.ofComparisons comparisons).parameters := by
  refine bindsAlong_of_fits (StatementLayout.fits_read nonempty headPlain plain options) ?_ ?_
  · rw [plainReadSql, toList_joinClauses _ nonempty, StatementLayout.read, Layout.chars,
      Layout.chars_append, chars_whereLayout, chars_clauseLayout]
    simp
  · rw [StatementLayout.read, Layout.values, Layout.values_append, values_whereLayout,
      values_clauseLayout, List.append_nil]

theorem select_buildsAlong (names : table.HasPlainNames)
    (plain : ∀ comparison ∈ comparisons, isPlainName comparison.column.name = true)
    {options : ReadOptions} (noText : options.HasNoText table) :
    BuildsAlong (StatementLayout.select table options comparisons)
      (select table (.ofComparisons comparisons) options) := by
  have headPlain : IsPlain
      ("SELECT " ++ options.columnsText ++ " FROM " ++ quoteName table.name).toList := by
    simp only [String.toList_append]
    exact ((IsPlain.append (.of_text rfl) (options.isPlain_columnsText names noText)).append
      (.of_text rfl)).append (isPlain_quoteName names.table_plain)
  refine ⟨⟨_, _, .select, table.name⟩, ?_, bindsAlong_read (by simp) headPlain plain options⟩
  simp only [select, ReadOptions.projection_fields noText]
  change (do
    let sql ← readSql _ _ options
    return (⟨sql, _, .select, table.name⟩ : Statement) : Except Fault Statement) = _
  rw [readSql_eq _ _ noText.orderBy]
  rfl

theorem count_buildsAlong (names : table.HasPlainNames)
    (plain : ∀ comparison ∈ comparisons, isPlainName comparison.column.name = true)
    {options : ReadOptions} (noText : options.HasNoText table) :
    BuildsAlong (StatementLayout.count table options comparisons)
      (count table (.ofComparisons comparisons) options) := by
  have headPlain : IsPlain ("SELECT COUNT(*) AS N FROM " ++ quoteName table.name).toList := by
    rw [String.toList_append]
    exact IsPlain.append (.of_text rfl) (isPlain_quoteName names.table_plain)
  refine ⟨⟨_, _, .count, table.name⟩, ?_, bindsAlong_read (by simp) headPlain plain options⟩
  simp only [count, noText.count]
  rw [readSql_eq _ _ noText.orderBy]
  rfl

/-- Entries that are written with one place each bring in their values. -/
theorem flatMap_values_map {entries : Entries} {write : Value × Value → Layout}
    (one : ∀ entry, (write entry).values = [entry.2]) :
    (entries.map write).flatMap Layout.values = entries.values := by
  induction entries with
  | nil => rfl
  | cons entry rest ih =>
      rw [List.map_cons, List.flatMap_cons, one entry, ih]
      rfl

theorem separates_listing : Layout.Separates ", " :=
  ⟨by simp, .of_text rfl, rfl, rfl⟩

theorem fits_insert (names : table.HasPlainNames) {row : Entries}
    (named : table.NamesColumns row.keys) : (StatementLayout.insert table row).Fits none := by
  refine ⟨by simp, ?_, .inl rfl, ?_⟩
  · simp only [String.toList_append, String.toList_intercalate, List.map_map]
    refine IsPlain.append (IsPlain.append (IsPlain.append (IsPlain.append ?_
      (isPlain_quoteName names.table_plain)) ?_) ?_) ?_
    · exact .of_text rfl
    · exact .of_text rfl
    · apply IsPlain.intercalate (.of_text rfl)
      intro text member
      obtain ⟨entry, inRow, rfl⟩ := List.mem_map.mp member
      exact isPlain_quoteName
        (Table.isPlain_columnName names named (List.mem_map_of_mem inRow))
    · exact .of_text rfl
  · rw [getLast?_append_literal _ (by simp), Layout.fits_append]
    constructor
    · refine Layout.fits_separated separates_listing ?_ rfl
      intro layout member previous allowed
      obtain ⟨entry, _, rfl⟩ := List.mem_map.mp member
      exact ⟨allowed, trivial⟩
    · exact ⟨by simp, .of_text rfl, .inr rfl, trivial⟩

/-- An insertion is bound along its layout. -/
theorem insert_buildsAlong (names : table.HasPlainNames) {row : Entries}
    (named : table.NamesColumns row.keys) :
    BuildsAlong (StatementLayout.insert table row) (insert table row) := by
  refine ⟨_, by simp only [insert, quotedNames_of_namesColumns named]; rfl, ?_⟩
  refine bindsAlong_of_fits (fits_insert names named) ?_ ?_
  · simp [StatementLayout.insert, Layout.chars, Layout.chars_separated, Entries.keys,
      String.toList_intercalate, Function.comp_def]
  · rw [StatementLayout.insert, Layout.values, Layout.values_append, Layout.values_separated,
      flatMap_values_map fun entry => rfl]
    exact (List.append_nil row.values).symm

theorem fits_assignment (names : table.HasPlainNames) {assignments : Entries}
    (named : table.NamesColumns assignments.keys) {entry : Value × Value}
    (member : entry ∈ assignments) (previous : Option Char) :
    (assignmentLayout entry).Fits previous := by
  have plain := Table.isPlain_columnName names named (List.mem_map_of_mem member)
  refine fits_quoteName_text plain (.of_text rfl) ⟨?_, trivial⟩
  rw [getLast?_append_literal _ (by simp)]
  decide

theorem fits_update (names : table.HasPlainNames) {assignments : Entries}
    (named : table.NamesColumns assignments.keys)
    (plain : ∀ comparison ∈ comparisons, isPlainName comparison.column.name = true) :
    (StatementLayout.update table assignments comparisons).Fits none := by
  refine ⟨by simp, ?_, .inl rfl, ?_⟩
  · simp only [String.toList_append]
    refine IsPlain.append (IsPlain.append ?_ (isPlain_quoteName names.table_plain)) ?_
    · exact .of_text rfl
    · exact .of_text rfl
  · rw [getLast?_append_literal _ (by simp), Layout.fits_append]
    refine ⟨Layout.fits_separated separates_listing ?_ rfl, fits_whereLayout plain _⟩
    intro layout member previous _
    obtain ⟨entry, inAssignments, rfl⟩ := List.mem_map.mp member
    exact fits_assignment names named inAssignments previous

/-- An update with assignments and comparisons is bound along its layout. -/
theorem update_buildsAlong (names : table.HasPlainNames) {assignments : Entries}
    (named : table.NamesColumns assignments.keys) (assigns : assignments ≠ [])
    (plain : ∀ comparison ∈ comparisons, isPlainName comparison.column.name = true)
    (compares : comparisons ≠ []) :
    BuildsAlong (StatementLayout.update table assignments comparisons)
      (update table assignments (.ofComparisons comparisons)) := by
  have noneMissing : (Predicate.ofComparisons comparisons).isEmpty = false := by
    rw [Predicate.isEmpty_ofComparisons]
    simpa using compares
  have someAssigned : assignments.isEmpty = false := by simpa using assigns
  refine ⟨⟨updateSql table (assignments.keys.map fun key => quoteName key.columnName)
    (.ofComparisons comparisons),
    assignments.values ++ (Predicate.ofComparisons comparisons).parameters, .update,
    table.name⟩, ?_, ?_⟩
  · simp only [update, noneMissing, someAssigned, quotedNames_of_namesColumns named]
    rfl
  refine bindsAlong_of_fits (fits_update names named plain) ?_ ?_
  · rw [updateSql, toList_joinClauses _ (by simp), StatementLayout.update, Layout.chars,
      Layout.chars_append, chars_whereLayout, Layout.chars_separated]
    simp [assignmentsSql, assignmentLayout, Layout.chars, Entries.keys,
      String.toList_intercalate, Function.comp_def]
  · rw [StatementLayout.update, Layout.values, Layout.values_append, values_whereLayout,
      Layout.values_separated, flatMap_values_map fun entry => rfl]

/-- A removal with comparisons is bound along its layout. -/
theorem delete_buildsAlong (names : table.HasPlainNames)
    (plain : ∀ comparison ∈ comparisons, isPlainName comparison.column.name = true)
    (compares : comparisons ≠ []) :
    BuildsAlong (StatementLayout.delete table comparisons)
      (delete table (.ofComparisons comparisons)) := by
  have noneMissing : (Predicate.ofComparisons comparisons).isEmpty = false := by
    rw [Predicate.isEmpty_ofComparisons]
    simpa using compares
  have headPlain : IsPlain ("DELETE FROM " ++ quoteName table.name).toList := by
    rw [String.toList_append]
    exact IsPlain.append (.of_text rfl) (isPlain_quoteName names.table_plain)
  refine ⟨_, by simp only [delete, noneMissing]; rfl, ?_⟩
  have fits : (StatementLayout.delete table comparisons).Fits none :=
    ⟨by simp, headPlain, .inl rfl, fits_whereLayout plain _⟩
  refine bindsAlong_of_fits fits ?_ ?_
  · rw [toList_joinClauses _ (by simp), StatementLayout.delete, Layout.chars, chars_whereLayout]
    simp
  · rw [StatementLayout.delete, Layout.values, values_whereLayout]

end Statement

/-! ## All builders -/

namespace Table

/-- Every value of a statement is bound to the placeholder at its own place. Whatever a condition
asks for that was accepted for a declared table with plain names, the statements for it are built
and are bound along their layouts. Those that change rows are refused if nothing is asked for. -/
theorem statements_bindAlong {name fields label : Value} {check : StorageCheck} {table : Table}
    {condition : Option Condition} {environment : Environment} {report : Report Predicate}
    {predicate : Predicate} (built : (build name fields check label).result = .ok table)
    (names : table.HasPlainNames)
    (compiled : (Condition.compile table condition environment).1 = .ok report)
    (accepted : report.result = .ok predicate) :
    ∃ comparisons, Condition.Asks table environment condition comparisons ∧
      (∀ options : ReadOptions, options.HasNoText table →
        BuildsAlong (StatementLayout.select table options comparisons)
            (Statement.select table predicate options) ∧
          BuildsAlong (StatementLayout.count table options comparisons)
            (Statement.count table predicate options)) ∧
      (∀ row : Entries, table.NamesColumns row.keys →
        BuildsAlong (StatementLayout.insert table row) (Statement.insert table row)) ∧
      (comparisons ≠ [] →
        (∀ assignments : Entries, table.NamesColumns assignments.keys → assignments ≠ [] →
          BuildsAlong (StatementLayout.update table assignments comparisons)
            (Statement.update table assignments predicate)) ∧
        BuildsAlong (StatementLayout.delete table comparisons)
          (Statement.delete table predicate)) ∧
      (comparisons = [] →
        (∀ assignments : Entries,
          Statement.update table assignments predicate =
            .error (.unconditionalUpdate table.label)) ∧
        Statement.delete table predicate = .error (.unconditionalDelete table.label)) := by
  obtain ⟨comparisons, asks, rfl⟩ := Condition.asks_of_compile compiled accepted
  have plain : ∀ comparison ∈ comparisons, isPlainName comparison.column.name = true := by
    intro comparison member
    exact names.column_plain _ (asks.column_mem (coherent_of_build built) comparison member)
  refine ⟨comparisons, asks, ?_, ?_, ?_, ?_⟩
  · intro options noText
    exact ⟨Statement.select_buildsAlong names plain noText,
      Statement.count_buildsAlong names plain noText⟩
  · intro row named
    exact Statement.insert_buildsAlong names named
  · intro compares
    refine ⟨?_, Statement.delete_buildsAlong names plain compares⟩
    intro assignments named assigns
    exact Statement.update_buildsAlong names named assigns plain compares
  · intro nothing
    subst nothing
    exact ⟨fun assignments => rfl, rfl⟩

end Table

/-- A key column for examples. -/
def personId : Column :=
  { ColumnTraits.standard with primaryKey := .bool true, label := .text "id", type := .integer }

/-- A column of truth values for examples. -/
def personActive : Column :=
  { ColumnTraits.standard with label := .text "active", type := .boolean }

/-- A table of people for examples. -/
def people : Table :=
  ⟨.text "Person", .text "people", [personId, personActive], some personId, none⟩

theorem people_built :
    (Table.build (.text "Person") (.list [personId.toValue, personActive.toValue]) .standard
      (.text "people")).result = .ok people := rfl

theorem people_hasPlainNames : people.HasPlainNames := ⟨by decide, by decide⟩

/-- A truth value and two keys: an update binds the assigned value first, then the truth value as it
is stored, then each of the keys. -/
theorem statements_bindAlong_people :
    BuildsAlong
      (StatementLayout.update people [(.text "active", .int 0)]
        [.equals personActive (.int 1), .memberOf personId [.int 7, .int 8]])
      (Statement.update people [(.text "active", .int 0)]
        ⟨[.equals "active" (.int 1), .memberOf "id" [.int 7, .int 8]]⟩) := by
  have compiled : (Condition.compile people (some (.fieldMap (.dict
      [(.text "active", .text "yes"), (.text "id", .list [.int 7, .int 8])]))) ⟨⟨0, 0⟩, []⟩).1 =
        .ok ⟨[], .ok ⟨[.equals "active" (.int 1), .memberOf "id" [.int 7, .int 8]]⟩⟩ := rfl
  obtain ⟨comparisons, asks, _, _, changes, _⟩ :=
    Table.statements_bindAlong people_built people_hasPlainNames compiled rfl
  cases asks with
  | fieldMap walked _ =>
      cases walked
      refine (changes (by decide)).1 _ ?_ (by simp)
      intro key member
      cases List.mem_singleton.mp member
      rfl

end RowMapper
