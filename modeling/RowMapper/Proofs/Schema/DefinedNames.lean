import Mathlib.Data.List.Forall2
import Mathlib.Data.List.Nodup
import RowMapper.Proofs.Schema.DeclaredTable
import RowMapper.Proofs.Schema.QuotedDefinition

/-!
# Names in a table definition

The names that a table definition quotes are those of the table, of its columns and of its indexes.
The first two are declared, and no name is accepted that is not an identifier. The name of an index
is put together from that of its column, which keeps the names of the indexes apart but makes them
longer, and nothing checks them again. So the definition keeps to the limit on names just when
those of the indexed columns leave room for what is put in front.
-/

namespace RowMapper

open Sql

variable {meaning : Char → List Char}

/-! ## Names of indexes -/

namespace Column

/-- The name of the index that the column asks for. -/
def indexName? (column : Column) : Option String :=
  if column.isPrimaryKey then none
  else if column.unique.truthy then some ("uk_" ++ column.name)
  else if column.index.truthy then some ("idx_" ++ column.name)
  else none

/-- Whether the name of the column leaves room for what the name of its index puts in front. -/
structure LeavesRoomForIndex (column : Column) : Prop where
  unique : column.isPrimaryKey = false → column.unique.truthy = true → column.name.length ≤ 61
  plain : column.isPrimaryKey = false → column.unique.truthy = false →
    column.index.truthy = true → column.name.length ≤ 60

variable {column : Column} {index : String}

theorem indexName?_eq_some_iff :
    column.indexName? = some index ↔ column.isPrimaryKey = false ∧
      ((column.unique.truthy = true ∧ index = "uk_" ++ column.name) ∨
        (column.unique.truthy = false ∧ column.index.truthy = true ∧
          index = "idx_" ++ column.name)) := by
  rw [indexName?]
  cases column.isPrimaryKey <;> cases column.unique.truthy <;> cases column.index.truthy <;>
    simp [eq_comm]

theorem leavesRoomForIndex_iff :
    column.LeavesRoomForIndex ↔
      ∀ index, column.indexName? = some index → index.length ≤ maxIdentifierLength := by
  have unique : ("uk_" ++ column.name).length = 3 + column.name.length := String.length_append ..
  have plain : ("idx_" ++ column.name).length = 4 + column.name.length := String.length_append ..
  have limit : maxIdentifierLength = 64 := rfl
  simp only [indexName?_eq_some_iff]
  constructor
  · rintro room _ ⟨notKey, ⟨isUnique, rfl⟩ | ⟨notUnique, isIndexed, rfl⟩⟩
    · have short := room.unique notKey isUnique
      omega
    · have short := room.plain notKey notUnique isIndexed
      omega
  · intro fits
    refine ⟨fun notKey isUnique => ?_, fun notKey notUnique isIndexed => ?_⟩
    · have short := fits _ ⟨notKey, .inl ⟨isUnique, rfl⟩⟩
      omega
    · have short := fits _ ⟨notKey, .inr ⟨notUnique, isIndexed, rfl⟩⟩
      omega

theorem indexName?_length_pos (named : column.indexName? = some index) : 0 < index.length := by
  obtain ⟨_, ⟨_, rfl⟩ | ⟨_, _, rfl⟩⟩ := indexName?_eq_some_iff.mp named
  all_goals
    rw [String.length_append]
    exact Nat.add_pos_left (by decide) _

/-- Indexes of one name belong to columns of one name. -/
theorem name_eq_of_indexName? {a b : Column} (ofA : a.indexName? = some index)
    (ofB : b.indexName? = some index) : a.name = b.name := by
  have apart {x y : String} : "uk_" ++ x ≠ "idx_" ++ y := ne_of_head?_ne (by simp)
  obtain ⟨_, ⟨_, rfl⟩ | ⟨_, _, rfl⟩⟩ := indexName?_eq_some_iff.mp ofA
  · obtain ⟨_, ⟨_, same⟩ | ⟨_, _, same⟩⟩ := indexName?_eq_some_iff.mp ofB
    · exact String.append_right_inj _ |>.mp same
    · exact absurd same apart
  · obtain ⟨_, ⟨_, same⟩ | ⟨_, _, same⟩⟩ := indexName?_eq_some_iff.mp ofB
    · exact absurd same.symm apart
    · exact String.append_right_inj _ |>.mp same

/-- What is quoted for an index is its name and that of the column. -/
theorem quotedIndex_eq (column : Column) :
    column.quotedIndex =
      column.indexName?.toList.flatMap fun index => [.name index, .name column.name] := by
  rw [quotedIndex, indexName?]
  cases column.isPrimaryKey <;> cases column.unique.truthy <;> cases column.index.truthy <;> rfl

/-- The definition of an index is read as its name and that of a column. -/
theorem rel_indexDefinition? (column : Column) :
    Option.Rel (fun line index => ∃ name,
        Sql.quotedParts meaning line.toList = some [.name index, .name name])
      column.indexDefinition? column.indexName? := by
  rw [indexDefinition?, indexName?]
  split
  next => exact .none
  next =>
    split
    next => exact .some ⟨_, (reads_index (.of_text rfl) _ _).quotedParts_eq⟩
    next =>
      split
      next => exact .some ⟨_, (reads_index (.of_text rfl) _ _).quotedParts_eq⟩
      next => exact .none

theorem name_mem_quotedParts_iff {n : String} :
    Quoted.name n ∈ column.quotedParts ↔ n = column.name := by
  simp [quotedParts]

end Column

/-! ## Names of a table -/

namespace Table

variable {table : Table}

/-- The names of the indexes of a table. -/
def indexNames (table : Table) : List String :=
  table.columns.filterMap Column.indexName?

theorem nodup_indexNames (distinct : table.columnNames.Nodup) : table.indexNames.Nodup := by
  have apart : table.columns.Pairwise fun a b => a.name ≠ b.name := List.pairwise_map.mp distinct
  refine List.pairwise_filterMap.mpr (apart.imp ?_)
  rintro a b differ index ofA _ ofB rfl
  exact differ (Column.name_eq_of_indexName? ofA ofB)

/-- The definitions of the indexes are read as their names, each with that of a column. -/
theorem forall₂_indexDefinitions (table : Table) :
    List.Forall₂ (fun line index => ∃ name,
        Sql.quotedParts meaning line.toList = some [.name index, .name name])
      (table.columns.filterMap Column.indexDefinition?) table.indexNames := by
  refine List.rel_filterMap (R := Eq) ?_ (List.forall₂_same.mpr fun _ _ => rfl)
  rintro column _ rfl
  exact column.rel_indexDefinition?

/-- The names that a table definition quotes are those of the table, its columns and its
indexes. -/
theorem name_mem_quotedParts_iff
    (key : ∀ column, table.key = some column → column ∈ table.columns) {n : String} :
    Quoted.name n ∈ table.quotedParts ↔
      n = table.name ∨ n ∈ table.columnNames ∨ n ∈ table.indexNames := by
  have ofKey : n ∈ table.primaryKey → n ∈ table.columnNames := by
    intro isKey
    obtain ⟨column, found, rfl⟩ := Option.map_eq_some_iff.mp isKey
    exact List.mem_map_of_mem (key column found)
  have ofColumns : Quoted.name n ∈ table.columns.flatMap Column.quotedParts ↔
      n ∈ table.columnNames := by
    simp [Column.name_mem_quotedParts_iff, columnNames, eq_comm]
  have ofIndexes : Quoted.name n ∈ table.columns.flatMap Column.quotedIndex ↔
      ∃ column ∈ table.columns, ∃ index, column.indexName? = some index ∧
        (n = index ∨ n = column.name) := by
    simp [Column.quotedIndex_eq]
  simp only [quotedParts, List.mem_cons, List.mem_append, Quoted.name.injEq, ofColumns, ofIndexes,
    List.mem_map, Option.mem_toList, exists_eq_right, indexNames, List.mem_filterMap]
  constructor
  · rintro (isTable | isColumn | isKey | ⟨column, member, index, named, rfl | rfl⟩)
    · exact .inl isTable
    · exact .inr (.inl isColumn)
    · exact .inr (.inl (ofKey isKey))
    · exact .inr (.inr ⟨column, member, named⟩)
    · exact .inr (.inl (List.mem_map_of_mem member))
  · rintro (isTable | isColumn | ⟨column, member, named⟩)
    · exact .inl isTable
    · exact .inr (.inl isColumn)
    · exact .inr (.inr (.inr ⟨column, member, n, named, .inl rfl⟩))

section Built

variable {name fields label : Value}
  (built : (build name fields .standard label).result = .ok table)

include built

theorem isIdentifier_of_mem_columns {column : Column} (member : column ∈ table.columns) :
    IsIdentifier column.name := by
  obtain ⟨_, _, declared, _⟩ := isDeclaredBy_of_build built
  exact (Column.checked_of_parsed declared.parsed member).1

theorem name_mem_quotedParts_of_build {n : String} :
    Quoted.name n ∈ table.quotedParts ↔
      n = table.name ∨ n ∈ table.columnNames ∨ n ∈ table.indexNames :=
  name_mem_quotedParts_iff fun column isKey => ((coherent_of_build built).key_mem column isKey).1

theorem length_pos_of_mem_quotedParts {n : String} (member : Quoted.name n ∈ table.quotedParts) :
    0 < n.length := by
  rcases (name_mem_quotedParts_of_build built).mp member with rfl | isColumn | isIndex
  · exact (isIdentifier_of_build built).2.length_pos
  · obtain ⟨column, declared, rfl⟩ := List.mem_map.mp isColumn
    exact (isIdentifier_of_mem_columns built declared).length_pos
  · obtain ⟨column, _, named⟩ := List.mem_filterMap.mp isIndex
    exact Column.indexName?_length_pos named

/-- The names in the definition of an accepted table keep to the limit just when the names of its
columns leave room for those of its indexes. -/
theorem forall_length_le_iff :
    (∀ n, Quoted.name n ∈ table.quotedParts → n.length ≤ maxIdentifierLength) ↔
      ∀ column ∈ table.columns, column.LeavesRoomForIndex := by
  simp only [Column.leavesRoomForIndex_iff]
  constructor
  · intro short column member index named
    have isIndex : index ∈ table.indexNames := List.mem_filterMap.mpr ⟨column, member, named⟩
    exact short index ((name_mem_quotedParts_of_build built).mpr (.inr (.inr isIndex)))
  · intro room n quoted
    rcases (name_mem_quotedParts_of_build built).mp quoted with rfl | isColumn | isIndex
    · exact (isIdentifier_of_build built).2.short
    · obtain ⟨column, member, rfl⟩ := List.mem_map.mp isColumn
      exact (isIdentifier_of_mem_columns built member).short
    · obtain ⟨column, member, named⟩ := List.mem_filterMap.mp isIndex
      exact room column member n named

end Built

/-- The statement that creates an accepted table can be written if the comments are texts. Whoever
reads it by the rules of the database finds the names of the table, its columns and its indexes,
none of which is empty. They keep to the limit just when the names of the columns leave room for
those of their indexes. The last lines of the statement define the indexes, each is read as the name
of its index with that of a column, and no two of these names are equal. -/
theorem names_within_limit_iff (meaning : Char → List Char) {name fields label : Value}
    (built : (build name fields .standard label).result = .ok table) :
    ((∀ column ∈ table.columns, column.HasTextComment) → ∃ sql, table.createSql = .ok sql) ∧
    ∀ sql, table.createSql = .ok sql →
      ∃ parts, Sql.quotedParts meaning sql.toList = some parts ∧
        (∀ n, .name n ∈ parts ↔
          n = table.name ∨ n ∈ table.columnNames ∨ n ∈ table.indexNames) ∧
        (∀ n, .name n ∈ parts → 0 < n.length) ∧
        ((∀ n, .name n ∈ parts → n.length ≤ maxIdentifierLength) ↔
          ∀ column ∈ table.columns, column.LeavesRoomForIndex) ∧
        ∃ definitions, Column.definitions table.columns = .ok definitions ∧
          sql = "CREATE TABLE IF NOT EXISTS " ++ quoteName table.name ++ " (\n  " ++
            String.intercalate ",\n  " (definitions ++ table.keyDefinition?.toList ++
              table.columns.filterMap Column.indexDefinition?) ++
                "\n) ENGINE=InnoDB DEFAULT CHARSET=utf8mb4" ∧
          List.Forall₂ (fun line index => ∃ column,
            Sql.quotedParts meaning line.toList = some [.name index, .name column])
              (table.columns.filterMap Column.indexDefinition?) table.indexNames ∧
          table.indexNames.Nodup := by
  have coherent := coherent_of_build built
  refine ⟨fun commented => ?_, fun sql created => ?_⟩
  · obtain ⟨sql, _, created, _, _⟩ := exists_createSql coherent commented
    exact ⟨sql, created⟩
  · obtain ⟨definitions, defined, written⟩ := exists_lines_of_createSql created
    rw [closingLines, ← List.append_assoc] at written
    exact ⟨table.quotedParts, quotedParts_createSql coherent created,
      fun n => name_mem_quotedParts_of_build built,
      fun n => length_pos_of_mem_quotedParts built, forall_length_le_iff built,
      definitions, defined, written, table.forall₂_indexDefinitions,
      nodup_indexNames coherent.names_nodup⟩

end Table

/-- A table whose columns ask for indexes of both kinds, for examples. -/
def accounts : Table :=
  ⟨.text "Account", .text "accounts",
    [personId, { ColumnTraits.standard with
        unique := .bool true, index := .bool true, label := .text "mail", type := .string },
      { ColumnTraits.standard with index := .bool true, label := .text "town", type := .string }],
    some personId, none⟩

/-- Both indexes have names of their own, within the limit. -/
theorem names_within_limit_iff_accounts :
    ∃ sql parts, accounts.createSql = .ok sql ∧
      quotedParts (fun c => [c]) sql.toList = some parts ∧
      (∀ n, .name n ∈ parts → 0 < n.length ∧ n.length ≤ maxIdentifierLength) ∧
      accounts.indexNames = ["uk_mail", "idx_town"] ∧ accounts.indexNames.Nodup := by
  have built : (Table.build (.text "Account") (.list (accounts.columns.map Column.toValue))
      .standard (.text "accounts")).result = .ok accounts := rfl
  obtain ⟨written, reads⟩ := Table.names_within_limit_iff (fun c => [c]) built
  obtain ⟨sql, created⟩ := written (by
    simp only [accounts, List.forall_mem_cons]
    exact ⟨.inl rfl, .inl rfl, .inl rfl, by simp⟩)
  obtain ⟨parts, read, _, nonempty, short, _, _, _, _, distinct⟩ := reads sql created
  have room : ∀ column ∈ accounts.columns, column.LeavesRoomForIndex := by
    simp only [accounts, List.forall_mem_cons]
    exact ⟨⟨by decide, by decide⟩, ⟨by decide, by decide⟩, ⟨by decide, by decide⟩, by simp⟩
  exact ⟨sql, parts, created, read, fun n member => ⟨nonempty n member, short.mpr room n member⟩,
    rfl, distinct⟩

/-- A table with a unique column whose name is two characters short of the limit, for examples. -/
def wides : Table :=
  ⟨.text "Wide", .text "wides",
    [personId, { ColumnTraits.standard with
      unique := .bool true, type := .string
      label := .text "aaaaaaaaaabbbbbbbbbbccccccccccddddddddddeeeeeeeeeeffffffffffgg" }],
    some personId, none⟩

/-- The name of an index can be longer than names may be. -/
theorem index_name_exceeds_limit :
    (Table.build (.text "Wide") (.list (wides.columns.map Column.toValue)) .standard
        (.text "wides")).result = .ok wides ∧
      ∃ sql parts n, wides.createSql = .ok sql ∧
        quotedParts (fun c => [c]) sql.toList = some parts ∧ .name n ∈ parts ∧
          n.length = 65 := by
  have built : (Table.build (.text "Wide") (.list (wides.columns.map Column.toValue)) .standard
      (.text "wides")).result = .ok wides := rfl
  have coherent := Table.coherent_of_build built
  obtain ⟨sql, _, created, _, _⟩ := Table.exists_createSql coherent (by
    simp only [wides, List.forall_mem_cons]
    exact ⟨.inl rfl, .inl rfl, by simp⟩)
  refine ⟨built, sql, wides.quotedParts,
    "uk_aaaaaaaaaabbbbbbbbbbccccccccccddddddddddeeeeeeeeeeffffffffffgg", created,
    Table.quotedParts_createSql coherent created, ?_, by decide⟩
  exact (Table.name_mem_quotedParts_of_build built).mpr (.inr (.inr (by decide)))

end RowMapper
