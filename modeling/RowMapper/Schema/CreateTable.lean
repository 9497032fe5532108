import RowMapper.Schema.Table
import RowMapper.Sql.Quoting

/-!
# Table definitions

The statement that creates a table has one line per column, one for the primary key and one for
each index. Defaults that are plain data are written into the definition; those that are produced
for each record, and those of text and JSON columns, are not.
-/

namespace RowMapper

namespace Column

/-- The physical type of the column, its own or that of its logical type. -/
def physicalType (column : Column) : Value :=
  if column.databaseType.truthy then column.databaseType else .text column.type.physical

/-- The default of the column as it stands in a table definition. -/
def defaultSql? (column : Column) : Option String :=
  match column.default with
  | .unset | .currentTime | .routine .. => none
  | .null => if column.nullable.truthy then some "NULL" else none
  | v =>
      if column.type = .json then none
      else
        match v with
        | .bool b => some (if b then "1" else "0")
        | .int n => some (decimalText n)
        | .float x => some x.text
        | .timestamp t =>
            if column.type = .text then none else some (Sql.quoteLiteral t.literalText)
        | v => if column.type = .text then none else some (Sql.quoteLiteral v.display)

/-- The comment of the column as it stands in a table definition. -/
def commentSql? (column : Column) : Except ValueFault (Option String) :=
  if column.comment.truthy then column.comment.asLiteral.map some else .ok none

/-- The clauses of a column definition behind the physical type. -/
def clauses (column : Column) (comment : Option String) : List String :=
  (if column.isPrimaryKey || !column.nullable.truthy then ["NOT NULL"] else []) ++
    (if column.isAutoIncrement then ["AUTO_INCREMENT"] else []) ++
    (column.defaultSql?.map fun sql => "DEFAULT " ++ sql).toList ++
    (comment.map fun sql => "COMMENT " ++ sql).toList

/-- The definition of the column. -/
def definition (column : Column) : Except ValueFault String := do
  let comment ← column.commentSql?
  match column.physicalType.text? with
  | some type =>
      return String.intercalate " "
        (Sql.quoteName column.name :: type :: column.clauses comment)
  | none => throw (.itemNotText 1 column.physicalType.operandName)

/-- The definitions of columns in order. -/
def definitions : List Column → Except ValueFault (List String)
  | [] => .ok []
  | column :: rest => do
      let first ← column.definition
      return first :: (← definitions rest)

/-- The definition of the index that the column asks for. The primary key has one of its own, and
a unique index stands for a plain one. -/
def indexDefinition? (column : Column) : Option String :=
  if column.isPrimaryKey then none
  else if column.unique.truthy then
    some ("UNIQUE KEY " ++ Sql.quoteName ("uk_" ++ column.name) ++ " (" ++
      Sql.quoteName column.name ++ ")")
  else if column.index.truthy then
    some ("KEY " ++ Sql.quoteName ("idx_" ++ column.name) ++ " (" ++ Sql.quoteName column.name ++
      ")")
  else none

end Column

namespace Table

/-- The definition of the primary key. -/
def keyDefinition? (table : Table) : Option String :=
  table.primaryKey.map fun name => "PRIMARY KEY (" ++ Sql.quoteName name ++ ")"

/-- The statement that creates the table unless it exists. -/
def createSql (table : Table) : Except ValueFault String := do
  let definitions ← Column.definitions table.columns
  let lines := definitions ++ table.keyDefinition?.toList ++
    table.columns.filterMap Column.indexDefinition?
  return "CREATE TABLE IF NOT EXISTS " ++ Sql.quoteName table.name ++ " (\n  " ++
    String.intercalate ",\n  " lines ++ "\n) ENGINE=InnoDB DEFAULT CHARSET=utf8mb4"

end Table

end RowMapper
