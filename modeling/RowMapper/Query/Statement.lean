import RowMapper.Environment
import RowMapper.Query.Condition
import RowMapper.Query.Options
import RowMapper.Schema.CreateTable

/-!
# Statements

The statements that the library sends: a text with placeholders and the parameters that take their
places in order. Statements that change rows are refused when their predicate would let them
change every row.
-/

namespace RowMapper

/-- The kinds of statements that the library builds. -/
inductive StatementKind where
  | select
  | count
  | insert
  | update
  | delete
  | drop
  | create
  deriving DecidableEq

namespace StatementKind

/-- The name of a kind of statement. -/
def name : StatementKind → String
  | .select => "select"
  | .count => "count"
  | .insert => "insert"
  | .update => "update"
  | .delete => "delete"
  | .drop => "drop"
  | .create => "create"

end StatementKind

/-- A statement with its parameters. -/
structure Statement where
  sql : String
  parameters : List Value
  kind : StatementKind
  table : String

namespace Statement

/-- Clauses with a space between them, the empty ones left out. -/
def joinClauses (clauses : List String) : String :=
  String.intercalate " " (clauses.filter (!·.isEmpty))

/-- The quoted names that values are. -/
def quotedNames : List Value → Except ValueFault (List String)
  | [] => .ok []
  | v :: vs => do
      let first ← v.asName
      return first :: (← quotedNames vs)

/-- The columns that a query returns. -/
def projection (fields : Value) : Except ValueFault String :=
  if fields.isNull || fields.equal (.text "*") then .ok "*"
  else if fields.text?.isSome then .ok fields.display
  else if !fields.truthy then .ok "*"
  else do
    let names ← quotedNames (← fields.items)
    return String.intercalate ", " names

/-- The texts of items that are joined, numbered from `index`. -/
def joinedTexts (index : Nat) : List Value → Except ValueFault (List String)
  | [] => .ok []
  | v :: vs =>
      match v.text? with
      | none => .error (.itemNotText index v.operandName)
      | some s => (joinedTexts (index + 1) vs).map (s :: ·)

/-- The clause that orders the rows, empty when nothing is asked for. -/
def orderClause (orderBy : Value) : Except ValueFault String :=
  if !orderBy.truthy then .ok ""
  else if orderBy.text?.isSome then .ok ("ORDER BY " ++ orderBy.display)
  else
    match orderBy.items? with
    | none => .error .notJoinable
    | some items =>
        (joinedTexts 0 items).map fun parts => "ORDER BY " ++ String.intercalate ", " parts

/-- The clause that limits the rows. An offset counts only with a limit. -/
def limitClause (limit offset : Option Nat) : String :=
  match limit with
  | none => ""
  | some limit =>
      match offset with
      | some (n + 1) => "LIMIT " ++ Nat.repr (n + 1) ++ ", " ++ Nat.repr limit
      | _ => "LIMIT " ++ Nat.repr limit

/-- A reading query with a given head. -/
def readSql (head : String) (predicate : Predicate) (options : ReadOptions) :
    Except ValueFault String := do
  let order ← orderClause options.orderBy
  return joinClauses
    [head, predicate.whereClause, order, limitClause options.limit options.offset]

/-- Read the rows that meet a predicate. -/
def select (table : Table) (predicate : Predicate) (options : ReadOptions) :
    Except Fault Statement := do
  let columns ← projection options.fields
  let sql ← readSql ("SELECT " ++ columns ++ " FROM " ++ Sql.quoteName table.name) predicate options
  return ⟨sql, predicate.parameters, .select, table.name⟩

/-- Count the rows that meet a predicate. -/
def count (table : Table) (predicate : Predicate) (options : ReadOptions) :
    Except Fault Statement := do
  let counted := if options.count.truthy then options.count.display else "*"
  let sql ← readSql
    ("SELECT COUNT(" ++ counted ++ ") AS N FROM " ++ Sql.quoteName table.name) predicate options
  return ⟨sql, predicate.parameters, .count, table.name⟩

/-- Add one row. Columns and parameters come from the same entries, so their places agree. -/
def insert (table : Table) (row : Entries) : Except Fault Statement := do
  let columns ← quotedNames row.keys
  let sql := "INSERT INTO " ++ Sql.quoteName table.name ++ " (" ++
    String.intercalate ", " columns ++ ") VALUES (" ++
    String.intercalate ", " (columns.map fun _ => "?") ++ ")"
  return ⟨sql, row.values, .insert, table.name⟩

/-- Add one row, with entries that are gone through one after the other. -/
def insertWalk (table : Table) (walk : EntryWalk) : Except Fault Statement := do
  let statement ← insert table walk.entries
  walk.finish statement

/-- The assignments of an update, each to a placeholder. -/
def assignmentsSql (names : List String) : String :=
  String.intercalate ", " (names.map (· ++ "=?"))

/-- The text of an update with quoted names of the columns it sets. -/
def updateSql (table : Table) (names : List String) (predicate : Predicate) : String :=
  joinClauses
    ["UPDATE " ++ Sql.quoteName table.name ++ " SET " ++ assignmentsSql names,
      predicate.whereClause]

/-- Change the rows that meet a predicate. The parameters of the assignments come first. -/
def update (table : Table) (assignments : Entries) (predicate : Predicate) :
    Except Fault Statement := do
  if predicate.isEmpty then throw (.unconditionalUpdate table.label)
  if assignments.isEmpty then throw (.nothingToUpdate table.label)
  let names ← quotedNames assignments.keys
  return ⟨updateSql table names predicate, assignments.values ++ predicate.parameters, .update,
    table.name⟩

/-- Change rows, with assignments given as any value. -/
def updateFromValue (table : Table) (assignments : Value) (predicate : Predicate) :
    Except Fault Statement :=
  match assignments with
  | .dict entries => update table entries predicate
  | _ => do
      if predicate.isEmpty then throw (.unconditionalUpdate table.label)
      if !assignments.truthy then throw (.nothingToUpdate table.label)
      let _ ← quotedNames (← assignments.items)
      throw (.operand (assignments.lacks "values"))

/-- Remove the rows that meet a predicate. -/
def delete (table : Table) (predicate : Predicate) : Except Fault Statement :=
  if predicate.isEmpty then .error (.unconditionalDelete table.label)
  else
    .ok ⟨joinClauses ["DELETE FROM " ++ Sql.quoteName table.name, predicate.whereClause],
      predicate.parameters, .delete, table.name⟩

/-- Remove the table. -/
def drop (table : Table) : Statement :=
  ⟨"DROP TABLE IF EXISTS " ++ Sql.quoteName table.name, [], .drop, table.name⟩

/-- Create the table. -/
def create (table : Table) : Except Fault Statement := do
  let sql ← table.createSql
  return ⟨sql, [], .create, table.name⟩

end Statement

namespace Table

/-- Add the time of an update to its assignments, unless they set that column or the table has
none. The answer is the value added, null if none was. -/
def stamp (table : Table) (assignments : Entries) : Evaluation (Value × Entries) :=
  match table.autoUpdate with
  | none => return (.null, assignments)
  | some column =>
      if assignments.has (.text column.name) then return (.null, assignments)
      else do
        let time ← column.resolveDefault
        return (time, assignments.insert column.label.toValue time)

/-- Add the time of an update to assignments given as any value. -/
def stampValue (table : Table) (assignments : Value) : Evaluation (Value × Value) :=
  match table.autoUpdate with
  | none => return (.null, assignments)
  | some column => do
      if ← .ofOperand (assignments.contains column.label.toValue) then return (.null, assignments)
      let time ← column.resolveDefault
      return (time, ← .ofOperand (assignments.setAt column.label time))

end Table

end RowMapper
