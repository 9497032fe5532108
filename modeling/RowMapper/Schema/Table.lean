import RowMapper.Event
import RowMapper.Schema.Declaration
import RowMapper.Schema.PhysicalType
import RowMapper.Text.SnakeCase

/-!
# Tables

A table is what a model's declaration amounts to: its columns in order, the primary key and the
column that updates keep current. It is built field by field, and the first field that breaks a
rule decides the answer: nothing that comes after it is looked at.
-/

namespace RowMapper

/-- A model's table as declared: the labels of both, the columns, the one that is the primary key
and the one that updates keep current. -/
structure Table where
  modelLabel : Name
  label : Name
  columns : List Column
  key : Option Column
  autoUpdate : Option Column

namespace Table

/-- The name of the model. -/
def model (table : Table) : String :=
  table.modelLabel.toText

/-- The name of the table. -/
def name (table : Table) : String :=
  table.label.toText

/-- The names of the columns. -/
def columnNames (table : Table) : List String :=
  table.columns.map (·.name)

/-- The column of a name. -/
def column? (table : Table) (name : String) : Option Column :=
  table.columns.find? (·.name = name)

/-- The column that a value names. -/
def columnAt? (table : Table) (key : Value) : Option Column := do
  table.column? (← key.text?)

/-- The types of the columns under their names. -/
def typeMap (table : Table) : Entries :=
  Entries.insertAll [] (table.columns.map fun column =>
    (column.label.toValue, .fieldType column.type))

/-- The name of the primary key. -/
def primaryKey (table : Table) : Option String :=
  table.key.map (·.name)

/-- The primary key as a text, empty for a table without one. -/
def primaryKeyText (table : Table) : String :=
  table.primaryKey.getD ""

/-- Whether a value names the primary key. The empty text does for a table without one. -/
def isPrimaryKeyName (table : Table) (key : Value) : Bool :=
  key.text? = some table.primaryKeyText

end Table

/-- The answer of an operation and the events it reported. -/
structure Report (α : Type) where
  events : List Event
  result : Except Fault α

/-- The storage check that a backend makes: a code for each column. -/
abbrev StorageCheck := Column → Value

/-- The check that goes by the rules of this library. -/
def StorageCheck.standard : StorageCheck :=
  fun column => .int column.verdict.code

/-- A table under construction. -/
structure TableDraft where
  columns : List Column
  key : Option Column
  autoUpdate : Option Column
  events : List Event

namespace TableDraft

/-- The draft without any column. -/
def empty : TableDraft := ⟨[], none, none, []⟩

/-- The fault for a column that failed the storage check. -/
def verdictFault (model : Name) (column : Column) : Verdict → DeclarationFault
  | .unsupportedDefault => .rejectedDefault column.default column.label model
  | .invalidAutoUpdate => .rejectedAutoUpdate column.label model
  | _ =>
      let type := if column.databaseType.truthy then column.databaseType.display
        else column.type.name
      .rejectedType type column.label model

/-- Refuse a column whose code is not that of success. -/
def checkCode (model : Name) (column : Column) (code : Value) : Except Fault Unit :=
  if code.equal (.int Verdict.ok.code) then .ok ()
  else
    match Verdict.ofCode? code with
    | some verdict => .error (.declaration (verdictFault model column verdict))
    | none => .error (.notVerdict code)

/-- The primary key after a further column. -/
def nextKey (draft : TableDraft) (model : Name) (column : Column) :
    Except DeclarationFault (Option Column) :=
  if column.isPrimaryKey then
    match draft.key with
    | some first => .error (.secondPrimaryKey first.label column.label model)
    | none => .ok (some column)
  else .ok draft.key

/-- The column that updates keep current, after a further column. The first one stays. -/
def nextAutoUpdate (draft : TableDraft) (column : Column) : Option Column :=
  if column.isAutoUpdate then some (draft.autoUpdate.getD column) else draft.autoUpdate

/-- What is reported of a further column: that it is not kept current although it asks to be. -/
def nextEvents (draft : TableDraft) (model : Name) (column : Column) : List Event :=
  match draft.autoUpdate with
  | some first =>
      if column.isAutoUpdate then [.autoUpdateIgnored model column.label first.label] else []
  | none => []

/-- Add a column to a draft. -/
def addColumn (draft : TableDraft) (model : Name) (check : StorageCheck) (column : Column) :
    Except Fault TableDraft := do
  if (draft.columns.map (·.name)).contains column.name then
    throw (.declaration (.duplicateField column.label model))
  checkCode model column (check column)
  let key ← draft.nextKey model column
  return {
    columns := draft.columns ++ [column]
    key
    autoUpdate := draft.nextAutoUpdate column
    events := draft.events ++ draft.nextEvents model column }

/-- Add a declared field to a draft. -/
def add (draft : TableDraft) (model : Name) (check : StorageCheck) (declaration : Value) :
    Except Fault TableDraft := do
  draft.addColumn model check (← Column.ofValue declaration)

/-- Add declared fields one after the other. The draft of the fields before the first refused one
is kept with the fault. -/
def addAll (model : Name) (check : StorageCheck) (draft : TableDraft) :
    List Value → TableDraft × Option Fault
  | [] => (draft, none)
  | declaration :: rest =>
      match draft.add model check declaration with
      | .error fault => (draft, some fault)
      | .ok draft => addAll model check draft rest

end TableDraft

namespace Table

/-- The label of a model, which must not be empty. -/
def modelLabel? (name : Value) : Option Name :=
  (Name.ofValue? name).filter (!·.toText.isEmpty)

/-- The names of a model and its table, checked in this order. The table is named after the model
unless a name is given. -/
def checkNames (name table : Value) : Except DeclarationFault (Name × Name) :=
  match modelLabel? name with
  | none => .error .noModelName
  | some model =>
      let table := if table.isNull then .text (Text.snakeCase model.toText) else table
      match Sql.checkIdentifier name with
      | .error fault => .error (.badIdentifier "model name" fault)
      | .ok _ =>
          match Sql.checkIdentifier table with
          | .error fault => .error (.badIdentifier "table" fault)
          | .ok table => .ok (model, table)

/-- The declarations in a value that is to be a collection of them. -/
def declarations (model : Name) (fields : Value) : Except Fault (List Value) :=
  match fields with
  | .null | .text _ | .fieldType _ | .octets _ | .dict _ =>
      .error (.declaration (.noFieldList model))
  | _ =>
      match fields.items with
      | .error fault => .error (.operand fault)
      | .ok [] => .error (.declaration (.noFields model))
      | .ok items => .ok items

/-- The table of a finished draft. -/
def ofDraft (modelLabel label : Name) (draft : TableDraft) : Table where
  modelLabel
  label
  columns := draft.columns
  key := draft.key
  autoUpdate := draft.autoUpdate

/-- The table that a list of declarations describes. -/
def ofDeclarations (model label : Name) (check : StorageCheck) (fields : List Value) :
    Report Table :=
  let (draft, fault) := TableDraft.empty.addAll model check fields
  ⟨draft.events,
    match fault with
    | some fault => .error fault
    | none => .ok (ofDraft model label draft)⟩

/-- The table that a model declaration describes. -/
def build (name fields : Value) (check : StorageCheck) (table : Value) : Report Table :=
  match checkNames name table with
  | .error fault => ⟨[], .error (.declaration fault)⟩
  | .ok (model, label) =>
      match declarations model fields with
      | .error fault => ⟨[], .error fault⟩
      | .ok items => ofDeclarations model label check items

end Table

end RowMapper
