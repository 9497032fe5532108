import RowMapper.Record.Construction

/-!
# Operations on tables

What can be done with the rows of a model at large: find them, count them, change and remove those
that meet a condition, and create or drop the table itself. Each operation sends one statement at
most.
-/

namespace RowMapper

/-- What an update did. The time is the one that this update wrote to the column kept current,
null when it wrote none or no row was changed. -/
structure UpdateOutcome where
  updated : Bool
  modifyTime : Value

namespace UpdateOutcome

/-- The outcome when nothing was sent. -/
def nothing : UpdateOutcome := ⟨false, .null⟩

/-- The outcome of a statement that was sent with a time. -/
def ofResult (result : ExecutionResult) (modifyTime : Value) : Except ValueFault UpdateOutcome := do
  let updated ← result.affectsRows
  return ⟨updated, if updated then modifyTime else .null⟩

end UpdateOutcome

namespace Table

/-- Assignments in the form in which they are stored. -/
def toStorage (table : Table) : Entries → Except ValueFault Entries
  | [] => .ok []
  | (key, v) :: rest => do
      let stored ← match table.columnAt? key with
        | some column => column.toStorage v
        | none => pure v
      return (key, stored) :: (← table.toStorage rest)

/-- Values that set columns of the table. The primary key is left out, and so is what names no
column. -/
def assignments (table : Table) : Entries → Entries
  | [] => []
  | (key, v) :: rest =>
      if table.isPrimaryKeyName key || (table.columnAt? key).isNone then assignments table rest
      else (key, v) :: assignments table rest

/-- What is reported of values that are to set columns: those that name no column. -/
def assignmentEvents (table : Table) : Entries → List Event
  | [] => []
  | (key, _) :: rest =>
      if table.isPrimaryKeyName key || (table.columnAt? key).isSome then
        assignmentEvents table rest
      else .updateKeyIgnored table.modelLabel key :: assignmentEvents table rest

end Table

namespace Model

/-- The predicate of a condition on the model's rows. -/
def predicate (model : Model) (condition : Value) : Action Predicate :=
  Action.ofEvaluation (Condition.compile model.table (Condition.ofValue? condition))

/-- Records made from rows, in order. -/
def load (model : Model) : List Value → Action (List Record)
  | [] => return []
  | row :: rows => do
      let record ← Record.ofRow model row
      return record :: (← load model rows)

/-- All records that meet a condition, under options that were understood. -/
def findWith (model : Model) (condition : Value) (options : ReadOptions) :
    Action (List Record) := do
  let predicate ← model.predicate condition
  let statement ← Action.ofResult (Statement.select model.table predicate options)
  load model (← Action.queryStatement statement)

/-- All records that meet a condition. -/
def find (model : Model) (condition options : Value) : Action (List Record) := do
  findWith model condition (← Action.ofResult (ReadOptions.ofValue options))

/-- Options under which one record is read, unless they limit the count themselves. -/
def firstOnly (options : ReadOptions) : ReadOptions :=
  { options with limit := some (options.limit.getD 1) }

/-- The first record that meets a condition. -/
def findFirst (model : Model) (condition : Value) (options : ReadOptions) :
    Action (Option Record) := do
  return (← findWith model condition (firstOnly options)).head?

/-- The first record that meets a condition, under options given as a value. -/
def findOne (model : Model) (condition options : Value) : Action (Option Record) := do
  findFirst model condition (← Action.ofResult (ReadOptions.ofValue options))

/-- The record with a key, with nothing but its key loaded. -/
def touch (model : Model) (key : Value) : Action (Option Record) :=
  match model.table.primaryKey with
  | none => throw (.keylessTouch model.table.modelLabel)
  | some name =>
      findFirst model (.dict [(.text name, key)])
        { ReadOptions.standard with fields := .list [.text name] }

/-- The count that the rows of a counting query hold. -/
def countIn : List Value → Except ValueFault Int
  | [] => .ok 0
  | row :: _ =>
      match row with
      | .dict entries =>
          match Entries.find? entries (.text "N") with
          | none | some .null => .ok 0
          | some v => v.toInteger
      | _ => .error (row.lacks "get")

/-- How many rows meet a condition. -/
def count (model : Model) (condition options : Value) : Action Int := do
  let options ← Action.ofResult (ReadOptions.ofValue options)
  let predicate ← model.predicate condition
  let statement ← Action.ofResult (Statement.count model.table predicate options)
  Action.ofOperand (countIn (← Action.queryStatement statement))

/-- Remove the rows that meet a condition. -/
def removeWhere (model : Model) (condition : Value) : Action ExecutionResult := do
  let predicate ← model.predicate condition
  let statement ← Action.ofResult (Statement.delete model.table predicate)
  Action.executeStatement statement

/-- The statement that stores assignments in the rows that meet a predicate. -/
def updateStatement (model : Model) (assignments : Entries) (predicate : Predicate) :
    Except Fault Statement := do
  let stored ← model.table.toStorage assignments
  Statement.update model.table stored predicate

/-- Change the rows that meet a predicate. The column kept current is set along with the others,
unless the values set it. -/
def updateMatching (model : Model) (predicate : Predicate) (values : Value) :
    Action UpdateOutcome := do
  let walk ← Action.inEnvironment values.walkKeyed
  Action.report (model.table.assignmentEvents walk.entries)
  let entries ← Action.ofOperand (walk.finish walk.dictionary)
  let (modifyTime, assignments) ←
    Action.inEnvironment (model.table.stamp (model.table.assignments entries))
  if assignments.isEmpty then return .nothing
  let statement ← Action.ofResult (model.updateStatement assignments predicate)
  let result ← Action.executeStatement statement
  Action.ofOperand (UpdateOutcome.ofResult result modifyTime)

/-- Change the rows that meet a condition. -/
def updateWhere (model : Model) (condition values : Value) : Action UpdateOutcome := do
  updateMatching model (← model.predicate condition) values

/-- Create the model's table. -/
def createTable (model : Model) : Action ExecutionResult := do
  let statement ← Action.ofResult (Statement.create model.table)
  Action.executeStatement statement

/-- Drop the model's table. -/
def dropTable (model : Model) : Action ExecutionResult :=
  Action.executeStatement (Statement.drop model.table)

/-- Do something with models one after the other. -/
def forEach (act : Model → Action ExecutionResult) : List Model → Action Unit
  | [] => return ()
  | model :: rest => do
      let _ ← act model
      forEach act rest

/-- Create the tables of all models in order of definition. -/
def createAll : Action Unit := do
  forEach createTable (← get).models

/-- Drop the tables of all models in reverse order of definition. -/
def dropAll : Action Unit := do
  forEach dropTable (← get).models.reverse

end Model

end RowMapper
