import RowMapper.Manager
import RowMapper.Record.Validation

/-!
# Storing records

A record can be inserted as a row, written to the row that has its key, and removed from the
table. The record changes along the way: it takes the time of the write and a generated key. What
was changed before a failure stays changed.
-/

namespace RowMapper

/-- A record at work in a session. -/
structure Work where
  record : Record
  session : Session

/-- An operation on a record in a session. -/
abbrev RecordAction := ExceptT Fault (StateM Work)

namespace RecordAction

/-- An operation on the session alone. -/
def ofAction {α : Type} (action : Action α) : RecordAction α :=
  fun work =>
    let (result, session) := action work.session
    (result, { work with session })

/-- Pass on an answer about values. -/
def ofOperand {α : Type} (result : Except ValueFault α) : RecordAction α :=
  ofAction (.ofOperand result)

/-- The record as it is now. -/
def current : RecordAction Record := fun work => (.ok work.record, work)

/-- Something read off the record. -/
def ofRecord {α : Type} (read : Record → Except ValueFault α) : RecordAction α :=
  fun work => ((read work.record).mapError .operand, work)

/-- Change the record. -/
def change (act : Record → Except ValueFault Record) : RecordAction Unit :=
  fun work =>
    match act work.record with
    | .ok record => (.ok (), { work with record })
    | .error fault => (.error (.operand fault), work)

/-- Run an operation on the record that goes by a name. An attribute of that name is called in its
place, but what that answers cannot be waited for as the operation can. -/
def calling {α : Type} (name : String) (given : Option Value) (operation : RecordAction α) :
    RecordAction α := do
  match (← current).value? name with
  | none => operation
  | some routine => do
      let answer ← ofAction (.inEnvironment (routine.call given))
      throw (.operand (answer.lacks "send"))

end RecordAction

namespace Record

/-- Whether a value can be the key of a stored row. -/
def isKeyValue (v : Value) : Bool :=
  !v.isUnset && !v.isNull

/-- The value under the name of the primary key, if there is one. -/
def valueOfKey? (record : Record) (table : Table) : Except ValueFault (Option Value) :=
  match record.standIn? with
  | none => .ok (table.primaryKey >>= record.value?)
  | some v => do
      let key ← v.member "primary_key"
      if key.truthy then return record.value? (← key.attributeName).toText else return none

/-- The name that the record gives for its model. -/
def modelName (record : Record) (table : Table) : Except ValueFault Value :=
  match record.standIn? with
  | none => .ok table.modelLabel.toValue
  | some v => v.member "name"

/-- The key of the row that a record stands for. -/
def ownKey (record : Record) (model : Model) (operation : RecordOperation) : Action Value := do
  let key := (← Action.ofOperand (record.valueOfKey? model.table)).getD .unset
  if isKeyValue key then return key
  else throw (.missingPrimaryKey operation (← Action.ofOperand (record.modelName model.table)))

/-- The key of the row that an operation is about. -/
def keyValue (record : Record) (model : Model) (operation : RecordOperation) : Action Value :=
  record.calling "_primary_key_value" (some (.text operation.name))
    (record.ownKey model operation)

/-- The way from a record to the backend of its model. An attribute under the name of that way
blocks it. -/
def reachBackend (record : Record) : Except ValueFault Unit :=
  match record.value? "_registry" with
  | some v => .error (v.lacks "executor")
  | none => .ok ()

/-- Whether the record sends its key along when it is inserted: a key of its own in a column that
does not generate one. -/
def sendsKey (record : Record) (table : Table) : Bool :=
  match table.key with
  | some column =>
      !column.isAutoIncrement && ((record.value? column.name).map isKeyValue).getD false
  | none => false

/-- The row that the record is stored as, column by column. Unset fields are left out, and so is
a key that is not sent. -/
def rowOf (record : Record) (table : Table) (withKey : Bool) :
    List Column → Except ValueFault Entries
  | [] => .ok []
  | column :: rest => do
      let v ← record.get column.name
      if v.isUnset || (some column.name = table.primaryKey && !withKey) then
        record.rowOf table withKey rest
      else
        let stored ← column.toStorage v
        return (.text column.name, stored) :: (← record.rowOf table withKey rest)

/-- The assignments that write the record's set fields, the key left out. -/
def updateValues (record : Record) (table : Table) : List Column → Except ValueFault Entries
  | [] => .ok []
  | column :: rest => do
      let v ← record.get column.name
      let more ← record.updateValues table rest
      return if some column.name = table.primaryKey || v.isUnset then more
        else (.text column.name, v) :: more

/-- Refuse to gather assignments from the fields of a stand-in. It has no primary key to leave out,
and no column to keep current. -/
def reachAssignments (record : Record) : Except ValueFault Unit :=
  match record.standIn? with
  | none => .ok ()
  | some v => do
      match ← fieldItems v with
      | [] => throw (v.lacks "auto_update_field")
      | item :: _ => do
          let _ ← record.fieldOf item
          throw (v.lacks "primary_key")

/-- The condition that finds the row of a key. -/
def keyCondition (record : Record) (table : Table) (key : Value) : Except ValueFault Value :=
  match record.standIn? with
  | none => .ok (.dict [(.text table.primaryKeyText, key)])
  | some v => do return .dict (← Value.entriesWith [] (← v.member "primary_key") key)

/-- Assignments after the record took over a time: where the record's own dictionary is written,
it has changed as well. -/
def refresh (record : Record) (assignments : Entries) : Entries :=
  assignments.map fun (key, v) =>
    (key, if key.text? = some "__dict__" then .dict record.entries else v)

/-- A key after the record took over a time: where the record's own dictionary is the key, it has
changed as well. -/
def refreshKey (record : Record) (table : Table) (key : Value) : Value :=
  if table.primaryKey = some "__dict__" && (record.value? "_primary_key_value").isNone then
    .dict record.entries
  else key

theorem refreshKey_of_ne (record : Record) {table : Table} (key : Value)
    (h : table.primaryKey ≠ some "__dict__") : record.refreshKey table key = key := by
  simp [refreshKey, h]

theorem refresh_of_forall_ne (record : Record) {assignments : Entries}
    (h : ∀ entry ∈ assignments, entry.1.text? ≠ some "__dict__") :
    record.refresh assignments = assignments := by
  induction assignments with
  | nil => rfl
  | cons entry rest ih =>
      have hrest := ih fun other hmem => h other (List.mem_cons_of_mem entry hmem)
      have hentry := h entry List.mem_cons_self
      simp only [refresh, List.map_cons, if_neg hentry] at hrest ⊢
      rw [hrest]

/-- Check the record if that is asked for. -/
def checkIf (wanted : Bool) (model : Model) (isUpdate : Bool) : RecordAction Bool :=
  if wanted then do
    let record ← RecordAction.current
    return (← RecordAction.ofAction (record.validate model (.bool isUpdate))).truthy
  else return true

/-- Set the column kept current, if the record has no value for it. -/
def stampUnset (model : Model) : RecordAction Unit :=
  match model.table.autoUpdate with
  | none => return ()
  | some column => do
      let v ← RecordAction.ofRecord (·.get column.name)
      if v.isUnset then
        let time ← RecordAction.ofAction (.inEnvironment column.resolveDefault)
        RecordAction.change (·.assign column.label time column.default.sourceMark?)

/-- Take over a generated key. -/
def adoptKey (model : Model) (withKey : Bool) (insertId : Value) : RecordAction Unit :=
  match model.table.key with
  | some column =>
      if withKey || insertId.isNull then return ()
      else RecordAction.change (·.assign column.label insertId none)
  | none => return ()

/-- Whether an insertion made a row: the count of affected rows is not zero or less. -/
def insertedRow (result : ExecutionResult) : Except ValueFault Bool :=
  (result.affectedRows.ordered .atMost (.int 0)).map not

/-- Insert the record as it is as a row. The answer tells whether a row came to be. -/
def insertRow (model : Model) : RecordAction Bool := do
  let table := model.table
  let withKey := (← RecordAction.current).sendsKey table
  let row ← RecordAction.ofRecord (·.rowOf table withKey table.columns)
  let statement ← RecordAction.ofAction (.ofResult (Statement.insert table row))
  RecordAction.ofRecord reachBackend
  let result ← RecordAction.ofAction (Action.executeStatement statement)
  if ← RecordAction.ofOperand (insertedRow result) then
    adoptKey model withKey result.insertId
    return true
  else return false

/-- Insert the record as a row, once it was checked and has a value for the column kept current. -/
def save (model : Model) (validated : Bool) : RecordAction Bool := do
  if !(← checkIf validated model false) then return false
  RecordAction.ofRecord (·.reachTable "auto_update_field")
  stampUnset model
  if let some name := model.table.primaryKey then
    let _ ← RecordAction.ofRecord (·.get name)
  insertRow model

/-- Take over the time that an update is about to write. -/
def adoptTime (model : Model) (time : Value) : RecordAction Unit :=
  match model.table.autoUpdate with
  | some column =>
      if time.isNull then return ()
      else RecordAction.change (·.assign column.label time column.default.sourceMark?)
  | none => return ()

/-- Write the record to the row of a key. -/
def updateRow (model : Model) (validated : Bool) (key : Value) : RecordAction UpdateOutcome := do
  if !(← checkIf validated model true) then return .nothing
  RecordAction.ofRecord reachAssignments
  let table := model.table
  let values ← RecordAction.ofRecord (·.updateValues table table.columns)
  let (time, assignments) ← RecordAction.ofAction (.inEnvironment (table.stamp values))
  adoptTime model time
  let record ← RecordAction.current
  let assignments := record.refresh assignments
  if assignments.isEmpty then return .nothing
  let predicate ← RecordAction.ofAction
    (.ofEvaluation (Condition.compile table (some (.scalar (record.refreshKey table key)))))
  let statement ← RecordAction.ofAction (.ofResult (model.updateStatement assignments predicate))
  RecordAction.ofRecord reachBackend
  let result ← RecordAction.ofAction (Action.executeStatement statement)
  RecordAction.ofOperand (UpdateOutcome.ofResult result time)

/-- Write the record to the row that has its key. -/
def update (model : Model) (validated : Bool) : RecordAction UpdateOutcome := do
  let key ← RecordAction.ofAction ((← RecordAction.current).keyValue model .update)
  updateRow model validated key

/-- Remove the row that has the record's key. The answer tells whether there was one. -/
def remove (model : Model) : RecordAction Bool := do
  let key ← RecordAction.ofAction ((← RecordAction.current).keyValue model .remove)
  let condition ← RecordAction.ofRecord (·.keyCondition model.table key)
  let removed ← RecordAction.ofAction (model.removeWhere condition)
  RecordAction.ofOperand removed.affectsRows

end Record

end RowMapper
