import RowMapper.Record.Fields

/-!
# Validation

A record is valid when its model's rule across fields holds and every validator of every set field
accepts the field's value. The first validator that does not accept ends the search.
-/

namespace RowMapper

namespace Value

/-- Whether all of some validators accept a value. -/
def acceptedByAll (v : Value) : List Value → Evaluation Bool
  | [] => return true
  | validator :: rest => do
      if (← validator.call (some v)).truthy then acceptedByAll v rest else return false

end Value

namespace Column

/-- Whether the validators of the column accept a value. The unset marker is not shown to them. -/
def accepts (column : Column) (v : Value) : Evaluation Bool :=
  if v.isUnset then return true
  else do v.acceptedByAll (← .ofOperand column.validators.items)

end Column

namespace Record

/-- The first of some columns whose validators reject the record's value. -/
def rejectedBy? (record : Record) : List Column → Evaluation (Option Column)
  | [] => return none
  | column :: rest => do
      if ← column.accepts (← .ofOperand (record.get column.name)) then rejectedBy? record rest
      else return some column

/-- Hold the record's values against the validators of items that are taken for fields. What has
fields without being a table has no name under which a rejection could be reported. -/
def checkItems (record : Record) (standIn : Value) : List Value → Evaluation Unit
  | [] => return ()
  | item :: rest => do
      let (_, v) ← .ofOperand (record.fieldOf item)
      if !v.isUnset then
        let validators ← .ofOperand (do (← item.member "validators").items)
        if !(← v.acceptedByAll validators) then throw (standIn.lacks "name")
      record.checkItems standIn rest

/-- Whether the rule across fields holds. -/
def meetsGuard (record : Record) (guard : Option Guard) : Except ValueFault Bool :=
  match guard with
  | none => .ok true
  | some guard => (record.get guard.member).map fun v => !v.equal guard.refused

/-- Whether the record is valid, with a report on the value that was rejected. -/
def isValid (record : Record) (model : Model) (isUpdate : Bool) : Action Bool := do
  if !(← Action.ofOperand (record.meetsGuard model.guard)) then return false
  match record.standIn? with
  | some v => do
      let items ← Action.ofOperand (fieldItems v)
      Action.inEnvironment (record.checkItems v items)
      return true
  | none =>
      match ← Action.inEnvironment (record.rejectedBy? model.table.columns) with
      | none => return true
      | some column =>
          Action.report [.valueRejected model.table.modelLabel column.label isUpdate]
          return false

/-- Validate the record, for an update if `isUpdate` counts as true. The answer is a truth value
unless something else takes the place of this operation. -/
def validate (record : Record) (model : Model) (isUpdate : Value) : Action Value :=
  record.calling "validate" (some isUpdate)
    (return .bool (← record.isValid model isUpdate.truthy))

end Record

end RowMapper
