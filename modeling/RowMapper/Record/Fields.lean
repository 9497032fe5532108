import RowMapper.Record.Basic
import RowMapper.Value.Member

/-!
# Going through the fields of a record

A record finds the table of its model under a name of its own. An attribute of that name stands in
for the table: what goes through the fields of the record then goes through what the stand-in gives
as its fields, item by item, and ends at the first item that is no field. What only a table has is
refused.
-/

namespace RowMapper

namespace Record

/-- What stands in for the table of the record's model. -/
def standIn? (record : Record) : Option Value :=
  record.value? "_meta"

/-- Refuse what only a table has, where something stands in for the table. -/
def reachTable (record : Record) (wanted : String) : Except ValueFault Unit :=
  match record.standIn? with
  | some v => .error (v.lacks wanted)
  | none => .ok ()

/-- What a stand-in gives as its fields. -/
def fieldItems (standIn : Value) : Except ValueFault (List Value) := do
  (← standIn.member "fields").items

/-- The label of an item that is taken for a field, with the record's value under it. -/
def fieldOf (record : Record) (item : Value) : Except ValueFault (Name × Value) := do
  let label ← (← item.member "name").attributeName
  return (label, ← record.read label.toText)

/-- The labels and values of the fields that are set, in order. -/
def setFields (record : Record) : List Column → Except ValueFault (List (Name × Value))
  | [] => .ok []
  | column :: rest => do
      let v ← record.get column.name
      let more ← record.setFields rest
      return if v.isUnset then more else (column.label, v) :: more

/-- The labels and values of items that are taken for fields, as far as they are set. -/
def setItems (record : Record) : List Value → Except ValueFault (List (Name × Value))
  | [] => .ok []
  | item :: rest => do
      let field ← record.fieldOf item
      let more ← record.setItems rest
      return if field.2.isUnset then more else field :: more

/-- Labelled values as entries. -/
def entriesOf (fields : List (Name × Value)) : Entries :=
  fields.map fun (label, v) => (label.toValue, v)

/-- The set fields as a dictionary. The fields of a stand-in may repeat a label. -/
def toDictionary (record : Record) (table : Table) : Except ValueFault Entries :=
  match record.standIn? with
  | none => (record.setFields table.columns).map entriesOf
  | some v => do
      let fields ← record.setItems (← fieldItems v)
      return Entries.insertAll [] (entriesOf fields)

/-- The form of a record in diagnostics: its set fields, or the entries of what takes the place of
their dictionary. -/
def printed (record : Record) (table : Table) : Action String := do
  let dictionary ← record.calling "to_dict" none
    (return .dict (← Action.ofOperand (record.toDictionary table)))
  let walk ← Action.inEnvironment dictionary.walk
  let entries ← Action.ofOperand (walk.finish walk.entries)
  return Value.bracketed (table.modelLabel.display ++ "(")
    (entries.map fun (key, v) => key.display ++ "=" ++ v.printed) ")"

/-- Whether two records agree in every one of some fields. -/
def agreeOn (a b : Record) : List Column → Except ValueFault Bool
  | [] => .ok true
  | column :: rest => do
      let v ← a.get column.name
      let w ← b.get column.name
      if v.equal w then agreeOn a b rest else return false

/-- Whether two records agree in every one of some items that are taken for fields. -/
def agreeOnItems (a b : Record) : List Value → Except ValueFault Bool
  | [] => .ok true
  | item :: rest => do
      let (label, v) ← a.fieldOf item
      let w ← b.read label.toText
      if v.equal w then agreeOnItems a b rest else return false

/-- Equality of records: of one model, with equal values in every field of the first. -/
def equal (a b : Record) (table : Table) : Except ValueFault Bool :=
  if a.model = b.model then
    match a.standIn? with
    | none => agreeOn a b table.columns
    | some v => do agreeOnItems a b (← fieldItems v)
  else .ok false

/-- Records have no hash. -/
def hash (record : Record) : Except ValueFault Int :=
  .error (.unhashable record.model)

end Record

end RowMapper
