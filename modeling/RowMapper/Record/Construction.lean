import RowMapper.Record.Basic

/-!
# Making records

A record starts with the values it is given, and for the other fields with their defaults, or
unset where defaults are not wanted. A record that is loaded takes its values from a row of the
database.
-/

namespace RowMapper

namespace Record

/-- The values that a new record is given: a dictionary or pairs, overridden by named values. -/
def givenValues (values : Value) (named : List (String × Value)) : Except ValueFault Entries := do
  let entries ← if values.truthy then values.toEntries else pure []
  return entries.insertAll (named.map fun (name, v) => (.text name, v))

/-- The attribute with which a field starts. -/
def initialAttribute (column : Column) (given : Entries) (withDefaults : Bool) :
    Evaluation Attribute :=
  match given.find? (.text column.name) with
  | some v => return ⟨v, none⟩
  | none =>
      if withDefaults then do return ⟨← column.resolveDefault, column.default.sourceMark?⟩
      else return ⟨.unset, none⟩

/-- Give fields their starting values one after the other. -/
def fillFields (given : Entries) (withDefaults : Bool) (record : Record) :
    List Column → Evaluation Record
  | [] => return record
  | column :: rest => do
      let start ← initialAttribute column given withDefaults
      let record ← .ofOperand (record.assign column.label start.value start.source)
      fillFields given withDefaults record rest

/-- A new record of a model. -/
def make (model : Model) (values : Value) (named : List (String × Value)) (withDefaults : Bool) :
    Action Record := do
  let given ← Action.ofOperand (givenValues values named)
  let fresh := blank model.name (← getThe Session).inherited
  Action.inEnvironment (fillFields given withDefaults fresh model.table.columns)

/-- The values of a row by field. Columns that are no fields are left out. -/
def rowValues (row : Value) : List Column → Except ValueFault Entries
  | [] => .ok []
  | column :: rest => do
      if ← row.contains column.label.toValue then
        let v ← column.fromStorage (← row.atName column.label)
        return (.text column.name, v) :: (← rowValues row rest)
      else rowValues row rest

/-- The record that a row of the database is. -/
def ofRow (model : Model) (row : Value) : Action Record := do
  let entries ← Action.ofOperand (rowValues row model.table.columns)
  make model (.dict entries) [] false

end Record

end RowMapper
