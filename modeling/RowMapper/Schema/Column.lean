import RowMapper.Json.Reader
import RowMapper.Json.Writer
import RowMapper.Name

/-!
# Columns

A column is a field of a model as accepted: its label, which is its name as declared, its logical
type and ten traits. Traits keep the values that they were given, since a column can be handed in
ready made; flags count by their truth. The module also holds the two conversions of a column's
values, to what the database stores and back.
-/

namespace RowMapper

/-- What a declaration says of a field beside its name and type. -/
structure ColumnTraits where
  databaseType : Value
  primaryKey : Value
  autoIncrement : Value
  autoUpdate : Value
  default : Value
  nullable : Value
  index : Value
  unique : Value
  comment : Value
  validators : Value

namespace ColumnTraits

/-- The traits of a field of which nothing is said. -/
def standard : ColumnTraits where
  databaseType := .null
  primaryKey := .bool false
  autoIncrement := .bool false
  autoUpdate := .bool false
  default := .unset
  nullable := .bool true
  index := .bool false
  unique := .bool false
  comment := .null
  validators := .tuple []

/-- The traits in order of declaration. -/
def toSlots (traits : ColumnTraits) : List Value :=
  [traits.databaseType, traits.primaryKey, traits.autoIncrement, traits.autoUpdate,
    traits.default, traits.nullable, traits.index, traits.unique, traits.comment,
    traits.validators]

/-- The traits that ten values in order of declaration are. -/
def ofSlots? : List Value → Option ColumnTraits
  | [databaseType, primaryKey, autoIncrement, autoUpdate, default, nullable, index, unique, comment,
      validators] =>
      some ⟨databaseType, primaryKey, autoIncrement, autoUpdate, default, nullable, index, unique,
        comment, validators⟩
  | _ => none

@[simp] theorem ofSlots?_toSlots (traits : ColumnTraits) :
    ofSlots? traits.toSlots = some traits := rfl

end ColumnTraits

/-- A field of a model. -/
structure Column extends ColumnTraits where
  label : Name
  type : FieldType

namespace Column

/-- The name of the column. -/
def name (column : Column) : String :=
  column.label.toText

/-- The column as a value. -/
def toValue (column : Column) : Value :=
  .object .column (column.label.toValue :: .fieldType column.type :: column.toColumnTraits.toSlots)

/-- Whether the column is the primary key. -/
def isPrimaryKey (column : Column) : Bool :=
  column.primaryKey.truthy

/-- Whether the database generates the values of the column. -/
def isAutoIncrement (column : Column) : Bool :=
  column.autoIncrement.truthy

/-- Whether updates set the column to the current time. -/
def isAutoUpdate (column : Column) : Bool :=
  column.autoUpdate.truthy

/-- Whether the column has a default. -/
def hasDefault (column : Column) : Bool :=
  !column.default.isUnset

/-- What is sent to the database for a value of the column. Truth values are stored as one and
zero, and JSON columns store texts. -/
def toStorage (column : Column) (v : Value) : Except ValueFault Value :=
  if v.isNull then .ok .null
  else
    match column.type with
    | .boolean => .ok (.int (if v.truthy then 1 else 0))
    | .json => (Json.write v).map fun text => .text (.ofList text)
    | _ =>
        match v with
        | .bool b => .ok (.int (if b then 1 else 0))
        | _ => .ok v

/-- The value of the column for what the database sent. -/
def fromStorage (column : Column) (stored : Value) : Except ValueFault Value :=
  if stored.isNull then .ok .null
  else
    match column.type with
    | .boolean => .ok (.bool stored.truthy)
    | .json =>
        match stored with
        | .text s => Json.readString s
        | .fieldType type => Json.readString type.name
        | .octets bytes =>
            match Text.Encoding.decode bytes with
            | some text => Json.read text
            | none => .error .undecodable
        | _ => .ok stored
    | _ => .ok stored

end Column

end RowMapper
