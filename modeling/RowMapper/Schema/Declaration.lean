import RowMapper.Fault
import RowMapper.Schema.Column

/-!
# Field declarations

A field is declared by a mapping from keys to values, or handed in as a column. Several keys are
spellings of one trait, and each trait may be given once. The checks come in a fixed order: the
shape of the declaration, its name, its type, then the validators.
-/

namespace RowMapper

/-- What the keys of a declaration can set. -/
inductive DeclaredPart where
  | name
  | type
  | databaseType
  | primaryKey
  | autoIncrement
  | autoUpdate
  | default
  | nullable
  | index
  | unique
  | comment
  | validators
  deriving DecidableEq

namespace DeclaredPart

/-- The accepted keys. -/
def spellings : List (String × DeclaredPart) :=
  [("name", .name), ("type", .type), ("db_type", .databaseType), ("dbType", .databaseType),
    ("primary_key", .primaryKey), ("primaryKey", .primaryKey), ("isPrimaryKey", .primaryKey),
    ("auto_increment", .autoIncrement), ("autoIncrement", .autoIncrement),
    ("auto_update", .autoUpdate), ("autoUpdate", .autoUpdate), ("default", .default),
    ("defaultValue", .default), ("nullable", .nullable), ("index", .index), ("unique", .unique),
    ("comment", .comment), ("validators", .validators)]

/-- What a key sets. -/
def ofKey? (key : Value) : Option DeclaredPart := do
  spellings.lookup (← key.text?)

end DeclaredPart

/-- The parts of a declaration with their values, in order. -/
abbrev DeclaredParts := List (DeclaredPart × Value)

namespace DeclaredParts

/-- The value given for a part. -/
def find? (parts : DeclaredParts) (part : DeclaredPart) : Option Value :=
  List.lookup part parts

/-- The value of a flag, as a truth value. -/
def flag (parts : DeclaredParts) (part : DeclaredPart) (standard : Value) : Value :=
  match parts.find? part with
  | some v => .bool v.truthy
  | none => standard

/-- Read the entries of a declaration one by one. The name under which a fault is reported is the
one found under the key `name`, wherever that stands. -/
def ofEntries (field : Value) (parts : DeclaredParts) :
    Entries → Except DeclarationFault DeclaredParts
  | [] => .ok parts
  | (key, v) :: rest =>
      match DeclaredPart.ofKey? key with
      | none => .error (.unknownKey key field)
      | some part =>
          if (parts.find? part).isSome then .error (.repeatedKey key field)
          else ofEntries field (parts ++ [(part, v)]) rest

end DeclaredParts

namespace Column

/-- Field names that the record operations use themselves. -/
def reservedNames : List String :=
  ["constructor", "__init__", "_meta", "objects", "save", "update", "remove", "validate",
    "to_dict", "is_set", "assign_default"]

/-- The name that a value gives to a field. -/
def checkName (v : Value) : Except DeclarationFault Name :=
  match Sql.checkIdentifier v with
  | .error fault => .error (.badIdentifier "field name" fault)
  | .ok name =>
      if reservedNames.contains name.toText then .error (.reserved name) else .ok name

/-- The field type that a value names. -/
def typeOfValue? (v : Value) : Option FieldType := do
  FieldType.ofName? (← v.text?)

/-- The default of a field: the word `now` stands for the current time on timestamps. -/
def declaredDefault (type : FieldType) (v : Value) : Value :=
  if type = .timestamp && v.equal (.text "now") then .currentTime else v

/-- The validators of a field, a single one or a collection. -/
def declaredValidators (name : Name) (v : Value) : Except Fault Value := do
  let validators ← if v.isCallable then pure [v] else v.items
  if validators.all Value.isCallable then return .tuple validators
  else throw (.declaration (.badValidators name))

/-- The column with a name and type and with the parts of a declaration as traits. -/
def withParts (label : Name) (type : FieldType) (validators : Value) (parts : DeclaredParts) :
    Column where
  label
  type
  databaseType := (parts.find? .databaseType).getD ColumnTraits.standard.databaseType
  primaryKey := parts.flag .primaryKey ColumnTraits.standard.primaryKey
  autoIncrement := parts.flag .autoIncrement ColumnTraits.standard.autoIncrement
  autoUpdate := parts.flag .autoUpdate ColumnTraits.standard.autoUpdate
  default := declaredDefault type ((parts.find? .default).getD ColumnTraits.standard.default)
  nullable := parts.flag .nullable ColumnTraits.standard.nullable
  index := parts.flag .index ColumnTraits.standard.index
  unique := parts.flag .unique ColumnTraits.standard.unique
  comment := (parts.find? .comment).getD ColumnTraits.standard.comment
  validators

/-- The name and type that parts of a declaration give. -/
def declaredHead (parts : DeclaredParts) : Except DeclarationFault (Name × FieldType) :=
  let name := (parts.find? .name).getD .null
  let type := (parts.find? .type).getD .null
  if !name.truthy then .error .noFieldName
  else if !type.truthy then .error (.noFieldType name)
  else
    match checkName name with
    | .error fault => .error fault
    | .ok checked =>
        match typeOfValue? type with
        | none => .error (.unknownType type name)
        | some type => .ok (checked, type)

/-- The column that parts of a declaration describe. -/
def ofParts (parts : DeclaredParts) : Except Fault Column := do
  let (label, type) ← declaredHead parts
  let validators ← declaredValidators label ((parts.find? .validators).getD (.tuple []))
  return withParts label type validators parts

/-- The column that a ready made one is, once its name and type are checked. -/
def ofReady (name type : Value) (traits : ColumnTraits) : Except DeclarationFault Column :=
  match checkName name with
  | .error fault => .error fault
  | .ok label =>
      match type with
      | .fieldType type => .ok { traits with label, type }
      | _ => .error (.unknownType type name)

/-- The column that a declaration describes. -/
def ofValue (v : Value) : Except Fault Column :=
  match v with
  | .dict entries => do
      let field := (Entries.find? entries (.text "name")).getD .null
      ofParts (← DeclaredParts.ofEntries field [] entries)
  | .object .column (name :: type :: slots) =>
      match ColumnTraits.ofSlots? slots with
      | some traits => (ofReady name type traits).mapError .declaration
      | none => .error (.declaration (.notMapping v.kindName))
  | _ => .error (.declaration (.notMapping v.kindName))

end Column

end RowMapper
