/-!
# Logical field types

The nine types that a field declaration can name. Each has a name, which declarations use, and a
label, which diagnostics use.
-/

namespace RowMapper

/-- The logical type of a field. -/
inductive FieldType where
  | string
  | text
  | integer
  | bigint
  | float
  | boolean
  | timestamp
  | datetime
  | json
  deriving DecidableEq, Repr

namespace FieldType

/-- Every field type. -/
def all : List FieldType :=
  [.string, .text, .integer, .bigint, .float, .boolean, .timestamp, .datetime, .json]

/-- The name by which a declaration refers to a type. -/
def name : FieldType → String
  | .string => "string"
  | .text => "text"
  | .integer => "integer"
  | .bigint => "bigint"
  | .float => "float"
  | .boolean => "boolean"
  | .timestamp => "timestamp"
  | .datetime => "datetime"
  | .json => "json"

/-- The label of a type in diagnostics. -/
def label : FieldType → String
  | .string => "STRING"
  | .text => "TEXT"
  | .integer => "INTEGER"
  | .bigint => "BIGINT"
  | .float => "FLOAT"
  | .boolean => "BOOLEAN"
  | .timestamp => "TIMESTAMP"
  | .datetime => "DATETIME"
  | .json => "JSON"

/-- The type with a given name. -/
def ofName? (name : String) : Option FieldType :=
  all.find? (·.name = name)

@[simp] theorem ofName?_name (type : FieldType) : ofName? type.name = some type := by
  cases type <;> decide

theorem name_injective {a b : FieldType} (h : a.name = b.name) : a = b := by
  simpa using congrArg ofName? h

end FieldType

end RowMapper
