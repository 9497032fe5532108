import RowMapper.Value.Printed

/-!
# Names

Models, tables and fields have names. A name is declared as a text or as a field type, which stands
for the text of its own name; diagnostics show which of the two it was.
-/

namespace RowMapper

/-- A name as declared. -/
inductive Name where
  | text (s : String)
  | fieldType (type : FieldType)
  deriving DecidableEq

namespace Name

/-- The name that a value is. -/
def ofValue? : Value → Option Name
  | .text s => some (.text s)
  | .fieldType type => some (.fieldType type)
  | _ => none

/-- The name as a value. -/
def toValue : Name → Value
  | .text s => .text s
  | .fieldType type => .fieldType type

/-- The text that the name stands for. -/
def toText : Name → String
  | .text s => s
  | .fieldType type => type.name

/-- The name as it stands in a message. -/
def display (name : Name) : String :=
  name.toValue.display

/-- The name as it stands in a message that quotes it. -/
def printed (name : Name) : String :=
  name.toValue.printed

@[simp] theorem ofValue?_toValue (name : Name) : ofValue? name.toValue = some name := by
  cases name <;> rfl

@[simp] theorem text?_toValue (name : Name) : name.toValue.text? = some name.toText := by
  cases name <;> rfl

end Name

end RowMapper
