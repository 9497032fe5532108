import RowMapper.Name
import RowMapper.Value.Fault

/-!
# Parts of values

Objects have slots that can be asked for by name, and so has a field type its label and the text of
its name. No other value has parts of its own.
-/

namespace RowMapper

namespace Value

/-- The part of a value that goes by a name. -/
def member? (v : Value) (name : String) : Option Value :=
  match v with
  | .object kind slots => (kind.slotNames.zip slots).lookup name
  | .fieldType type =>
      if name = "name" then some (.text type.label)
      else if name = "value" then some (.text type.name)
      else none
  | _ => none

/-- The part of a value that goes by a name, which the value has to have. -/
def member (v : Value) (name : String) : Except ValueFault Value :=
  match v.member? name with
  | some part => .ok part
  | none => .error (v.lacks name)

/-- A value as the name of an attribute. -/
def attributeName (v : Value) : Except ValueFault Name :=
  match Name.ofValue? v with
  | some name => .ok name
  | none => .error (.badAttributeName v.operandName)

end Value

end RowMapper
