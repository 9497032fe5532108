import RowMapper.Sql.Identifier
import RowMapper.Value.Fault

/-!
# Refused declarations

A declaration of a model is refused with one cause. The causes fall into classes, which a caller
can tell apart without reading the wording.
-/

namespace RowMapper

/-- The classes of refused declarations. -/
inductive DeclarationClass where
  | malformed
  | reservedName
  | unknownType
  | unsupportedDefault
  | invalidAutoUpdate
  | alreadyDefined
  deriving DecidableEq

/-- Why a declaration was refused. -/
inductive DeclarationFault where
  | notMapping (kind : String)
  | unknownKey (key field : Value)
  | repeatedKey (key field : Value)
  | noFieldName
  | noFieldType (field : Value)
  | badIdentifier (role : String) (fault : Sql.IdentifierFault)
  | badValidators (field : Name)
  | reserved (field : Name)
  | unknownType (type field : Value)
  | rejectedType (type : String) (field model : Name)
  | rejectedDefault (default : Value) (field model : Name)
  | rejectedAutoUpdate (field model : Name)
  | noModelName
  | noFieldList (model : Name)
  | noFields (model : Name)
  | duplicateField (field model : Name)
  | secondPrimaryKey (first second model : Name)
  | alreadyDefined (model : Name)

namespace DeclarationFault

/-- The class of a cause. -/
def toClass : DeclarationFault → DeclarationClass
  | .reserved _ => .reservedName
  | .unknownType .. | .rejectedType .. => .unknownType
  | .rejectedDefault .. => .unsupportedDefault
  | .rejectedAutoUpdate .. => .invalidAutoUpdate
  | .alreadyDefined _ => .alreadyDefined
  | _ => .malformed

/-- The words that say where a field was rejected. -/
def place (field model : Name) : String :=
  " (field " ++ field.printed ++ " of model " ++ model.display ++ ")"

/-- The wording of a cause. -/
def message : DeclarationFault → String
  | .notMapping kind => "Field declaration must be a mapping, got " ++ kind
  | .unknownKey key field =>
      "Unknown key " ++ key.printed ++ " in declaration of field " ++ field.printed
  | .repeatedKey key field =>
      "Key " ++ key.printed ++ " given twice (under different spellings) for field " ++
        field.printed
  | .noFieldName => "Field must have 'name'"
  | .noFieldType field => "Field " ++ field.printed ++ " must have 'type'"
  | .badIdentifier role fault => fault.message role
  | .badValidators field => "validators of field " ++ field.printed ++ " must be callables"
  | .reserved field =>
      "Field name can not be " ++ field.printed ++ ", it is reserved"
  | .unknownType type field =>
      "Unknown field type " ++ type.printed ++ " for field " ++ field.printed
  | .rejectedType type field model => "Unknown field type " ++ type ++ place field model
  | .rejectedDefault default field model =>
      "Unsupported default value " ++ default.printed ++ place field model
  | .rejectedAutoUpdate field model =>
      "auto_update can only be applied to a timestamp field with default 'now'" ++
        place field model
  | .noModelName => "Model declaration needs a 'name'"
  | .noFieldList model => "Model " ++ model.display ++ " needs a list of 'fields'"
  | .noFields model => "Model " ++ model.display ++ " needs at least one field"
  | .duplicateField field model =>
      "Duplicate field " ++ field.printed ++ " in model " ++ model.display
  | .secondPrimaryKey first second model =>
      "Model " ++ model.display ++ " declares more than one primary key (" ++ first.printed ++
        ", " ++ second.printed ++ ")"
  | .alreadyDefined model =>
      "Model " ++ model.display ++ " is already defined with different fields"

end DeclarationFault

end RowMapper
