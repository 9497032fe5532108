import RowMapper.Schema.Fault
import RowMapper.Sql.Binding

/-!
# Faults

Every operation of the library that can fail answers with one cause of this type.
-/

namespace RowMapper

/-- The operations on one record that need its key. -/
inductive RecordOperation where
  | update
  | remove
  deriving DecidableEq

namespace RecordOperation

/-- The name of an operation. -/
def name : RecordOperation → String
  | .update => "update"
  | .remove => "remove"

end RecordOperation

/-- Why an operation failed. -/
inductive Fault where
  | operand (fault : ValueFault)
  | identifier (role : String) (fault : Sql.IdentifierFault)
  | declaration (fault : DeclarationFault)
  | notVerdict (code : Value)
  | missingPrimaryKey (operation : RecordOperation) (model : Value)
  | keylessModel (model : Name)
  | keylessTouch (model : Name)
  | unconditionalUpdate (table : Name)
  | unconditionalDelete (table : Name)
  | nothingToUpdate (table : Name)
  | badOptions (kind : String)
  | unknownOption (key : Value)
  | badLimit (option : String) (value : Value)
  | placeholderCount (placeholders parameters : Nat)
  | badBase (printed : String)
  | undefinedModel
  | noManager
  | badUrl
  | backend (text : String)

instance : Coe ValueFault Fault := ⟨.operand⟩
instance : Coe DeclarationFault Fault := ⟨.declaration⟩

instance : MonadLift (Except ValueFault) (Except Fault) := ⟨fun result => result.mapError .operand⟩
instance : MonadLift (Except DeclarationFault) (Except Fault) :=
  ⟨fun result => result.mapError .declaration⟩

namespace Sql.BindFault

/-- A failure to bind parameters as a fault. -/
def toFault : BindFault → Fault
  | .operand fault => .operand fault
  | .mismatch placeholders parameters => .placeholderCount placeholders parameters

end Sql.BindFault

namespace Fault

/-- The wording of a fault. -/
def message : Fault → String
  | .operand fault => fault.message
  | .identifier role fault => fault.message role
  | .declaration fault => fault.message
  | .notVerdict code => code.printed ++ " is not a valid FieldInitResult"
  | .missingPrimaryKey operation model =>
      operation.name ++ " can only be applied to an instance with a primary key value, " ++
        "please check model " ++ model.display
  | .keylessModel model =>
      "Model " ++ model.display ++ " has no primary key; use a field mapping condition instead"
  | .keylessTouch model => "touch() needs a primary key, model " ++ model.display ++ " has none"
  | .unconditionalUpdate table => "Refusing to UPDATE " ++ table.display ++ " without a condition"
  | .unconditionalDelete table =>
      "Refusing to DELETE from " ++ table.display ++ " without a condition"
  | .nothingToUpdate table => "Nothing to update in " ++ table.display
  | .badOptions kind => "options must be QueryOptions or a mapping, got " ++ kind
  | .unknownOption key => "Unknown query option " ++ key.printed
  | .badLimit option value =>
      option ++ " must be a non-negative integer, got " ++ value.printed
  | .placeholderCount placeholders parameters =>
      "Statement has " ++ Nat.repr placeholders ++ " placeholders but " ++ Nat.repr parameters ++
        " parameters were given"
  | .badBase printed => "base must be a Model subclass, got " ++ printed
  | .undefinedModel =>
      "Model has no metadata; create model types with ModelRegistry.define()"
  | .noManager => "Model is not a defined model"
  | .badUrl => "url must be a non-empty SQLAlchemy database URL"
  | .backend text => text

end Fault

end RowMapper
