import RowMapper.Session

/-!
# Defining models

A model is defined once. Defining it again with a declaration that has the same signature gives
the model that is there; with any other declaration it is refused. Registering is defining with
refused declarations as an answer.
-/

namespace RowMapper

/-- What a new model builds on: nothing, a rule across its fields, a model defined before, or
something that is no model. -/
inductive Base where
  | plain
  | guarded (guard : Guard)
  | model (name : String)
  | foreign (printed : String)

namespace Base

/-- The rule that a new model takes over. -/
def guard? (base : Base) (session : Session) : Except Fault (Option Guard) :=
  match base with
  | .plain => .ok none
  | .guarded guard => .ok (some guard)
  | .model name =>
      match session.model? name with
      | some earlier => .ok earlier.guard
      | none => .error (.operand (.missingItem (.text name)))
  | .foreign printed => .error (.badBase printed)

end Base

/-- A model together with whether it had been defined before. -/
structure Definition where
  model : Model
  existing : Bool

/-- The answer to a registration. -/
inductive Registration where
  | accepted (definition : Definition)
  | rejected (fault : DeclarationFault)

namespace Session

/-- The session with one more model. -/
def addModel (session : Session) (model : Model) : Session :=
  { session with models := session.models ++ [model] }

end Session

namespace Model

/-- The event that tells of a new model. -/
def definedEvent (model : Model) : Event :=
  .modelDefined model.table.modelLabel model.table.label (model.table.key.map (·.label))
    model.table.columns.length

/-- The model that a table and the models defined before lead to. -/
def settle (session : Session) (guard : Option Guard) (table : Table) :
    Except Fault Definition :=
  match session.model? table.model with
  | none => .ok ⟨⟨table, guard⟩, false⟩
  | some existing =>
      match existing.table.sameSignature table session.environment with
      | .error fault => .error (.operand fault)
      | .ok true => .ok ⟨existing, true⟩
      | .ok false => .error (.declaration (.alreadyDefined table.modelLabel))

/-- Define a model whose columns have to pass the storage check of a backend. -/
def defineUnder (check : StorageCheck) (name fields table : Value) (base : Base) :
    Action Definition := do
  let guard ← Action.ofResult (base.guard? (← get))
  let table ← Action.ofReport (Table.build name fields check table)
  let definition ← Action.ofResult (settle (← get) guard table)
  if !definition.existing then
    modify fun session => session.addModel definition.model
    Action.report [definition.model.definedEvent]
  return definition

/-- Define a model, with a refused declaration as an answer. Any other fault stays one. -/
def registerUnder (check : StorageCheck) (name fields table : Value) (base : Base) :
    Action Registration :=
  fun session =>
    match defineUnder check name fields table base session with
    | (.ok definition, session) => (.ok (.accepted definition), session)
    | (.error (.declaration fault), session) =>
        (.ok (.rejected fault),
          { session with
            events := session.events ++ [.modelRejected name fault.message] })
    | (.error fault, session) => (.error fault, session)

/-- Define a model under the rules of this library. -/
def define : (name fields table : Value) → (base : Base) → Action Definition :=
  defineUnder .standard

/-- Define a model under the rules of this library, with a refused declaration as an answer. -/
def register : (name fields table : Value) → (base : Base) → Action Registration :=
  registerUnder .standard

end Model

end RowMapper
