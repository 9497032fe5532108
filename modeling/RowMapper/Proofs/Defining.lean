import RowMapper.Proofs.Request
import RowMapper.Registry

/-!
# What one definition does

Defining a model ends in one of four ways: what it should build on is refused, its declaration is
refused, a model of its name stands in the way, or there is a definition, of a new model or of the
one that is there. `Model.defineUnder_apply` tells the four apart, and the other facts on single
definitions and registrations are read off it.
-/

namespace RowMapper

/-- Whether a fault says that a declaration was refused. -/
def Fault.isRefusedDeclaration : Fault → Bool
  | .declaration _ => true
  | _ => false

/-- Whether a value cannot be gone through, with the fault that this ends with. -/
def Value.HasNoItems (v : Value) (fault : Fault) : Prop :=
  v.items? = none ∧ fault = .operand (.notIterable v.operandName)

namespace Session

/-- The session with further events. -/
def reporting (session : Session) (events : List Event) : Session :=
  { session with events := session.events ++ events }

@[simp] theorem models_reporting (session : Session) (events : List Event) :
    (session.reporting events).models = session.models := rfl

@[simp] theorem models_addModel (session : Session) (model : Model) :
    (session.addModel model).models = session.models ++ [model] := rfl

/-- The session after a definition: with the model, if that is a new one. -/
def keeping (session : Session) (definition : Definition) : Session :=
  if definition.existing then session
  else (session.addModel definition.model).reporting [definition.model.definedEvent]

@[simp] theorem models_keeping (session : Session) (definition : Definition) :
    (session.keeping definition).models =
      session.models ++ if definition.existing then [] else [definition.model] := by
  rw [keeping]
  split <;> simp

end Session

namespace Model

variable {check : StorageCheck} {name fields label : Value} {base : Base} {session : Session}

/-- Settling looks at the models and the environment alone. -/
theorem settle_reporting (session : Session) (events : List Event) (guard : Option Guard)
    (table : Table) : settle (session.reporting events) guard table = settle session guard table :=
  rfl

/-- How a definition ends. -/
theorem defineUnder_apply (check : StorageCheck) (name fields label : Value) (base : Base)
    (session : Session) :
    defineUnder check name fields label base session =
      match base.guard? session with
      | .error fault => (.error fault, session)
      | .ok guard =>
          let built := Table.build name fields check label
          let reported := session.reporting built.events
          match built.result with
          | .error fault => (.error fault, reported)
          | .ok table =>
              match settle session guard table with
              | .error fault => (.error fault, reported)
              | .ok definition => (.ok definition, reported.keeping definition) := by
  have opened : defineUnder check name fields label base session =
      (Action.ofResult (base.guard? session) >>= fun guard =>
        Action.ofReport (Table.build name fields check label) >>= fun table =>
          (fun next => (Action.ofResult (settle next guard table) >>= fun definition =>
            (do
              if !definition.existing then
                modify fun session => session.addModel definition.model
                Action.report [definition.model.definedEvent]
              return definition : Action Definition)) next)) session := rfl
  have reports : Action.ofReport (Table.build name fields check label) session =
      ((Table.build name fields check label).result,
        session.reporting (Table.build name fields check label).events) := rfl
  rw [opened, bind_apply]
  cases base.guard? session with
  | error fault => rfl
  | ok guard =>
      dsimp only [Action.ofResult]
      rw [bind_apply, reports]
      cases (Table.build name fields check label).result with
      | error fault => rfl
      | ok table =>
          dsimp only
          rw [settle_reporting, bind_apply]
          cases settle session guard table with
          | error fault => rfl
          | ok definition =>
              obtain ⟨model, existing⟩ := definition
              cases existing with
              | true => rfl
              | false => rfl

/-- A declaration that is refused when the table is built. -/
theorem defineUnder_of_failed {guard : Option Guard} {fault : Fault}
    (allowed : base.guard? session = .ok guard)
    (failed : (Table.build name fields check label).result = .error fault) :
    (defineUnder check name fields label base session).1 = .error fault := by
  rw [defineUnder_apply, allowed]
  dsimp only
  rw [failed]

/-- Registering answers with a refused declaration. -/
theorem registerUnder_of_refused {refused : DeclarationFault}
    (ended : (defineUnder check name fields label base session).1 =
      .error (.declaration refused)) :
    (registerUnder check name fields label base session).1 = .ok (.rejected refused) := by
  rw [registerUnder]
  cases ran : defineUnder check name fields label base session with
  | mk result last =>
      rw [ran] at ended
      cases ended
      rfl

/-- Registering passes on every other fault. -/
theorem registerUnder_of_other {fault : Fault}
    (ended : (defineUnder check name fields label base session).1 = .error fault)
    (other : fault.isRefusedDeclaration = false) :
    (registerUnder check name fields label base session).1 = .error fault := by
  rw [registerUnder]
  cases ran : defineUnder check name fields label base session with
  | mk result last =>
      rw [ran] at ended
      cases ended
      cases fault with
      | declaration refused => cases other
      | _ => rfl

end Model

end RowMapper
