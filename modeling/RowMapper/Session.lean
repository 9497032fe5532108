import RowMapper.Backend.Basic
import RowMapper.Query.Statement
import RowMapper.Schema.Signature

/-!
# Sessions

A session holds everything that outlasts a single operation: the models defined so far, what all
their records have in common, the backend, the environment in which routines run, and what was
called and reported. An operation that fails keeps what it did up to that point.
-/

namespace RowMapper

/-- A rule across the fields of a record: an attribute must not have a given value. -/
structure Guard where
  member : String
  refused : Value

/-- A defined model. -/
structure Model where
  table : Table
  guard : Option Guard

namespace Model

/-- The name of a model. -/
def name (model : Model) : String :=
  model.table.model

end Model

/-- The state that outlasts single operations. -/
structure Session where
  models : List Model
  inherited : List (String × Value)
  backend : Backend
  environment : Environment
  calls : List Call
  events : List Event

namespace Session

/-- A session without models, with the values that its records have from the start. -/
def start (inherited : List (String × Value)) (backend : Backend) (clock : Clock) : Session :=
  ⟨[], inherited, backend, ⟨clock, []⟩, [], []⟩

/-- The model of a name. -/
def model? (session : Session) (name : String) : Option Model :=
  session.models.find? (·.name = name)

/-- The model that a value names. Values that cannot be keys are refused. -/
def modelAt? (session : Session) (name : Value) : Except ValueFault (Option Model) := do
  return (← name.asKey).text? >>= session.model?

/-- The model that a value names, which has to be there. -/
def modelAt (session : Session) (name : Value) : Except ValueFault Model := do
  match ← session.modelAt? name with
  | some model => return model
  | none => throw (.missingItem name)

/-- The session without its notes of calls and reports. -/
def clearNotes (session : Session) : Session :=
  { session with calls := [], events := [] }

/-- Note what a backend did with a statement. -/
def after {α : Type} (session : Session) (exchange : Exchange α) : Session :=
  { session with
    backend := exchange.backend
    calls := session.calls ++ exchange.calls
    events := session.events ++ exchange.events }

end Session

/-- An operation on a session. -/
abbrev Action := ExceptT Fault (StateM Session)

namespace Action

/-- Pass on an answer that needs no session. -/
def ofResult {α : Type} (result : Except Fault α) : Action α :=
  fun session => (result, session)

/-- Pass on an answer about values. -/
def ofOperand {α : Type} (result : Except ValueFault α) : Action α :=
  ofResult (result.mapError .operand)

/-- Report events. -/
def report (events : List Event) : Action Unit :=
  modify fun session => { session with events := session.events ++ events }

/-- Pass on an answer with its events. -/
def ofReport {α : Type} (outcome : Report α) : Action α := do
  report outcome.events
  ofResult outcome.result

/-- Run something in the environment of the session. -/
def inEnvironment {α : Type} (evaluation : Evaluation α) : Action α :=
  fun session =>
    let (result, environment) := evaluation session.environment
    (result.mapError .operand, { session with environment })

/-- Pass on what something in the environment comes to, with its events. -/
def ofEvaluation {α : Type} (evaluation : Evaluation (Report α)) : Action α := do
  ofReport (← inEnvironment evaluation)

/-- Give a changing statement to the backend. -/
def execute (sql : String) (parameters : Value) : Action ExecutionResult :=
  fun session =>
    let exchange := session.backend.execute sql parameters
    (exchange.result, session.after exchange)

/-- Give a query to the backend. -/
def query (sql : String) (parameters : Value) : Action (List Value) :=
  fun session =>
    let exchange := session.backend.query sql parameters
    (exchange.result, session.after exchange)

/-- Give a statement that changes data to the backend. -/
def executeStatement (statement : Statement) : Action ExecutionResult :=
  execute statement.sql (.tuple statement.parameters)

/-- Give a statement that reads data to the backend. -/
def queryStatement (statement : Statement) : Action (List Value) :=
  query statement.sql (.tuple statement.parameters)

end Action

end RowMapper
