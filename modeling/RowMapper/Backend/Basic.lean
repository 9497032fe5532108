import RowMapper.Backend.Metrics
import RowMapper.Event
import RowMapper.Sql.Operation
import RowMapper.Fault
import RowMapper.Value.Order
import RowMapper.Value.Sequence

/-!
# Backends

A backend takes statements and answers them. The recorder only notes what it is given and answers
from two scripts, one for statements that change data and one for queries. The engine runs every
changing statement in a transaction of its own and every query on a connection of its own, and
measures both; the database below it answers from one script.
-/

namespace RowMapper

/-- The answer to a statement that changes data. -/
structure ExecutionResult where
  affectedRows : Value
  insertId : Value

namespace ExecutionResult

/-- Whether any row was affected. -/
def affectsRows (result : ExecutionResult) : Except ValueFault Bool :=
  result.affectedRows.ordered .above (.int 0)

end ExecutionResult

/-- What reaches a backend or the database below it. -/
inductive Call where
  | execute (sql : String) (parameters : List Value)
  | query (sql : String) (parameters : List Value)
  | begin
  | commit
  | rollback
  | connect
  | close
  | send (text : String) (binds : List (String × Value))

/-- A scripted answer, or the text of a failure. -/
abbrev Scripted (α : Type) := Except String α

/-- A backend that notes statements and answers from scripts. -/
structure Recorder where
  results : List (Scripted ExecutionResult)
  rows : List (Scripted (List Value))

/-- What the database answers: the count of rows as it was reported, the last generated key and
the rows of a query. -/
structure DatabaseAnswer where
  rowCount : Value
  lastRowId : Value
  rows : List Value

/-- A backend that works in transactions, with the script of the database and its measurements. -/
structure Engine where
  answers : List (Scripted DatabaseAnswer)
  metrics : Metrics

/-- A backend. -/
inductive Backend where
  | recorder (state : Recorder)
  | engine (state : Engine)

/-- What a backend does with one statement: the answer, the backend afterwards, what it called and
what it reported. -/
structure Exchange (α : Type) where
  result : Except Fault α
  backend : Backend
  calls : List Call
  events : List Event

/-- The first of the scripted answers, or a standard one when the script is at its end. -/
def nextScripted {α : Type} (standard : α) (script : List (Scripted α)) : Except Fault α :=
  match script.head? with
  | some (.ok answer) => .ok answer
  | some (.error text) => .error (.backend text)
  | none => .ok standard

namespace Recorder

/-- The answer when nothing else is scripted: one row affected, no key generated. -/
def standardResult : ExecutionResult := ⟨.int 1, .null⟩

/-- A recorder without scripts. -/
def fresh : Recorder := ⟨[], []⟩

/-- The recorder with one more answer for statements that change data. -/
def scriptResult (recorder : Recorder) (answer : Scripted ExecutionResult) : Recorder :=
  { recorder with results := recorder.results ++ [answer] }

/-- The recorder with one more answer for queries. -/
def scriptRows (recorder : Recorder) (answer : Scripted (List Value)) : Recorder :=
  { recorder with rows := recorder.rows ++ [answer] }

/-- Take a statement that changes data. -/
def execute (recorder : Recorder) (sql : String) (parameters : List Value) :
    Exchange ExecutionResult where
  result := nextScripted standardResult recorder.results
  backend := .recorder { recorder with results := recorder.results.tail }
  calls := [.execute sql parameters]
  events := []

/-- Take a query. -/
def query (recorder : Recorder) (sql : String) (parameters : List Value) :
    Exchange (List Value) where
  result := nextScripted [] recorder.rows
  backend := .recorder { recorder with rows := recorder.rows.tail }
  calls := [.query sql parameters]
  events := []

end Recorder

namespace Engine

/-- The answer of the database when nothing else is scripted. -/
def standardAnswer : DatabaseAnswer := ⟨.int 1, .null, []⟩

/-- An engine without a script. -/
def fresh : Engine := ⟨[], .empty⟩

/-- The engine with one more answer of the database. -/
def scriptAnswer (engine : Engine) (answer : Scripted DatabaseAnswer) : Engine :=
  { engine with answers := engine.answers ++ [answer] }

/-- The engine after a statement with a given label and outcome. -/
def afterStatement (engine : Engine) (label : Sql.Label) (succeeded : Bool) : Engine where
  answers := engine.answers.tail
  metrics := engine.metrics.observe
    ⟨label.tableName, label.verbName, if succeeded then "success" else "error", true⟩

/-- The count of rows that is reported: a missing or negative one is zero. -/
def countOfRows (reported : Value) : Except ValueFault Value :=
  if reported.truthy then
    (reported.ordered .above (.int 0)).map fun isPositive =>
      if isPositive then reported else .int 0
  else .ok (.int 0)

/-- The generated key that is reported: only for an insertion, and only if it is not zero. -/
def generatedKey (label : Sql.Label) (lastRowId : Value) : Value :=
  if label.verb = some .insert && lastRowId.truthy then lastRowId else .null

/-- The result reported for a changing statement. -/
def resultOf (label : Sql.Label) (answer : DatabaseAnswer) : Except ValueFault ExecutionResult := do
  return ⟨← countOfRows answer.rowCount, generatedKey label answer.lastRowId⟩

/-- The rows of an answer, each as a dictionary. -/
def dictionaries : List Value → Except ValueFault (List Value)
  | [] => .ok []
  | row :: rows => do
      let entries ← row.toEntries
      return .dict entries :: (← dictionaries rows)

/-- Take a statement that changes data. Nothing is begun when the parameters do not fit. -/
def execute (engine : Engine) (sql : String) (parameters : Value) : Exchange ExecutionResult :=
  match Sql.bindPositional sql parameters with
  | .error fault => ⟨.error fault.toFault, .engine engine, [], []⟩
  | .ok bound =>
      let label := Sql.Label.ofSql sql
      let answer := nextScripted standardAnswer engine.answers
      ⟨do (resultOf label (← answer)).mapError .operand,
        .engine (engine.afterStatement label answer.isOk),
        [.begin, .send bound.text bound.binds, if answer.isOk then .commit else .rollback],
        [.statementSent .execute sql bound.binds.length]⟩

/-- Take a query. No connection is opened when the parameters do not fit. -/
def query (engine : Engine) (sql : String) (parameters : Value) : Exchange (List Value) :=
  match Sql.bindPositional sql parameters with
  | .error fault => ⟨.error fault.toFault, .engine engine, [], []⟩
  | .ok bound =>
      let label := Sql.Label.ofSql sql
      let rows := do
        let answer ← nextScripted standardAnswer engine.answers
        (dictionaries answer.rows).mapError .operand
      ⟨rows, .engine (engine.afterStatement label rows.isOk),
        [.connect, .send bound.text bound.binds, .close],
        [.statementSent .query sql bound.binds.length]⟩

end Engine

namespace Backend

/-- Take a statement that changes data. -/
def execute (backend : Backend) (sql : String) (parameters : Value) : Exchange ExecutionResult :=
  match backend with
  | .engine state => state.execute sql parameters
  | .recorder state =>
      match parameters.items with
      | .ok items => state.execute sql items
      | .error fault => ⟨.error (.operand fault), backend, [], []⟩

/-- Take a query. -/
def query (backend : Backend) (sql : String) (parameters : Value) : Exchange (List Value) :=
  match backend with
  | .engine state => state.query sql parameters
  | .recorder state =>
      match parameters.items with
      | .ok items => state.query sql items
      | .error fault => ⟨.error (.operand fault), backend, [], []⟩

/-- The measurements of a backend, which only the engine makes. -/
def metrics : Backend → Metrics
  | .engine state => state.metrics
  | .recorder _ => .empty

end Backend

end RowMapper
