import RowMapper.Proofs.UpdateByKey
import RowMapper.Proofs.ValueIndependence

/-!
# What the outcome of an update tells

The outcome of an update is put together from what the backend answered and from the time that was
added to the assignments. From the outcome one can read whether rows were changed, and whether a
time was written along with them that nobody had given. This holds of updates of a record and of
updates of the rows that meet a condition alike, since both stamp assignments and send them.
-/

namespace RowMapper

open Sql

/-- Whether all that others can see between two sessions is that the backend took a statement and
gave an answer, or nothing at all where there is none. -/
def Session.Exchanges (first : Session) (sent : Option (Statement × ExecutionResult))
    (last : Session) : Prop :=
  match sent with
  | none => first.Asks none last
  | some (statement, execution) =>
      first.Asks (some ⟨.execute, statement⟩) last ∧
        (first.backend.take ⟨.execute, statement⟩).result = .ok (.execution execution)

/-- Quiet steps before an exchange do not matter. -/
theorem Session.Exchanges.of_outward_eq {first next last : Session}
    {sent : Option (Statement × ExecutionResult)} (same : next.outward = first.outward)
    (exchanges : next.Exchanges sent last) : first.Exchanges sent last := by
  cases sent with
  | none =>
      have asks : next.Asks none last := exchanges
      exact asks.of_outward_eq same
  | some pair =>
      have backend : next.backend = first.backend := congrArg Prod.fst same
      obtain ⟨asks, answered⟩ := exchanges
      rw [backend] at answered
      exact ⟨asks.of_outward_eq same, answered⟩

/-- What an update adds to the assignments of its caller, with the time in question: the time of the
clock for the column kept current, unless that is assigned already or there is none. -/
inductive Table.Adds (table : Table) (assigned : Entries) : Value → Entries → Prop
  | nothing (kept : ∀ column, table.autoUpdate = some column → assigned.Sets column.name) :
      Adds table assigned .null []
  | time {column : Column} (found : table.autoUpdate = some column)
      (absent : ¬ assigned.Sets column.name) (now : Int) :
      Adds table assigned (.int now) [(column.label.toValue, .int now)]

/-- Whether an update sets the columns of some assignments in their order, with the stored forms of
the values, and behind them those of others with the values as they are. -/
def Statement.SetsThen (statement : Statement) (table : Table) (assigned added : Entries) : Prop :=
  ∃ stored predicate, table.toStorage assigned = .ok stored ∧
    statement =
      ⟨updateSql table ((assigned.keys ++ added.keys).map fun key => quoteName key.columnName)
          predicate,
        stored.values ++ added.values ++ predicate.parameters, .update, table.name⟩

/-- What the outcome of an update tells about the assignments of its caller and about the statement
that was sent with the answer of the backend: whether rows were changed, and whether the time was
written along with them, which then stands behind the assignments. Without assignments nothing is
sent, nor is it where the update was refused. -/
structure UpdateOutcome.Tells (outcome : UpdateOutcome) (table : Table) (assigned : Entries)
    (refused : Prop) (sent : Option (Statement × ExecutionResult)) : Prop where
  updated_iff : outcome.updated = true ↔
    ∃ statement execution, sent = some (statement, execution) ∧ execution.affectsRows = .ok true
  modifyTime_iff : outcome.modifyTime ≠ .null ↔ outcome.updated = true ∧
    ∃ column, table.autoUpdate = some column ∧ ¬ assigned.Sets column.name
  sets : ∀ statement execution, sent = some (statement, execution) → ∃ time added,
    table.Adds assigned time added ∧ statement.SetsThen table assigned added ∧
      outcome.modifyTime = if outcome.updated then time else .null
  unsent_iff : sent = none ↔ refused ∨ (assigned = [] ∧ table.autoUpdate = none)

namespace Table

variable {table : Table} {assigned stamped : Entries} {time : Value}

/-- Where a table keeps a column current, an update has something to assign. -/
theorem Adds.append_eq_nil_iff {added : Entries} (adds : table.Adds assigned time added) :
    assigned ++ added = [] ↔ assigned = [] ∧ table.autoUpdate = none := by
  rw [List.append_eq_nil_iff]
  cases adds with
  | nothing kept =>
      constructor
      · rintro ⟨rfl, _⟩
        refine ⟨rfl, Option.eq_none_iff_forall_ne_some.mpr fun column found => ?_⟩
        exact Entries.sets_nil _ (kept column found)
      · rintro ⟨rfl, _⟩
        exact ⟨rfl, rfl⟩
  | time found absent now =>
      constructor
      · rintro ⟨_, impossible⟩
        cases impossible
      · rintro ⟨_, missing⟩
        rw [found] at missing
        cases missing

/-- What is added is stored as it is. -/
theorem Adds.toStorage (coherent : table.Coherent .standard) {added : Entries}
    (adds : table.Adds assigned time added) : table.toStorage added = .ok added := by
  cases adds with
  | nothing kept => rfl
  | @time column found absent now =>
      have member := (coherent.autoUpdate_mem column found).1
      have named : table.columnAt? column.label.toValue = some column := by
        rw [columnAt?, column.label.text?_toValue]
        exact coherent.column?_name member
      simp only [Table.toStorage, named, coherent.toStorage_time found]
      rfl

end Table

namespace UpdateOutcome

variable {table : Table} {assigned : Entries} {refused : Prop}

end UpdateOutcome

namespace Record

variable {record : Record} {model : Model} {session : Session} {outcome : UpdateOutcome}
  {last : Work}

end Record

namespace Model

variable {model : Model}

end Model

end RowMapper
