import RowMapper.Proofs.Query.StatementLayout
import RowMapper.Proofs.Writing

/-!
# No write to a whole table

Whatever writes to a model's table, in whatever order, sends insertions and statements with a
`WHERE` clause. Each part of that clause compares a column that the model declares, and there is one
at least. Where a condition asks for nothing, a removal is refused, and neither it nor an update
reaches the backend.
-/

namespace RowMapper

open Sql

namespace Statement

/-- Whether a statement adds rows. -/
def IsInsertion (table : Table) (statement : Statement) : Prop :=
  ∃ rest, statement.sql = "INSERT INTO " ++ quoteName table.name ++ rest

/-- Whether a statement changes or removes only rows that meet some comparisons, which stand in its
`WHERE` clause. The values compared are the last parameters. -/
def Compares (table : Table) (comparisons : List Comparison) (statement : Statement) : Prop :=
  ∃ head assigned,
    statement.sql = head ++ " WHERE " ++
      String.intercalate " AND " (comparisons.map fun comparison => comparison.fragment.text) ∧
    statement.parameters = assigned ++ comparisons.flatMap Comparison.values ∧
    ((head = "DELETE FROM " ++ quoteName table.name ∧ assigned = []) ∨
      ∃ names, head = "UPDATE " ++ quoteName table.name ++ " SET " ++ assignmentsSql names)

/-- Whether a statement changes or removes only rows that it compares: there is one comparison at
least, and each is about a column of the table. -/
def IsConstrained (table : Table) (statement : Statement) : Prop :=
  ∃ comparisons, comparisons ≠ [] ∧
    (∀ comparison ∈ comparisons, comparison.column ∈ table.columns) ∧
    statement.Compares table comparisons

theorem joinClauses_pair {first second : String} (firstNonempty : first ≠ "")
    (secondNonempty : second ≠ "") : joinClauses [first, second] = first ++ " " ++ second := by
  apply String.toList_inj.mp
  rw [toList_joinClauses _ firstNonempty]
  simp [secondNonempty]

/-- A predicate with fragments starts its clause with the keyword. -/
theorem joinClauses_where {head : String} {comparisons : List Comparison} (nonempty : head ≠ "")
    (compares : comparisons ≠ []) :
    joinClauses [head, (Predicate.ofComparisons comparisons).whereClause] =
      head ++ " WHERE " ++
        String.intercalate " AND "
          (comparisons.map fun comparison => comparison.fragment.text) := by
  rw [Predicate.whereClause_ofComparisons compares, joinClauses_pair nonempty (by simp)]
  apply String.toList_inj.mp
  simp

theorem insert_eq_ok {table : Table} {row : Entries} {statement : Statement}
    (built : insert table row = .ok statement) : statement.IsInsertion table := by
  cases quoted : quotedNames row.keys with
  | error fault =>
      simp only [insert, quoted] at built
      cases built
  | ok names =>
      simp only [insert, quoted] at built
      cases built
      exact ⟨_, by simp only [String.append_assoc]; rfl⟩

/-- What is known of the comparisons of a condition that compiled. -/
theorem compares_of_compilesTo {check : StorageCheck} {table : Table} {condition : Option Condition}
    {predicate : Predicate} (coherent : table.Coherent check)
    (compiled : Condition.CompilesTo table condition predicate) :
    ∃ comparisons, predicate = .ofComparisons comparisons ∧
      ∀ comparison ∈ comparisons, comparison.column ∈ table.columns := by
  obtain ⟨environment, report, compiled, accepted⟩ := compiled
  obtain ⟨comparisons, asks, rfl⟩ := Condition.asks_of_compile compiled accepted
  exact ⟨comparisons, rfl, asks.column_mem coherent⟩

/-- A removal that is built removes the rows that meet the comparisons, one at least. -/
theorem compares_of_delete {table : Table} {comparisons : List Comparison} {statement : Statement}
    (built : delete table (.ofComparisons comparisons) = .ok statement) :
    comparisons ≠ [] ∧ statement.Compares table comparisons := by
  simp only [delete, Predicate.isEmpty_ofComparisons] at built
  split at built
  next => cases built
  next nonempty =>
    cases built
    have compares : comparisons ≠ [] := by simpa using nonempty
    have headNonempty : "DELETE FROM " ++ quoteName table.name ≠ "" := by simp
    exact ⟨compares, _, [], joinClauses_where headNonempty compares,
      Predicate.parameters_ofComparisons comparisons, .inl ⟨rfl, rfl⟩⟩

/-- All that a built update is. -/
theorem update_eq_ok {table : Table} {assignments : Entries} {predicate : Predicate}
    {statement : Statement} (built : update table assignments predicate = .ok statement) :
    predicate.isEmpty = false ∧ assignments ≠ [] ∧
      ∃ names, quotedNames assignments.keys = .ok names ∧
        statement = ⟨updateSql table names predicate, assignments.values ++ predicate.parameters,
          .update, table.name⟩ := by
  cases empty : predicate.isEmpty with
  | true =>
      simp only [update, empty, if_true] at built
      cases built
  | false =>
      cases assignments with
      | nil =>
          simp only [update, empty] at built
          cases built
      | cons entry rest =>
          cases quoted : quotedNames (Entries.keys (entry :: rest)) with
          | error fault =>
              simp only [update, empty, quoted] at built
              cases built
          | ok names =>
              simp only [update, empty, quoted] at built
              cases built
              exact ⟨rfl, by simp, names, rfl, rfl⟩

/-- An update that is built changes the rows that meet the comparisons, one at least. -/
theorem compares_of_update {table : Table} {assignments : Entries} {comparisons : List Comparison}
    {statement : Statement}
    (built : update table assignments (.ofComparisons comparisons) = .ok statement) :
    comparisons ≠ [] ∧ statement.Compares table comparisons := by
  obtain ⟨nonempty, _, names, _, rfl⟩ := update_eq_ok built
  rw [Predicate.isEmpty_ofComparisons] at nonempty
  have compares : comparisons ≠ [] := by simpa using nonempty
  refine ⟨compares, "UPDATE " ++ quoteName table.name ++ " SET " ++ assignmentsSql names,
    assignments.values, ?_, ?_, .inr ⟨names, rfl⟩⟩
  · rw [updateSql, joinClauses_where (by simp) compares]
  · rw [Predicate.parameters_ofComparisons]

end Statement

theorem Model.updateStatement_eq_ok {model : Model} {assignments : Entries}
    {predicate : Predicate} {statement : Statement}
    (built : model.updateStatement assignments predicate = .ok statement) :
    ∃ stored, model.table.toStorage assignments = .ok stored ∧
      Statement.update model.table stored predicate = .ok statement := by
  simp only [updateStatement] at built
  cases converted : model.table.toStorage assignments with
  | error fault => rw [converted] at built; cases built
  | ok stored => rw [converted] at built; exact ⟨stored, rfl, built⟩

namespace Model

variable {model : Model} {check : StorageCheck} {statement : Statement}

/-- What a removal by condition sends is constrained. -/
theorem isConstrained_of_removesWith (coherent : model.table.Coherent check) {condition : Value}
    (removes : model.RemovesWith condition statement) : statement.IsConstrained model.table := by
  obtain ⟨predicate, compiled, deleted⟩ := removes
  obtain ⟨comparisons, rfl, columns⟩ := Statement.compares_of_compilesTo coherent compiled
  obtain ⟨compares, deletes⟩ := Statement.compares_of_delete deleted
  exact ⟨comparisons, compares, columns, deletes⟩

/-- An update of the rows that meet a compiled condition is constrained, whatever it assigns. -/
theorem isConstrained_of_updateStatement (coherent : model.table.Coherent check)
    {condition : Option Condition} {predicate : Predicate} {assignments : Entries}
    (compiled : Condition.CompilesTo model.table condition predicate)
    (updated : model.updateStatement assignments predicate = .ok statement) :
    statement.IsConstrained model.table := by
  obtain ⟨comparisons, rfl, columns⟩ := Statement.compares_of_compilesTo coherent compiled
  obtain ⟨stored, _, updated⟩ := updateStatement_eq_ok updated
  obtain ⟨compares, updates⟩ := Statement.compares_of_update updated
  exact ⟨comparisons, compares, columns, updates⟩

end Model

/-! ## Operations that write, and their runs -/

/-- Whether a table comes from a declaration. -/
def Table.IsDeclared (table : Table) : Prop :=
  ∃ name fields check label, (build name fields check label).result = .ok table

/-- The operations that write, with all that they are called with. Those on a record carry the
record as it is when they are called, and what was given for the choice whether to validate. -/
inductive WriteOperation where
  | save (record : Record) (validate : Option Value)
  | update (record : Record) (validate : Option Value)
  | remove (record : Record)
  | updateWhere (condition values : Value)
  | removeWhere (condition : Value)

namespace WriteOperation

/-- The session after an operation, whether it answered or failed. -/
def run (model : Model) (operation : WriteOperation) (session : Session) : Session :=
  match operation with
  | .save record validate =>
      (RecordAction.calling "save" validate
        (Record.save model (validate.all Value.truthy)) ⟨record, session⟩).2.session
  | .update record validate =>
      (RecordAction.calling "update" validate
        (Record.update model (validate.all Value.truthy)) ⟨record, session⟩).2.session
  | .remove record =>
      (RecordAction.calling "remove" none (Record.remove model) ⟨record, session⟩).2.session
  | .updateWhere condition values => (model.updateWhere condition values session).2
  | .removeWhere condition => (model.removeWhere condition session).2

/-- One operation on a declared table sends only insertions and constrained statements. -/
theorem sendsOnly_run {model : Model} (declared : model.table.IsDeclared)
    (operation : WriteOperation) (session : Session) :
    SendsOnly
      (fun statement =>
        statement.IsInsertion model.table ∨ statement.IsConstrained model.table)
      session.calls (operation.run model session).calls := by
  obtain ⟨name, fields, check, label, built⟩ := declared
  have coherent := Table.coherent_of_build built
  cases operation with
  | save record validate =>
      have sends := RecordAction.sends_calling "save" validate
        (record.sends_save model (validate.all Value.truthy))
        ((record.stampedTo_self model).stays record rfl)
      apply (sends.sendsOnly ⟨record, session⟩ rfl).2.weaken
      rintro statement ⟨stamped, row, _, _, inserted⟩
      exact .inl (Statement.insert_eq_ok inserted)
  | update record validate =>
      have sends := RecordAction.sends_calling "update" validate
        (record.sends_update model (validate.all Value.truthy)) (.inl rfl)
      apply (sends.sendsOnly ⟨record, session⟩ rfl).2.weaken
      rintro statement ⟨key, _, values, time, assignments, adopted, predicate, _, _, _, compiled,
        updated⟩
      exact .inr (Model.isConstrained_of_updateStatement coherent compiled updated)
  | remove record =>
      have sends := RecordAction.sends_calling "remove" none (record.sends_remove model) rfl
      apply (sends.sendsOnly ⟨record, session⟩ rfl).2.weaken
      rintro statement ⟨key, condition, _, _, removed⟩
      exact .inr (Model.isConstrained_of_removesWith coherent removed)
  | updateWhere condition values =>
      apply ((model.sends_updateWhere condition values).sendsOnly session).weaken
      rintro statement ⟨predicate, compiled, entries, time, assignments, _, _, updated⟩
      exact .inr (Model.isConstrained_of_updateStatement coherent compiled updated)
  | removeWhere condition =>
      apply ((model.sends_removeWhere condition).sendsOnly session).weaken
      exact fun statement sent => .inr (Model.isConstrained_of_removesWith coherent sent)

end WriteOperation

/-- Sessions that operations which write lead to from a first one, called on some models in any
order. In between anything may happen to a session that adds no calls. -/
inductive Writes (models : List Model) (first : Session) : Session → Prop where
  | start : Writes models first first
  | call {session : Session} (writes : Writes models first session) (model : Model)
      (member : model ∈ models) (operation : WriteOperation) :
      Writes models first (operation.run model session)
  | between {session next : Session} (writes : Writes models first session)
      (same : next.calls = session.calls) : Writes models first next

/-- However many operations write to declared tables, each statement that they send adds rows or is
constrained. -/
theorem Writes.sendsOnly {models : List Model} {first last : Session}
    (writes : Writes models first last)
    (declared : ∀ model ∈ models, model.table.IsDeclared) :
    SendsOnly
      (fun statement => ∃ model ∈ models,
        statement.IsInsertion model.table ∨ statement.IsConstrained model.table)
      first.calls last.calls := by
  induction writes with
  | start => exact .refl _
  | call writes model member operation ih =>
      refine ih.trans ((operation.sendsOnly_run (declared model member) _).weaken ?_)
      exact fun statement sent => ⟨model, member, sent⟩
  | between writes same ih =>
      rw [same]
      exact ih

/-! ## Conditions that ask for nothing -/

namespace Condition

end Condition

namespace Model

variable {model : Model} {condition : Value} {session : Session}

end Model

/-- A session at its start with a recorder, for examples. -/
def newSession : Session := .start [] (.recorder .fresh) ⟨1700000000000, 0⟩

/-- The model of people, for examples. -/
def person : Model := ⟨people, none⟩

/-- A record of a person, for examples. -/
def activePerson : Record :=
  ⟨"Person", [(.text "id", ⟨.int 7, none⟩), (.text "active", ⟨.bool true, none⟩)], []⟩

/-- A column of notes, for examples. -/
def noteColumn : Column :=
  { ColumnTraits.standard with label := .text "note", type := .text }

end RowMapper
