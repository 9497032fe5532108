import RowMapper.Proofs.ModifyTime
import RowMapper.Proofs.WrittenFields

/-!
# Saving a record from its fields to the answer

An insertion takes its columns from the fields of the record and leaves out those that are unset,
and the key unless the record sends one of its own. Before that the column kept current takes the
time of the clock, if it is unset, and afterwards the key takes the generated one, if none was sent.
Apart from these two the record stays as it is, and where the backend fails or reports no row the
key stays as well.
-/

namespace RowMapper

open Sql

namespace Statement

/-- The text of an insertion into some columns. -/
def insertSql (table : Table) (columns : List Column) : String :=
  let names := columns.map fun column => quoteName column.name
  "INSERT INTO " ++ quoteName table.name ++ " (" ++ String.intercalate ", " names ++
    ") VALUES (" ++ String.intercalate ", " (names.map fun _ => "?") ++ ")"

end Statement

namespace ExecutionResult

variable {result : ExecutionResult}

end ExecutionResult

namespace Record

variable {record : Record} {model : Model} {table : Table} {session : Session}

/-- The record with a time in the column kept current, where that is unset. -/
def stampedAt (record : Record) (table : Table) (now : Int) : Record :=
  match table.autoUpdate with
  | some column =>
      if (record.valueOf column).isUnset then record.put column.label (.int now) none else record
  | none => record

/-- The columns into which a record is inserted, in order. -/
def sentColumns (record : Record) (table : Table) : List Column :=
  record.writtenColumns table (record.sendsKey table)

/-- The record with a generated key, where there is one and the record sent none. -/
def withGeneratedKey (record : Record) (table : Table) (insertId : Value) : Record :=
  match table.key with
  | some column =>
      if record.sendsKey table || insertId.isNull then record
      else record.put column.label insertId none
  | none => record

/-! ## Before the statement -/

theorem stampedAt_eq_or_put (record : Record) (table : Table) (now : Int) :
    record.stampedAt table now = record ∨ ∃ column, table.autoUpdate = some column ∧
      record.stampedAt table now = record.put column.label (.int now) none := by
  rw [stampedAt]
  cases table.autoUpdate with
  | none => exact .inl rfl
  | some column =>
      dsimp only
      split
      · exact .inr ⟨column, rfl, rfl⟩
      · exact .inl rfl

theorem HasFields.put {columns : List Column} (has : record.HasFields columns)
    (isPublic : ∀ column ∈ columns, IsPublic column.name) {label : Name}
    (labelPublic : IsPublic label.toText) (v : Value) (source : Option Nat) :
    (record.put label v source).HasFields columns := by
  intro column member
  by_cases same : column.name = label.toText
  · rw [same, value?_put_of_isPublic record labelPublic]
    rfl
  · rw [value?_put_of_ne record v source same (isPublic column member).ne_dictionary]
    exact has column member

section

variable (coherent : model.table.Coherent .standard) (isPublic : model.table.HasPublicNames)

include coherent isPublic

/-- A stamped record still has all its fields and obstructs nothing. -/
theorem HasFields.stampedAt (has : record.HasFields model.table.columns) (now : Int) :
    (record.stampedAt model.table now).HasFields model.table.columns := by
  rcases record.stampedAt_eq_or_put model.table now with same | ⟨column, found, same⟩
  · rw [same]
    exact has
  · rw [same]
    exact has.put isPublic (isPublic column (coherent.autoUpdate_mem column found).1) _ _

theorem IsUnobstructed.stampedAt (free : record.IsUnobstructed) (now : Int) :
    (record.stampedAt model.table now).IsUnobstructed := by
  rcases record.stampedAt_eq_or_put model.table now with same | ⟨column, found, same⟩
  · rw [same]
    exact free
  · rw [same]
    exact free.put (isPublic column (coherent.autoUpdate_mem column found).1) _ _

/-- Before an insertion the column kept current takes the time of the clock, if it is unset. -/
theorem exists_stampUnset (has : record.HasFields model.table.columns) (session : Session) :
    ∃ next, stampUnset model ⟨record, session⟩ =
        (.ok (), ⟨record.stampedAt model.table session.environment.clock.now, next⟩) ∧
      next.outward = session.outward := by
  rw [stampUnset, Record.stampedAt]
  cases found : model.table.autoUpdate with
  | none => exact ⟨session, rfl, rfl⟩
  | some column =>
      have member := (coherent.autoUpdate_mem column found).1
      have read := RecordAction.ofRecord_apply (·.get column.name) ⟨record, session⟩
        (has.get member)
      simp only [bind_of_ok read]
      by_cases unset : (record.valueOf column).isUnset = true
      · have ticks : RecordAction.ofAction (.inEnvironment column.resolveDefault)
            ⟨record, session⟩ = (.ok (.int session.environment.clock.now), ⟨record,
              { session with environment :=
                { session.environment with clock := session.environment.clock.advance } }⟩) := by
          rw [Column.resolveDefault, coherent.default_autoUpdate found]
          rfl
        rw [if_pos unset, if_pos unset, bind_of_ok ticks, RecordAction.change,
          record.assign_of_isPublic (isPublic column member), coherent.default_autoUpdate found]
        exact ⟨_, rfl, rfl⟩
      · rw [if_neg unset, if_neg unset]
        exact ⟨session, rfl, rfl⟩

end

/-! ## Behind the answer -/

/-- How an insertion of a record that was stamped ends, once the backend has counted the rows: it
succeeds where a row is reported, the record then has its generated key, and without a success it
stays as it was. -/
structure EndsAs (stamped : Record) (table : Table) (execution : ExecutionResult)
    (result : Except Fault Bool) (last : Record) : Prop where
  succeeds_iff : result = .ok true ↔ execution.ReportsInsertedRow
  counts : ∀ n, execution.affectedRows = .int n → result = .ok (decide (0 < n))
  keyed : result = .ok true → last = stamped.withGeneratedKey table execution.insertId
  kept : result ≠ .ok true → last = stamped

/-- What the backend is given of a record that is inserted. -/
def insertion (stamped : Record) (table : Table) (parameters : List Value) : Request :=
  ⟨.execute, Statement.insertSql table (stamped.sentColumns table), parameters, .insert, table.name⟩

/-- What an insertion of a record that was stamped does from one session to another: the backend is
given the record and nothing else, a failure of the backend is passed on and leaves the record as
it is, and an answer is followed. -/
structure Inserts (stamped : Record) (table : Table) (parameters : List Value) (first : Session)
    (result : Except Fault Bool) (last : Work) : Prop where
  asks : first.Asks (some (stamped.insertion table parameters)) last.session
  fails : ∀ fault, (first.backend.take (stamped.insertion table parameters)).result =
    .error fault → result = .error fault ∧ last.record = stamped
  follows : ∀ execution, (first.backend.take (stamped.insertion table parameters)).result =
    .ok (.execution execution) → stamped.EndsAs table execution result last.record

/-- Quiet steps before an insertion do not matter. -/
theorem Inserts.of_outward_eq {stamped : Record} {parameters : List Value} {first next : Session}
    {result : Except Fault Bool} {last : Work} (same : next.outward = first.outward)
    (inserts : stamped.Inserts table parameters next result last) :
    stamped.Inserts table parameters first result last := by
  have backend : next.backend = first.backend := congrArg Prod.fst same
  refine ⟨inserts.asks.of_outward_eq same, ?_, ?_⟩
  · intro fault failed
    rw [← backend] at failed
    exact inserts.fails fault failed
  · intro execution answered
    rw [← backend] at answered
    exact inserts.follows execution answered

/-- Before an insertion a record is checked and stamped. -/
theorem save_eq (coherent : model.table.Coherent .standard) (isPublic : model.table.HasPublicNames)
    (has : record.HasFields model.table.columns) (free : record.IsUnobstructed)
    {validated : Bool} {checked : Session}
    (passes : checkIf validated model false ⟨record, session⟩ =
      (.ok true, ⟨record, checked⟩)) :
    ∃ next, save model validated ⟨record, session⟩ =
        insertRow model ⟨record.stampedAt model.table checked.environment.clock.now, next⟩ ∧
      next.outward = session.outward := by
  obtain ⟨next, stamps, quiet⟩ := exists_stampUnset coherent isPublic has checked
  have unseen : checked.outward = session.outward := by
    have still := still_checkIf validated model false ⟨record, session⟩
    rw [passes] at still
    exact congrArg Prod.snd still
  have reached := RecordAction.ofRecord_apply (·.reachTable "auto_update_field")
    ⟨record, checked⟩ (free.reachTable _)
  refine ⟨next, ?_, quiet.trans unseen⟩
  rw [save, bind_of_ok passes]
  change (RecordAction.ofRecord (·.reachTable "auto_update_field") >>= _) _ = _
  rw [bind_of_ok reached, bind_of_ok stamps]
  cases found : model.table.key with
  | none =>
      have keyless : model.table.primaryKey = none := by
        rw [Table.primaryKey, found]
        rfl
      simp only [keyless]
  | some column =>
      have member := (coherent.key_mem column found).1
      have named := Table.primaryKey_of_key found
      have read := RecordAction.ofRecord_apply (·.get column.name)
        ⟨record.stampedAt model.table checked.environment.clock.now, next⟩
        ((has.stampedAt coherent isPublic _).get member)
      simp only [named]
      rw [bind_of_ok read]

end Record

end RowMapper
