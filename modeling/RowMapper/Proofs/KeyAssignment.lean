import RowMapper.Proofs.Assignments
import RowMapper.Proofs.TableSafety

/-!
# When an update sets the primary key

The key is left out of what callers and records assign, but the column kept current is added after
that. So an update sets the key of its rows just when the key is that column, and an update of a
record leaves the key of the record alone unless it is.
-/

namespace RowMapper

open Sql

namespace Statement

/-- Keys that can be quoted are texts, and the quoted names are theirs. -/
theorem quotedNames_eq_ok {keys : List Value} {names : List String}
    (quoted : quotedNames keys = .ok names) :
    names = (keys.map Value.columnName).map quoteName ∧
      ∀ key ∈ keys, key.text? = some key.columnName := by
  induction keys generalizing names with
  | nil =>
      cases quoted
      exact ⟨rfl, by simp⟩
  | cons key rest ih =>
      simp only [quotedNames] at quoted
      cases text : key.text? with
      | none =>
          have noName : ∃ fault, key.asName = .error fault := by
            simp only [Value.asName, Value.escapable, text]
            split <;> exact ⟨_, rfl⟩
          obtain ⟨fault, noName⟩ := noName
          rw [noName] at quoted
          cases quoted
      | some s =>
          have isName : key.asName = .ok (quoteName s) := by
            simp only [Value.asName, Value.escapable, text]
            rfl
          cases later : quotedNames rest with
          | error fault => rw [isName, later] at quoted; cases quoted
          | ok others =>
              rw [isName, later] at quoted
              cases quoted
              obtain ⟨same, texts⟩ := ih later
              have name : key.columnName = s := by rw [Value.columnName, text]; rfl
              refine ⟨by rw [List.map_cons, List.map_cons, name, same], ?_⟩
              intro other member
              rcases List.mem_cons.mp member with rfl | inRest
              · rw [text, name]
              · exact texts other inRest

/-- Whether a statement is an update whose list sets the columns of some names in this order. -/
def SetsColumns (table : Table) (columns : List String) (statement : Statement) : Prop :=
  ∃ predicate, statement.sql = updateSql table (columns.map quoteName) predicate

end Statement

/-- The list of an update sets the columns that its assignments name. -/
theorem Model.setsColumns_of_updateStatement {model : Model} {assignments : Entries}
    {predicate : Predicate} {statement : Statement}
    (built : model.updateStatement assignments predicate = .ok statement) :
    ∃ columns, statement.SetsColumns model.table columns ∧
      ∀ name, name ∈ columns ↔ assignments.Sets name := by
  obtain ⟨stored, converted, updated⟩ := updateStatement_eq_ok built
  obtain ⟨_, _, names, quoted, rfl⟩ := Statement.update_eq_ok updated
  rw [Table.keys_toStorage converted] at quoted
  obtain ⟨rfl, texts⟩ := Statement.quotedNames_eq_ok quoted
  refine ⟨assignments.keys.map Value.columnName, ⟨predicate, rfl⟩, ?_⟩
  intro name
  simp only [Entries.Sets, Entries.keys, List.map_map, List.mem_map, Function.comp_apply]
  constructor
  · rintro ⟨entry, member, rfl⟩
    exact ⟨entry, member, texts entry.1 (List.mem_map_of_mem member)⟩
  · rintro ⟨entry, member, text⟩
    exact ⟨entry, member, by rw [Value.columnName, text]; rfl⟩

/-- A time is assigned under a plain attribute name or not at all. -/
theorem Record.assign_int_eq_ok {record next : Record} {label : Name} {now : Int}
    {source : Option Nat} (assigned : record.assign label (.int now) source = .ok next) :
    next = record.put label (.int now) source ∧ label.toText ≠ "__dict__" ∧
      label.toText ≠ "__weakref__" := by
  simp only [assign] at assigned
  split at assigned
  · cases assigned
  split at assigned
  · cases assigned
  split at assigned
  · cases assigned
  next notReferences notDictionary =>
    cases assigned
    exact ⟨rfl, notDictionary, notReferences⟩

namespace Model

variable {model : Model} {key : Column}

/-- Whether a statement sets the key just when the key is the column kept current. -/
def SetsKeyIffCurrent (model : Model) (key : Column) (statement : Statement) : Prop :=
  ∃ columns, statement.SetsColumns model.table columns ∧
    (key.name ∈ columns ↔ model.table.autoUpdate = some key)

/-- Stamped assignments that did not set the key set it just when it is the column kept current. -/
theorem sets_key_of_stampsTo {check : StorageCheck} (coherent : model.table.Coherent check)
    (isKey : model.table.key = some key) {assignments stamped : Entries} {time : Value}
    (without : ¬ assignments.Sets key.name)
    (stamps : model.table.StampsTo assignments time stamped) :
    stamped.Sets key.name ↔ model.table.autoUpdate = some key := by
  rw [stamps.sets key.name]
  constructor
  · rintro (present | ⟨column, found, same⟩)
    · exact absurd present without
    · have equal := coherent.eq_of_name_eq (coherent.autoUpdate_mem column found).1
        (coherent.key_mem key isKey).1 same
      rw [found, equal]
  · intro found
    exact .inr ⟨key, found, rfl⟩

theorem setsKeyIffCurrent_of_updateStatement {assignments : Entries} {predicate : Predicate}
    {statement : Statement}
    (sets : assignments.Sets key.name ↔ model.table.autoUpdate = some key)
    (built : model.updateStatement assignments predicate = .ok statement) :
    model.SetsKeyIffCurrent key statement := by
  obtain ⟨columns, written, named⟩ := setsColumns_of_updateStatement built
  exact ⟨columns, written, (named key.name).trans sets⟩

end Model

/-- What becomes of the key of a record in an update, under the rules of this library. -/
theorem Record.UpdatedTo.value?_key {record updated : Record} {model : Model} {key : Column}
    (coherent : model.table.Coherent .standard) (isKey : model.table.key = some key)
    (becomes : record.UpdatedTo model updated) :
    (model.table.autoUpdate ≠ some key → key.name ≠ "__dict__" →
        updated.value? key.name = record.value? key.name) ∧
      (model.table.autoUpdate = some key →
        updated = record ∨ ∃ now, updated.value? key.name = some (.int now)) := by
  rcases becomes with rfl | ⟨values, time, assignments, _, stamps, adopts⟩
  · exact ⟨fun _ _ => rfl, fun _ => .inl rfl⟩
  rcases adopts with rfl | ⟨column, found, notNull, assigned⟩
  · exact ⟨fun _ _ => rfl, fun _ => .inl rfl⟩
  rcases stamps.time_eq coherent with rfl | ⟨now, rfl⟩
  · cases notNull
  obtain ⟨rfl, notDictionary, notReferences⟩ := assign_int_eq_ok assigned
  constructor
  · intro different keyNotDictionary
    refine value?_put_of_ne record _ _ ?_ keyNotDictionary
    intro same
    have equal := coherent.eq_of_name_eq (coherent.autoUpdate_mem column found).1
      (coherent.key_mem key isKey).1 same.symm
    exact different (by rw [found, equal])
  · intro current
    rw [found] at current
    cases current
    exact .inr ⟨now, value?_put_self record _ _ _ notDictionary notReferences⟩

namespace Model

/-- When updates spare the key. For a table that the rules of this library accept, every statement
that an update by condition or of a record sends sets the key just when the key is the column kept
current. An update of a record, however it ends, leaves the key of the record unchanged if it is
another column; if it is that column, the record keeps its key only where nothing of it changes. -/
theorem update_sets_key_iff_current {name fields label : Value} {model : Model} {key : Column}
    (built : (Table.build name fields .standard label).result = .ok model.table)
    (isKey : model.table.key = some key) :
    (∀ condition values session,
      SendsOnly (model.SetsKeyIffCurrent key) session.calls
        (model.updateWhere condition values session).2.calls) ∧
    (∀ record validated session,
      SendsOnly (model.SetsKeyIffCurrent key) session.calls
          (Record.update model validated ⟨record, session⟩).2.session.calls ∧
        (model.table.autoUpdate ≠ some key → key.name ≠ "__dict__" →
          (Record.update model validated ⟨record, session⟩).2.record.value? key.name =
            record.value? key.name) ∧
        (model.table.autoUpdate = some key →
          (Record.update model validated ⟨record, session⟩).2.record = record ∨
            ∃ now, (Record.update model validated ⟨record, session⟩).2.record.value? key.name =
              some (.int now))) := by
  have coherent := Table.coherent_of_build built
  have primaryKey : model.table.primaryKey = some key.name := by rw [Table.primaryKey, isKey]; rfl
  constructor
  · intro condition values session
    apply ((model.sends_updateWhere condition values).sendsOnly session).weaken
    rintro statement ⟨predicate, _, entries, time, assignments, _, stamps, updated⟩
    have without : ¬ (model.table.assignments entries).Sets key.name :=
      fun sets => Table.sets_assignments sets primaryKey
    exact setsKeyIffCurrent_of_updateStatement (sets_key_of_stampsTo coherent isKey without stamps)
      updated
  · intro record validated session
    obtain ⟨becomes, sends⟩ :=
      (record.sends_update model validated).sendsOnly ⟨record, session⟩ rfl
    refine ⟨sends.weaken ?_, becomes.value?_key coherent isKey⟩
    rintro statement ⟨_, _, values, time, assignments, adopted, predicate, gathered, stamps, _, _,
      updated⟩
    have without : ¬ values.Sets key.name :=
      fun sets => Record.sets_updateValues gathered sets primaryKey
    refine setsKeyIffCurrent_of_updateStatement ?_ updated
    exact (Entries.sets_congr (adopted.keys_refresh assignments) key.name).trans
      (sets_key_of_stampsTo coherent isKey without stamps)

/-- An update of a record of people leaves the key alone. -/
theorem update_sets_key_iff_current_people :
    (Record.update person true ⟨activePerson, newSession⟩).2.record.value? "id" =
      some (.int 7) := by
  have isKey : person.table.key = some personId := rfl
  have ofRecord := (update_sets_key_iff_current people_built isKey).2
  exact (ofRecord activePerson true newSession).2.1 (by intro same; cases same) (by decide)

end Model

/-- A key column that updates keep current, for examples. -/
def visitTime : Column :=
  { ColumnTraits.standard with
    primaryKey := .bool true, autoUpdate := .bool true, default := .currentTime,
    label := .text "at", type := .timestamp }

/-- A table whose key is the column kept current, for examples. -/
def visits : Table :=
  ⟨.text "Visit", .text "visits", [visitTime, noteColumn], some visitTime, some visitTime⟩

/-- A visit with a key and a note. -/
def visit : Record :=
  ⟨"Visit", [(.text "at", ⟨.int 5, none⟩), (.text "note", ⟨.text "late", none⟩)], []⟩

/-- The rules of this library accept that table, and an update of one of its records sets the key of
the row to the time and changes the key of the record. -/
theorem visit_update_sets_key :
    (Table.build (.text "Visit") (.list [visitTime.toValue, noteColumn.toValue]) .standard
        (.text "visits")).result = .ok visits ∧
      (Record.update ⟨visits, none⟩ true ⟨visit, newSession⟩).2.session.calls =
        [.execute "UPDATE `visits` SET `note`=?, `at`=? WHERE `at`=?"
          [.text "late", .int 1700000000000, .int 5]] ∧
      (Record.update ⟨visits, none⟩ true ⟨visit, newSession⟩).2.record.value? "at" =
        some (.int 1700000000000) :=
  ⟨rfl, rfl, rfl⟩

end RowMapper
