import RowMapper.Proofs.Assignments
import RowMapper.Proofs.Operations

/-!
# The unset marker in statements

A field without a value holds the unset marker, which means nothing to a database. What an
insertion or an update of a record sends comes from its set fields alone. An update by condition
takes the values of its caller as they are, the marker included: where it stands under the name of
a column, the statement gives that column whatever its type makes of the marker.
-/

namespace RowMapper

/-- Whether the default of the column kept current never comes to the unset marker. -/
def Table.StampIsSet (table : Table) : Prop :=
  ∀ column environment, table.autoUpdate = some column →
    (column.resolveDefault environment).1 ≠ .ok .unset

/-- The rules of this library ask for the current time there. -/
theorem Table.Coherent.stampIsSet {table : Table} (coherent : table.Coherent .standard) :
    table.StampIsSet := by
  intro column environment found
  rw [Column.resolveDefault, coherent.default_autoUpdate found]
  intro impossible
  cases impossible

/-! ## Values that are unset -/

namespace Entries

/-- Whether the unset marker stands under a name. -/
def GivesUnset (entries : Entries) (name : String) : Prop :=
  ∃ entry ∈ entries, entry.1.text? = some name ∧ entry.2 = .unset

theorem GivesUnset.sets {entries : Entries} {name : String} (gives : entries.GivesUnset name) :
    entries.Sets name := by
  obtain ⟨entry, member, text, _⟩ := gives
  exact ⟨entry, member, text⟩

end Entries

namespace Table

variable {table : Table} {assignments stamped : Entries} {time : Value}

/-- Stamping leaves assignments as they are or puts a time behind them. -/
theorem StampsTo.eq_or_append (stamps : table.StampsTo assignments time stamped) :
    (time = .null ∧ stamped = assignments ∧
        ∀ column, table.autoUpdate = some column → assignments.Sets column.name) ∨
      ∃ column environment, table.autoUpdate = some column ∧
        ¬ assignments.Sets column.name ∧ (column.resolveDefault environment).1 = .ok time ∧
        stamped = assignments ++ [(column.label.toValue, time)] := by
  rcases stamps.eq_or_insert with left | ⟨column, environment, found, absent, resolved, inserted⟩
  · exact .inl left
  · rw [Entries.insert_of_not_sets time column.label.text?_toValue absent] at inserted
    exact .inr ⟨column, environment, found, absent, resolved, inserted⟩

/-- A stamp is set. -/
theorem StampsTo.set (stamps : table.StampsTo assignments time stamped) (isSet : table.StampIsSet)
    (set : ∀ entry ∈ assignments, entry.2 ≠ .unset) : ∀ entry ∈ stamped, entry.2 ≠ .unset := by
  rcases stamps.eq_or_append with ⟨_, rfl, _⟩ | ⟨column, environment, found, _, resolved, rfl⟩
  · exact set
  · intro entry member
    rcases List.mem_append.mp member with before | last
    · exact set entry before
    · cases List.mem_singleton.mp last
      intro unset
      dsimp only at unset
      rw [unset] at resolved
      exact isSet column environment found resolved

/-- So it adds no unset marker. -/
theorem StampsTo.givesUnset_iff (stamps : table.StampsTo assignments time stamped)
    (isSet : table.StampIsSet) (name : String) :
    stamped.GivesUnset name ↔ assignments.GivesUnset name := by
  rcases stamps.eq_or_append with ⟨_, rfl, _⟩ | ⟨column, environment, found, _, resolved, rfl⟩
  · exact Iff.rfl
  · constructor
    · intro ⟨entry, member, text, unset⟩
      rcases List.mem_append.mp member with before | last
      · exact ⟨entry, before, text, unset⟩
      · cases List.mem_singleton.mp last
        dsimp only at unset
        rw [unset] at resolved
        exact absurd resolved (isSet column environment found)
    · intro ⟨entry, member, text, unset⟩
      exact ⟨entry, List.mem_append_left _ member, text, unset⟩

theorem givesUnset_assignments {entries : Entries} {name : String} :
    (table.assignments entries).GivesUnset name ↔
      entries.GivesUnset name ∧ name ≠ table.primaryKeyText ∧
        (table.column? name).isSome = true := by
  have named : ∀ {key : Value}, key.text? = some name →
      ((table.isPrimaryKeyName key = false ↔ name ≠ table.primaryKeyText) ∧
        table.columnAt? key = table.column? name) := by
    intro key text
    simp [isPrimaryKeyName, columnAt?, text]
  constructor
  · rintro ⟨entry, member, text, unset⟩
    obtain ⟨given, notKey, isColumn⟩ := mem_assignments.mp member
    obtain ⟨keys, columns⟩ := named text
    rw [columns] at isColumn
    exact ⟨⟨entry, given, text, unset⟩, keys.mp notKey, isColumn⟩
  · rintro ⟨⟨entry, given, text, unset⟩, notKey, isColumn⟩
    obtain ⟨keys, columns⟩ := named text
    rw [← columns] at isColumn
    exact ⟨entry, mem_assignments.mpr ⟨given, keys.mpr notKey, isColumn⟩, text, unset⟩

end Table

/-! ## What the fields of a record contribute -/

namespace Record

variable {record : Record} {table : Table}

/-- The record's own dictionary, which can stand in for a value of an assignment, is set. -/
theorem set_of_mem_refresh {assignments : Entries}
    (set : ∀ entry ∈ assignments, entry.2 ≠ .unset) :
    ∀ entry ∈ record.refresh assignments, entry.2 ≠ .unset := by
  intro entry member
  obtain ⟨⟨key, v⟩, given, same⟩ := List.mem_map.mp member
  rw [← same]
  dsimp only
  split
  · intro impossible
    cases impossible
  · exact set (key, v) given

theorem mem_refresh_of_ne {assignments : Entries} {key v : Value}
    (member : (key, v) ∈ assignments) (plain : key.text? ≠ some "__dict__") :
    (key, v) ∈ record.refresh assignments := by
  refine List.mem_map.mpr ⟨(key, v), member, ?_⟩
  dsimp only
  rw [if_neg plain]

/-- The row of an insertion is made from the set fields, the key left out unless it is sent. -/
theorem exists_sources_of_rowOf {check : StorageCheck} (coherent : table.Coherent check)
    {withKey : Bool} {columns : List Column} (within : ∀ column ∈ columns, column ∈ table.columns)
    {row : Entries} (written : record.rowOf table withKey columns = .ok row) :
    ∃ sources, table.toStorage sources = .ok row ∧ ∀ entry : Value × Value,
      entry ∈ sources ↔ ∃ column ∈ columns, entry.1 = .text column.name ∧
        record.get column.name = .ok entry.2 ∧ entry.2 ≠ .unset ∧
        (some column.name = table.primaryKey → withKey = true) := by
  induction columns generalizing row with
  | nil =>
      cases written
      exact ⟨[], rfl, by simp⟩
  | cons column rest ih =>
      obtain ⟨v, others, read, later, parts⟩ := rowOf_cons_eq_ok written
      obtain ⟨sources, stored, members⟩ :=
        ih (fun other member => within other (List.mem_cons_of_mem column member)) later
      rcases parts with ⟨rfl, left⟩ | ⟨first, converted, set, sent, rfl⟩
      · refine ⟨sources, stored, fun entry => ?_⟩
        rw [List.exists_mem_cons_iff, ← members]
        constructor
        · exact .inr
        · intro contributes
          rcases contributes with ⟨_, got, set, sent⟩ | inRest
          · rw [read] at got
            rcases left with unset | ⟨isKey, unsent⟩
            · exact absurd ((Except.ok.inj got).symm.trans unset) set
            · rw [sent isKey] at unsent
              cases unsent
          · exact inRest
      · refine ⟨(.text column.name, v) :: sources, ?_, fun entry => ?_⟩
        · have found : table.columnAt? (.text column.name) = some column :=
            coherent.column?_name (within column List.mem_cons_self)
          simp only [Table.toStorage, found, converted, stored]
          rfl
        · rw [List.exists_mem_cons_iff, List.mem_cons, members]
          constructor
          · intro member
            rcases member with rfl | inRest
            · exact .inl ⟨rfl, read, set, sent⟩
            · exact .inr inRest
          · intro contributes
            rcases contributes with ⟨text, got, _, _⟩ | inRest
            · rw [read] at got
              exact .inl (Prod.ext text (Except.ok.inj got).symm)
            · exact .inr inRest

end Record

/-! ## Statements that leave unset fields out -/

/-- Whether a statement writes values under names to rows of a table, each in the form in which its
column stores it. -/
def Statement.WritesFrom (statement : Statement) (table : Table) (sources : Entries) : Prop :=
  ∃ stored, table.toStorage sources = .ok stored ∧
    (Statement.insert table stored = .ok statement ∨
      ∃ predicate, Statement.update table stored predicate = .ok statement)

/-- Whether what is written of a record leaves its unset fields out: nothing that is written is
unset, a field that is unset is not among it, and the column kept current, where it is unset, is
written with its default. -/
structure Record.LeavesOutUnset (record : Record) (table : Table) (sources : Entries) : Prop where
  set : ∀ entry ∈ sources, entry.2 ≠ .unset
  leftOut : ∀ column ∈ table.columns, record.get column.name = .ok .unset →
    sources.Sets column.name → table.autoUpdate = some column
  stamped : ∀ column, table.autoUpdate = some column → record.get column.name = .ok .unset →
    some column.name ≠ table.primaryKey →
      ∃ time environment, (column.resolveDefault environment).1 = .ok time ∧
        ∃ entry ∈ sources, entry.1.text? = some column.name ∧ entry.2 = time

namespace Record

variable {record : Record} {model : Model} {check : StorageCheck} {statement : Statement}

/-- What an insertion writes. -/
theorem InsertsAs.leavesOutUnset {last : Record} (coherent : model.table.Coherent check)
    (isSet : model.table.StampIsSet) (inserts : record.InsertsAs model statement last) :
    ∃ sources, statement.WritesFrom model.table sources ∧
      record.LeavesOutUnset model.table sources := by
  obtain ⟨stamped, row, becomes, written, built, _⟩ := inserts
  obtain ⟨sources, stored, members⟩ :=
    exists_sources_of_rowOf coherent (fun _ member => member) written
  refine ⟨sources, ⟨row, stored, .inl built⟩, ?_, ?_, ?_⟩
  · intro entry member
    obtain ⟨_, _, _, _, set, _⟩ := (members entry).mp member
    exact set
  · intro column isColumn unset ⟨entry, member, named⟩
    obtain ⟨other, otherMember, text, got, set, _⟩ := (members entry).mp member
    rw [text] at named
    have same := coherent.eq_of_name_eq otherMember isColumn (Option.some.inj named)
    rw [same] at got
    rcases becomes with ⟨rfl, _⟩ | ⟨current, time, environment, found, wasUnset, _, assigned⟩
    · rw [unset] at got
      exact absurd (Except.ok.inj got).symm set
    · by_cases isCurrent : column.name = current.name
      · rw [found, coherent.eq_of_name_eq isColumn (coherent.autoUpdate_mem current found).1
          isCurrent]
      · obtain ⟨rfl, _⟩ := assign_eq_ok assigned (ne_dictionary_of_unset wasUnset)
        rw [get_eq_ok, value?_put_of_ne record time _ isCurrent (ne_dictionary_of_unset unset),
          ← get_eq_ok, unset] at got
        exact absurd (Except.ok.inj got).symm set
  · intro column found unset notKey
    rcases becomes with ⟨_, allSet⟩ | ⟨current, time, environment, found', wasUnset, resolved,
      assigned⟩
    · exact absurd unset (allSet column found)
    · rw [found] at found'
      cases found'
      obtain ⟨rfl, notReferences⟩ := assign_eq_ok assigned (ne_dictionary_of_unset wasUnset)
      have holds := value?_put_self record column.label time column.default.sourceMark?
        (ne_dictionary_of_unset wasUnset) notReferences
      have timeIsSet : time ≠ .unset := by
        intro isUnset
        rw [isUnset] at resolved
        exact isSet column environment found resolved
      refine ⟨time, environment, resolved, (.text column.name, time), (members _).mpr ?_, rfl, rfl⟩
      exact ⟨column, (coherent.autoUpdate_mem column found).1, rfl, get_eq_ok.mpr holds, timeIsSet,
        fun isKey => absurd isKey notKey⟩

/-- What an update of a record writes. -/
theorem WritesAs.leavesOutUnset {time : Value} {last : Record}
    (coherent : model.table.Coherent check) (isSet : model.table.StampIsSet)
    (writes : record.WritesAs model time statement last) :
    ∃ sources, statement.WritesFrom model.table sources ∧
      record.LeavesOutUnset model.table sources := by
  obtain ⟨values, assignments, predicate, gathered, stamps, _, built⟩ := writes
  obtain ⟨stored, converted, updated⟩ := Model.updateStatement_eq_ok built
  have sets := fun name => Entries.sets_congr (last.keys_refresh assignments) name
  refine ⟨last.refresh assignments, ⟨stored, converted, .inr ⟨predicate, updated⟩⟩, ?_, ?_, ?_⟩
  · apply set_of_mem_refresh
    apply stamps.set isSet
    intro entry member
    obtain ⟨_, _, _, _, set, _⟩ := (mem_updateValues gathered).mp member
    exact set
  · intro column isColumn unset given
    rw [sets column.name, stamps.sets column.name] at given
    rcases given with ⟨entry, member, named⟩ | ⟨current, found, same⟩
    · obtain ⟨other, _, text, got, set, _⟩ := (mem_updateValues gathered).mp member
      rw [text] at named
      rw [Option.some.inj named, unset] at got
      exact absurd (Except.ok.inj got).symm set
    · rw [found, coherent.eq_of_name_eq (coherent.autoUpdate_mem current found).1 isColumn same]
  · intro column found unset _
    have absent : ¬ values.Sets column.name := by
      intro ⟨entry, member, named⟩
      obtain ⟨other, _, text, got, set, _⟩ := (mem_updateValues gathered).mp member
      rw [text] at named
      rw [Option.some.inj named, unset] at got
      exact set (Except.ok.inj got).symm
    rcases stamps.eq_or_append with
      ⟨_, _, already⟩ | ⟨current, environment, found', _, resolved, rfl⟩
    · exact absurd (already column found) absent
    · rw [found] at found'
      cases found'
      have text := column.label.text?_toValue
      refine ⟨time, environment, resolved, _, mem_refresh_of_ne
        (List.mem_append_right _ (List.mem_singleton.mpr rfl)) ?_, text, rfl⟩
      intro same
      rw [text] at same
      exact ne_dictionary_of_unset unset (Option.some.inj same)

end Record

/-! ## Statements that write what a caller supplies -/

namespace Model

variable {model : Model} {check : StorageCheck} {statement : Statement}

/-- How the statement of an update by condition treats the unset marker: a column is given it, or
what its type makes of it, just when the caller supplies it under the name of a column other than
the key. -/
def WritesUnsetIfSupplied (model : Model) (values : Value) (statement : Statement) : Prop :=
  ∃ entries sources, values.WalksTo entries ∧ statement.WritesFrom model.table sources ∧
    ∀ name, sources.GivesUnset name ↔ entries.GivesUnset name ∧
      name ≠ model.table.primaryKeyText ∧ (model.table.column? name).isSome = true

theorem WritesAs.writesUnsetIfSupplied {values time : Value} (isSet : model.table.StampIsSet)
    (writes : model.WritesAs values time statement) :
    model.WritesUnsetIfSupplied values statement := by
  obtain ⟨entries, assignments, predicate, walked, stamps, built⟩ := writes
  obtain ⟨stored, converted, updated⟩ := updateStatement_eq_ok built
  refine ⟨entries, assignments, walked, ⟨stored, converted, .inr ⟨predicate, updated⟩⟩, ?_⟩
  intro name
  rw [stamps.givesUnset_iff isSet name, Table.givesUnset_assignments]

/-- A marker supplied for the column kept current counts as a value for it: no time is written, and
none is reported. -/
theorem EndsUpdate.modifyTime_of_supplied {entries : Entries} {request : Request}
    {reply : Except Fault Reply} {outcome : UpdateOutcome} {column : Column}
    (ends : model.EndsUpdate (.dict entries) request reply (.ok outcome))
    (coherent : model.table.Coherent check) (found : model.table.autoUpdate = some column)
    (supplied : entries.GivesUnset column.name)
    (notKey : column.name ≠ model.table.primaryKeyText) : outcome.modifyTime = .null := by
  obtain ⟨_, time, ⟨walked, assignments, predicate, walks, stamps, _⟩, reported, _⟩ := ends
  have same : walked = entries := by
    obtain ⟨environment, walk, ran, finished⟩ := walks
    cases ran
    cases finished
    rfl
  have isColumn : (model.table.column? column.name).isSome = true := by
    rw [coherent.column?_name (coherent.autoUpdate_mem column found).1]
    rfl
  have sets : (model.table.assignments walked).Sets column.name := by
    rw [same]
    exact (Table.givesUnset_assignments.mpr ⟨supplied, notKey, isColumn⟩).sets
  have noTime : time = .null := by
    rcases stamps.eq_or_append with ⟨isNull, _⟩ | ⟨other, _, found', absent, _⟩
    · exact isNull
    · rw [found] at found'
      cases found'
      exact absurd sets absent
  rw [reported outcome rfl, noTime]
  split
  · rfl
  · rfl

/-- Where the unset marker reaches a statement. Insertions and updates of a record leave unset
fields out and write the column kept current with its default if it is unset. An update by condition
gives a column the marker just when its caller supplies it, and does not keep a column current for
which it is supplied. -/
theorem unset_written_iff_supplied (declared : model.table.IsDeclared)
    (isSet : model.table.StampIsSet) :
    (∀ (record : Record) (validated : Bool) (session : Session),
      session.AsksOnly (Record.save model validated ⟨record, session⟩).2.session
        fun statement => ∃ sources, statement.WritesFrom model.table sources ∧
          record.LeavesOutUnset model.table sources) ∧
    (∀ (record : Record) (validated : Bool) (session : Session),
      session.AsksOnly (Record.update model validated ⟨record, session⟩).2.session
        fun statement => ∃ sources, statement.WritesFrom model.table sources ∧
          record.LeavesOutUnset model.table sources) ∧
    (∀ (condition values : Value) (session : Session),
      session.AsksOnly (model.updateWhere condition values session).2
        (model.WritesUnsetIfSupplied values)) ∧
    ∀ (condition : Value) (entries : Entries) (session : Session) (column : Column)
      (outcome : UpdateOutcome), model.table.autoUpdate = some column →
      entries.GivesUnset column.name → column.name ≠ model.table.primaryKeyText →
      (model.updateWhere condition (.dict entries) session).1 = .ok outcome →
        outcome.updated = true → outcome.modifyTime = .null := by
  obtain ⟨name, fields, check, label, built⟩ := declared
  have coherent := Table.coherent_of_build built
  refine ⟨?_, ?_, ?_, ?_⟩
  · intro record validated session
    exact (record.asksOnce_save model validated session).asksOnly fun _ _ _ _ ends =>
      ends.2.1.leavesOutUnset coherent isSet
  · intro record validated session
    exact (record.asksOnce_update model validated session).asksOnly fun _ _ _ _ ends =>
      ends.2.choose_spec.1.leavesOutUnset coherent isSet
  · intro condition values session
    exact (model.asksOnce_updateWhere condition values session).asksOnly fun _ _ _ _ ends =>
      ends.2.choose_spec.1.writesUnsetIfSupplied isSet
  · intro condition entries session column outcome found supplied notKey ran updated
    rcases model.asksOnce_updateWhere condition (.dict entries) session with
      ⟨_, alone⟩ | ⟨request, _, ends⟩
    · rw [alone outcome ran] at updated
      cases updated
    · rw [ran] at ends
      exact ends.modifyTime_of_supplied coherent found supplied notKey

end Model

/-- A column for the time of the last change, for examples. -/
def touchedColumn : Column :=
  { ColumnTraits.standard with
    autoUpdate := .bool true, default := .currentTime, label := .text "touched",
    type := .timestamp }

/-- A table of articles, for examples. -/
def articles : Table :=
  ⟨.text "Article", .text "articles", [personId, noteColumn, touchedColumn], some personId,
    some touchedColumn⟩

theorem articles_built :
    (Table.build (.text "Article")
      (.list [personId.toValue, noteColumn.toValue, touchedColumn.toValue]) .standard
      (.text "articles")).result = .ok articles := rfl

/-- The unset marker for the time of an article, which is written in place of the time. -/
theorem Model.unset_written_iff_supplied_articles :
    let values : Entries := [(.text "touched", .unset)]
    let run := (⟨articles, none⟩ : Model).updateWhere (.int 1) (.dict values) newSession
    newSession.AsksOnly run.2 (Model.WritesUnsetIfSupplied ⟨articles, none⟩ (.dict values)) ∧
      ∃ outcome, run.1 = .ok outcome ∧ outcome.updated = true ∧ outcome.modifyTime = .null := by
  intro values run
  have isSet : articles.StampIsSet := (Table.coherent_of_build articles_built).stampIsSet
  obtain ⟨_, _, writes, untimed⟩ := @unset_written_iff_supplied ⟨articles, none⟩
    ⟨_, _, _, _, articles_built⟩ isSet
  refine ⟨writes (.int 1) (.dict values) newSession, _, rfl, rfl, ?_⟩
  exact untimed (.int 1) values newSession touchedColumn _ rfl
    ⟨_, List.mem_singleton.mpr rfl, rfl, rfl⟩ (by decide) rfl rfl

/-- An update by condition stores an unset truth value as false. -/
theorem unset_stored_as_false :
    (person.updateWhere (.int 1) (.dict [(.text "active", .unset)]) newSession).2.calls =
      [.execute "UPDATE `people` SET `active`=? WHERE `id`=?" [.int 0, .int 1]] :=
  rfl

end RowMapper
