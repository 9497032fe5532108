import RowMapper.Proofs.Loading
import RowMapper.Proofs.SingleStatement
import RowMapper.Proofs.TableSafety
import RowMapper.Proofs.Value.LoadedForm

/-!
# Saving a record and loading it again

The row that an insertion sends has the stored forms of the record's values. When a query returns
that row, whatever the order of its columns and whatever else it has, the record that is loaded has
the values that were sent and nothing in its other fields. This is so for values that their columns
are for, among them the one that the column kept current takes on its own when the record is saved.
-/

namespace RowMapper

namespace Table

variable {table : Table} {check : StorageCheck}

/-- Whether what the column kept current takes on its own is something that the column is for. -/
def StampFits (table : Table) : Prop :=
  ∀ column, table.autoUpdate = some column → ∀ environment time,
    (column.resolveDefault environment).1 = .ok time → time ≠ .unset → column.Fits time

/-- Under the rules of this library that is the time of the clock in a timestamp. -/
theorem Coherent.stampFits (coherent : table.Coherent .standard) : table.StampFits := by
  intro column found environment time resolved _
  rw [Column.resolveDefault, coherent.default_autoUpdate found] at resolved
  cases resolved
  simp only [Column.Fits, (coherent.timestamp_autoUpdate found).1]
  simp [Value.equal, Value.sameItem, Value.number?]

/-- Whether a row is one that was sent, with its columns in any order and with others that the table
does not have. -/
def Returns (table : Table) (sent row : Entries) : Prop :=
  ∃ extra, row.Perm (sent ++ extra) ∧ ∀ entry ∈ extra, table.columnAt? entry.1 = none

/-- What a returned row has under the name of a column was sent. -/
theorem Returns.mem_of_text? {sent row : Entries} (coherent : table.Coherent check)
    (returned : table.Returns sent row) {column : Column} (member : column ∈ table.columns)
    {entry : Value × Value} (inRow : entry ∈ row) (named : entry.1.text? = some column.name) :
    entry ∈ sent := by
  obtain ⟨extra, same, undeclared⟩ := returned
  rcases List.mem_append.mp (same.mem_iff.mp inRow) with inSent | inExtra
  · exact inSent
  · have absent := undeclared entry inExtra
    rw [columnAt?, named] at absent
    have found : table.column? column.name = none := absent
    rw [coherent.column?_name member] at found
    cases found

theorem Returns.sets_iff {sent row : Entries} (coherent : table.Coherent check)
    (returned : table.Returns sent row) {column : Column} (member : column ∈ table.columns) :
    row.Sets column.name ↔ sent.Sets column.name := by
  constructor
  · intro ⟨entry, inRow, named⟩
    exact ⟨entry, returned.mem_of_text? coherent member inRow named, named⟩
  · intro ⟨entry, inSent, named⟩
    obtain ⟨extra, same, _⟩ := returned
    exact ⟨entry, same.mem_iff.mpr (List.mem_append_left extra inSent), named⟩

end Table

namespace Record

variable {record stamped last : Record} {model : Model} {check : StorageCheck}

/-- Whether the fields of a record that are set hold values that the columns are for. -/
def FitsIn (record : Record) (table : Table) : Prop :=
  ∀ column ∈ table.columns, ∀ v, record.get column.name = .ok v → v ≠ .unset → column.Fits v

/-! ## What saving does to a record -/

/-- Saving changes a record only in the column kept current, and there only if it is unset. -/
theorem StampsAs.get_eq (becomes : record.StampsAs model stamped)
    (coherent : model.table.Coherent check) (isPublic : model.table.HasPublicNames)
    {column : Column} (member : column ∈ model.table.columns) :
    stamped.get column.name = record.get column.name ∨
      (record.get column.name = .ok .unset ∧ model.table.autoUpdate = some column ∧
        ∃ environment time, (column.resolveDefault environment).1 = .ok time ∧
          stamped.get column.name = .ok time) := by
  rcases becomes with ⟨rfl, _⟩ | ⟨current, time, environment, found, unset, resolved, assigned⟩
  · exact .inl rfl
  · have currentMember := (coherent.autoUpdate_mem current found).1
    have currentPublic := isPublic current currentMember
    by_cases same : column.name = current.name
    · rw [coherent.eq_of_name_eq member currentMember same]
      exact .inr ⟨unset, found, environment, time, resolved,
        get_of_assign_self currentPublic assigned⟩
    · exact .inl (get_of_assign_of_ne currentPublic assigned same
        (isPublic column member).ne_dictionary)

/-- A record still fits its columns when it was stamped. -/
theorem StampsAs.fitsIn (becomes : record.StampsAs model stamped)
    (coherent : model.table.Coherent check) (isPublic : model.table.HasPublicNames)
    (stampFits : model.table.StampFits) (fits : record.FitsIn model.table) :
    stamped.FitsIn model.table := by
  intro column member v got set
  rcases becomes.get_eq coherent isPublic member with
    same | ⟨_, found, environment, time, resolved, gotTime⟩
  · exact fits column member v (same.symm.trans got) set
  · rw [gotTime] at got
    cases got
    exact stampFits column found environment _ resolved set

/-- The key that a record takes over is one that was not sent. -/
theorem KeyedTo.get_eq (becomes : stamped.KeyedTo model last)
    (coherent : model.table.Coherent check) (isPublic : model.table.HasPublicNames)
    {column : Column} (member : column ∈ model.table.columns)
    (sent : some column.name = model.table.primaryKey → stamped.sendsKey model.table = true) :
    last.get column.name = stamped.get column.name := by
  rcases becomes with rfl | ⟨key, value, found, unsent, _, assigned⟩
  · rfl
  · have keyMember := (coherent.key_mem key found).1
    have different : column.name ≠ key.name := by
      intro same
      rw [sent (same ▸ (coherent.primaryKey_eq_iff keyMember).mpr found)] at unsent
      cases unsent
    exact get_of_assign_of_ne (isPublic key keyMember) assigned different
      (isPublic column member).ne_dictionary

/-! ## What a returned row is loaded as -/

variable {sent row : Entries} {withKey : Bool}

/-- A column that was sent is loaded with the value that the record has. -/
theorem exists_valueIn_of_sets (coherent : model.table.Coherent check)
    (fits : stamped.FitsIn model.table)
    (written : stamped.rowOf model.table withKey model.table.columns = .ok sent)
    (returned : model.table.Returns sent row) {column : Column}
    (member : column ∈ model.table.columns) (sets : sent.Sets column.name) :
    ∃ v w, stamped.get column.name = .ok v ∧
      (some column.name = model.table.primaryKey → withKey = true) ∧
      column.valueIn row = .ok w ∧ w.equal v = true := by
  obtain ⟨stored, found⟩ :=
    Entries.exists_find?_of_sets ((returned.sets_iff coherent member).mpr sets)
  obtain ⟨key, inRow, named⟩ := Entries.exists_mem_of_find? found
  have inSent := returned.mem_of_text? coherent member inRow named
  obtain ⟨other, otherMember, v, isKey, got, converted, set, ifKey⟩ :=
    exists_column_of_mem_rowOf written inSent
  have same : other = column := by
    apply coherent.eq_of_name_eq otherMember member
    have text : key = .text other.name := isKey
    rw [text] at named
    exact Option.some.inj named
  rw [same] at got converted ifKey
  obtain ⟨w, loaded, equal⟩ := (fits column member v got set).exists_fromStorage converted
  refine ⟨v, w, got, ifKey, ?_, equal⟩
  rw [Column.valueIn, found]
  exact loaded

/-- A column that was not sent is loaded without a value. -/
theorem valueIn_of_not_sets (coherent : model.table.Coherent check)
    (returned : model.table.Returns sent row) {column : Column}
    (member : column ∈ model.table.columns) (unsent : ¬ sent.Sets column.name) :
    column.valueIn row = .ok .unset := by
  have absent := mt (returned.sets_iff coherent member).mp unsent
  rw [Column.valueIn, Entries.find?_of_not_sets absent]

/-- Whether a record that was loaded has what was sent of another one, and nothing in its other
fields. What was sent is what the other one had before it was saved and has after it, except for the
column kept current where it had nothing before. -/
structure Restores (loaded original saved : Record) (table : Table) (sent : Entries) : Prop where
  equal : ∀ name, sent.Sets name → ∃ v w, saved.get name = .ok v ∧
    (original.get name = .ok v ∨
      (original.get name = .ok .unset ∧ table.autoUpdate.map (·.name) = some name)) ∧
    loaded.get name = .ok w ∧ w.equal v = true
  unset : ∀ column ∈ table.columns, ¬ sent.Sets column.name → loaded.get column.name = .ok .unset

/-- Whether a row has an entry for each field of a record that is set, the key apart. -/
def IsCarriedBy (record : Record) (table : Table) (sent : Entries) : Prop :=
  ∀ column ∈ table.columns, table.key ≠ some column → record.get column.name ≠ .ok .unset →
    sent.Sets column.name

/-- The fields that are set before a record is saved are sent. -/
theorem StampsAs.isCarriedBy (stamps : record.StampsAs model stamped)
    (coherent : model.table.Coherent check) (isPublic : model.table.HasPublicNames)
    (written : stamped.rowOf model.table withKey model.table.columns = .ok sent) :
    record.IsCarriedBy model.table sent := by
  intro column member notKey set
  obtain ⟨v, got⟩ := exists_get_of_rowOf written member
  rcases stamps.get_eq coherent isPublic member with same | ⟨unset, _⟩
  · have isSet : v ≠ .unset := by
      intro unset
      rw [unset, same] at got
      exact set got
    have notKeyName : some column.name = model.table.primaryKey → withKey = true :=
      fun isKey => absurd ((coherent.primaryKey_eq_iff member).mp isKey) notKey
    obtain ⟨stored, _, inSent⟩ := mem_rowOf written member got isSet notKeyName
    exact ⟨_, inSent, rfl⟩
  · exact absurd unset set

/-- What an insertion of a record sends restores the record. -/
theorem InsertsAs.finds {statement : Statement} (inserts : record.InsertsAs model statement last)
    (coherent : model.table.Coherent check) (isPublic : model.table.HasPublicNames)
    (stampFits : model.table.StampFits) (fits : record.FitsIn model.table) :
    ∃ sent, Statement.insert model.table sent = .ok statement ∧
      record.IsCarriedBy model.table sent ∧
      ∀ row, model.table.Returns sent row →
        model.Finds (.dict row) fun loaded => loaded.Restores record last model.table sent := by
  obtain ⟨stamped, sent, stamps, written, built, keyed⟩ := inserts
  refine ⟨sent, built, stamps.isCarriedBy coherent isPublic written, ?_⟩
  intro row returned
  have valueOf : ∀ column ∈ model.table.columns, sent.Sets column.name → _ :=
    fun column member => exists_valueIn_of_sets coherent
      (stamps.fitsIn coherent isPublic stampFits fits) written returned member
  have noValueOf : ∀ column ∈ model.table.columns, ¬ sent.Sets column.name →
      column.valueIn row = .ok .unset :=
    fun _ member => valueIn_of_not_sets coherent returned member
  apply Model.finds_of_loadsAs isPublic
  intro session
  have loads : ∀ column ∈ model.table.columns, ∃ w, column.valueIn row = .ok w := by
    intro column member
    by_cases sets : sent.Sets column.name
    · obtain ⟨_, w, _, _, loaded, _⟩ := valueOf column member sets
      exact ⟨w, loaded⟩
    · exact ⟨.unset, noValueOf column member sets⟩
  obtain ⟨loaded, made, values⟩ :=
    exists_ofRow_of_valueIn isPublic coherent.names_nodup loads session
  refine ⟨loaded, made, ?_, ?_⟩
  · intro name sets
    obtain ⟨entry, inSent, named⟩ := id sets
    obtain ⟨column, member, _, isKey, _⟩ := exists_column_of_mem_rowOf written inSent
    rw [isKey] at named
    have same : column.name = name := Option.some.inj named
    rw [← same] at sets ⊢
    obtain ⟨v, w, got, ifKey, read, equal⟩ := valueOf column member sets
    refine ⟨v, w, ?_, ?_, (values column member).trans read, equal⟩
    · rw [keyed.get_eq coherent isPublic member ifKey, got]
    · rcases stamps.get_eq coherent isPublic member with kept | ⟨unset, found, _⟩
      · exact .inl (kept.symm.trans got)
      · exact .inr ⟨unset, by rw [found]; rfl⟩
  · intro column member unsent
    rw [values column member, noValueOf column member unsent]

/-- A record that is saved sends a row with everything that is set in it, except perhaps the key,
and every query that returns this row restores what was sent. -/
theorem saved_row_restores_record {name fields label : Value} {check : StorageCheck} {model : Model}
    (built : (Table.build name fields check label).result = .ok model.table)
    (isPublic : model.table.HasPublicNames)
    (stampFits : check = .standard ∨ model.table.StampFits) {record : Record}
    (fits : record.FitsIn model.table) (validated : Bool) (session : Session) :
    let last := (save model validated ⟨record, session⟩).2
    session.AsksOnly last.session fun statement =>
      ∃ sent, Statement.insert model.table sent = .ok statement ∧
        record.IsCarriedBy model.table sent ∧
        ∀ row, model.table.Returns sent row →
          model.Finds (.dict row) fun loaded =>
            loaded.Restores record last.record model.table sent := by
  intro last
  have coherent := Table.coherent_of_build built
  have fitting : model.table.StampFits := by
    rcases stampFits with standard | custom
    · rw [standard] at coherent
      exact coherent.stampFits
    · exact custom
  rcases record.asksOnce_save model validated session with
    ⟨same, _⟩ | ⟨request, given, _, inserts, _⟩
  · exact .inl same
  · exact .inr ⟨request, given, inserts.finds coherent isPublic fitting fits⟩

end Record

/-- A column of JSON texts, for examples. -/
def detailsColumn : Column :=
  { ColumnTraits.standard with label := .text "details", type := .json }

/-- A table of tasks, for examples. -/
def tasks : Table :=
  ⟨.text "Task", .text "tasks", [personId, personActive, detailsColumn], some personId, none⟩

theorem tasks_built :
    (Table.build (.text "Task")
      (.list [personId.toValue, personActive.toValue, detailsColumn.toValue]) .standard
      (.text "tasks")).result = .ok tasks := rfl

/-- What is known of a task beyond its own columns, for examples. -/
def taskDetails : Value :=
  .dict [(.text "tags", .list [.text "urgent", .null]), (.text "done", .bool false)]

/-- A task, for examples. -/
def newTask : Record :=
  ⟨"Task", [(.text "id", ⟨.int 1, none⟩), (.text "active", ⟨.bool true, none⟩),
    (.text "details", ⟨taskDetails, none⟩)], []⟩

theorem taskDetails_isDocument : Json.IsDocument Json.maxDepth taskDetails := by
  apply Json.IsDocument.dict
  · intro entry member
    simp only [List.mem_cons, List.not_mem_nil, or_false] at member
    rcases member with rfl | rfl
    · exact ⟨"tags", rfl⟩
    · exact ⟨"done", rfl⟩
  · decide
  · intro entry member
    simp only [List.mem_cons, List.not_mem_nil, or_false] at member
    rcases member with rfl | rfl
    · apply Json.IsDocument.list
      intro item inItems
      simp only [List.mem_cons, List.not_mem_nil, or_false] at inItems
      rcases inItems with rfl | rfl
      · exact .text _ rfl
      · exact .null _
    · exact .bool _ false

/-- A task is sent as a row that restores it. -/
theorem saved_row_restores_record_tasks :
    (Record.save ⟨tasks, none⟩ true ⟨newTask, newSession⟩).2.session.calls =
      [.execute "INSERT INTO `tasks` (`id`, `active`, `details`) VALUES (?, ?, ?)"
        [.int 1, .int 1, .text "\x7b\"tags\": [\"urgent\", null], \"done\": false\x7d"]] ∧
      newSession.AsksOnly (Record.save ⟨tasks, none⟩ true ⟨newTask, newSession⟩).2.session
        fun statement =>
          ∃ sent, Statement.insert tasks sent = .ok statement ∧
            newTask.IsCarriedBy tasks sent ∧
            ∀ row, tasks.Returns sent row →
              Model.Finds ⟨tasks, none⟩ (.dict row) fun loaded =>
                loaded.Restores newTask newTask tasks sent := by
  have isPublic : tasks.HasPublicNames := by decide
  have fits : newTask.FitsIn tasks := by
    intro column member v got _
    simp only [tasks, List.mem_cons, List.not_mem_nil, or_false] at member
    rcases member with rfl | rfl | rfl
    · cases got
      exact (by decide : Value.equal (.int 1) (.int 1) = true)
    · cases got
      exact .inr ⟨true, rfl⟩
    · cases got
      exact taskDetails_isDocument
  exact ⟨rfl, @Record.saved_row_restores_record _ _ _ _ ⟨tasks, none⟩ tasks_built isPublic
    (.inl rfl) _ fits true newSession⟩

/-- A session whose database answers the next query with the row of a task, in another order and
with a column that tasks do not have, for examples. -/
def taskSession : Session :=
  .start [] (.recorder ⟨[], [.ok [.dict [(.text "hits", .int 5),
    (.text "details", .text "\x7b\"tags\": [\"urgent\", null], \"done\": false\x7d"),
    (.text "active", .int 1), (.text "id", .int 1)]]]⟩) ⟨1700000000000, 0⟩

example :
    (Model.findOne ⟨tasks, none⟩ (.dict [(.text "id", .int 1)]) .null taskSession).1 =
      .ok (some newTask) := by cbv

end RowMapper
