import RowMapper.Proofs.Schema.TableInvariant
import RowMapper.Proofs.Writing

/-!
# Which columns assignments and rows set

Assignments come from the values of a caller or from the fields of a record, are stamped with the
time for the column kept current, converted to what is stored, and become the list of an update. Of
each of these steps it is said which names the assignments have before and after it. The row of an
insertion has its entries from the fields of a record alone, each in its stored form.
-/

namespace RowMapper

/-- Values that are equal are the same item. -/
theorem Value.sameItem_of_equal {v w : Value} (equal : v.equal w = true) :
    v.sameItem w = true := by
  cases v with
  | float x =>
      cases x with
      | nan mark => cases equal
      | _ => exact equal
  | _ => exact equal

/-- Only the text itself is the same item as a text. -/
theorem Value.sameItem_of_text? {v w : Value} {s : String} (text : w.text? = some s) :
    Value.sameItem v w = true ↔ v.text? = some s := by
  cases v with
  | text t =>
      simp only [sameItem, text]
      simp [text?, eq_comm]
  | fieldType type =>
      simp only [sameItem, text]
      simp [text?, eq_comm]
  | float x =>
      cases w with
      | text t => cases x <;> simp [sameItem, text?, number?]
      | fieldType type => cases x <;> simp [sameItem, text?, number?]
      | _ => cases text
  | _ =>
      cases w with
      | text t => simp [sameItem, text?, number?]
      | fieldType type => simp [sameItem, text?, number?]
      | _ => cases text

namespace Entries

/-- Whether some entries have a key that is the text of a name. -/
def Sets (entries : Entries) (name : String) : Prop :=
  ∃ entry ∈ entries, entry.1.text? = some name

theorem sets_nil (name : String) : ¬ Sets [] name := by
  rintro ⟨entry, member, _⟩
  cases member

theorem sets_cons (entry : Value × Value) (rest : Entries) (name : String) :
    Sets (entry :: rest) name ↔ entry.1.text? = some name ∨ Sets rest name := by
  simp [Sets]

theorem sets_append {before after : Entries} {name : String} :
    Sets (before ++ after) name ↔ before.Sets name ∨ after.Sets name := by
  simp [Sets, or_and_right, exists_or]

theorem has_eq_true {entries : Entries} {key : Value} {name : String}
    (text : key.text? = some name) : entries.has key = true ↔ entries.Sets name := by
  simp only [has, List.any_eq_true, Sets, Value.sameItem_of_text? text]

theorem sets_congr {a b : Entries} (same : a.keys = b.keys) (name : String) :
    a.Sets name ↔ b.Sets name := by
  have byKeys : ∀ entries : Entries,
      entries.Sets name ↔ ∃ key ∈ entries.keys, key.text? = some name := by
    intro entries
    simp [Sets, keys]
  rw [byKeys, byKeys, same]

/-- Writing under a name adds that name and no other. -/
theorem sets_insert (entries : Entries) {key : Value} {written : String} (v : Value)
    (text : key.text? = some written) (name : String) :
    (entries.insert key v).Sets name ↔ entries.Sets name ∨ name = written := by
  induction entries with
  | nil => simp [insert, Sets, text, eq_comm]
  | cons entry rest ih =>
      simp only [insert]
      split
      next same =>
        rw [Value.sameItem_of_text? text] at same
        rw [sets_cons, sets_cons, same]
        constructor
        · rintro (equal | later)
          · exact .inl (.inl equal)
          · exact .inl (.inr later)
        · rintro ((equal | later) | rfl)
          · exact .inl equal
          · exact .inr later
          · exact .inl rfl
      next => rw [sets_cons, sets_cons, ih, or_assoc]

/-- What is written under a name that is not there yet comes behind the other entries. -/
theorem insert_of_not_sets {entries : Entries} {key : Value} {name : String} (v : Value)
    (text : key.text? = some name) (absent : ¬ entries.Sets name) :
    entries.insert key v = entries ++ [(key, v)] := by
  induction entries with
  | nil => rfl
  | cons entry rest ih =>
      rw [sets_cons, not_or] at absent
      have different : ¬ Value.sameItem entry.1 key = true := by
        rw [Value.sameItem_of_text? text]
        exact absent.1
      rw [insert, if_neg different, ih absent.2]
      rfl

/-- The value under a name is that of the first entry with that name. -/
theorem find?_text_cons (key v : Value) (rest : Entries) (name : String) :
    find? ((key, v) :: rest) (.text name) =
      if key.text? = some name then some v else find? rest (.text name) := by
  have same := Value.sameItem_of_text? (v := key) (w := .text name) rfl
  by_cases named : key.text? = some name
  · simp [find?, same.mpr named, named]
  · have different : Value.sameItem key (.text name) = false :=
      Bool.eq_false_iff.mpr fun equal => named (same.mp equal)
    simp [find?, different, named]

/-- A name is looked up under whatever spells it. -/
theorem find?_of_text? {key : Value} {name : String} (text : key.text? = some name)
    (entries : Entries) : find? entries key = find? entries (.text name) := by
  induction entries with
  | nil => rfl
  | cons entry rest ih =>
      have same : Value.sameItem entry.1 key = Value.sameItem entry.1 (.text name) := by
        rw [Bool.eq_iff_iff, Value.sameItem_of_text? text, Value.sameItem_of_text? rfl]
      simp only [find?, List.find?_cons, same] at ih ⊢
      split
      · rfl
      · exact ih

/-- What is found under a name is the value of an entry with that name, and where there is such an
entry something is found. -/
theorem exists_mem_of_find? {entries : Entries} {name : String} {v : Value}
    (found : find? entries (.text name) = some v) :
    ∃ key, (key, v) ∈ entries ∧ key.text? = some name := by
  induction entries with
  | nil => cases found
  | cons entry rest ih =>
      rw [find?_text_cons] at found
      split at found
      next named =>
        cases found
        exact ⟨entry.1, List.mem_cons_self, named⟩
      next =>
        obtain ⟨key, member, named⟩ := ih found
        exact ⟨key, List.mem_cons_of_mem entry member, named⟩

theorem exists_find?_of_sets {entries : Entries} {name : String} (sets : entries.Sets name) :
    ∃ v, find? entries (.text name) = some v := by
  induction entries with
  | nil => exact absurd sets (sets_nil name)
  | cons entry rest ih =>
      rw [find?_text_cons]
      rcases (sets_cons _ _ _).mp sets with named | later
      · exact ⟨entry.2, if_pos named⟩
      · split
        · exact ⟨entry.2, rfl⟩
        · exact ih later

/-- What stands behind entries that do not set a name. -/
theorem find?_append_of_not_sets {entries : Entries} {name : String} (absent : ¬ entries.Sets name)
    (more : Entries) : find? (entries ++ more) (.text name) = find? more (.text name) := by
  induction entries with
  | nil => rfl
  | cons entry rest ih =>
      rw [sets_cons, not_or] at absent
      rw [List.cons_append, find?_text_cons, if_neg absent.1, ih absent.2]

theorem find?_of_not_sets {entries : Entries} {name : String} (absent : ¬ entries.Sets name) :
    find? entries (.text name) = none := by
  have last := find?_append_of_not_sets absent []
  rw [List.append_nil] at last
  exact last

end Entries

namespace Table

/-- What conversion makes of the first entry and of the others. -/
theorem toStorage_cons_eq_ok {table : Table} {key v : Value} {rest stored : Entries}
    (converted : table.toStorage ((key, v) :: rest) = .ok stored) :
    ∃ first others, stored = (key, first) :: others ∧ table.toStorage rest = .ok others ∧
      ∀ column, table.columnAt? key = some column → column.toStorage v = .ok first := by
  simp only [toStorage] at converted
  cases found : table.columnAt? key with
  | none =>
      rw [found] at converted
      cases later : table.toStorage rest with
      | error fault => rw [later] at converted; cases converted
      | ok others =>
          rw [later] at converted
          cases converted
          exact ⟨v, others, rfl, rfl, fun column impossible => by cases impossible⟩
  | some column =>
      rw [found] at converted
      cases first : column.toStorage v with
      | error fault => simp only [first] at converted; cases converted
      | ok value =>
          cases later : table.toStorage rest with
          | error fault => simp only [first, later] at converted; cases converted
          | ok others =>
              simp only [first, later] at converted
              cases converted
              refine ⟨value, others, rfl, rfl, ?_⟩
              intro other same
              cases same
              exact first

/-- Conversion keeps the keys. -/
theorem keys_toStorage {table : Table} {assignments stored : Entries}
    (converted : table.toStorage assignments = .ok stored) : stored.keys = assignments.keys := by
  induction assignments generalizing stored with
  | nil => cases converted; rfl
  | cons entry rest ih =>
      obtain ⟨key, v⟩ := entry
      obtain ⟨first, others, rfl, later, _⟩ := toStorage_cons_eq_ok converted
      have same := ih later
      simp only [Entries.keys, List.map_cons] at same ⊢
      rw [same]

/-- Of the values of a caller those under the name of a column are kept, the key left out. -/
theorem mem_assignments {table : Table} {entries : Entries} {entry : Value × Value} :
    entry ∈ table.assignments entries ↔
      entry ∈ entries ∧ table.isPrimaryKeyName entry.1 = false ∧
        (table.columnAt? entry.1).isSome = true := by
  induction entries with
  | nil => simp [assignments]
  | cons first rest ih =>
      obtain ⟨key, v⟩ := first
      simp only [assignments]
      split
      next dropped =>
        rw [ih, List.mem_cons]
        constructor
        · rintro ⟨member, kept⟩
          exact ⟨.inr member, kept⟩
        · rintro ⟨member, kept⟩
          rcases member with rfl | later
          · obtain ⟨notKey, isColumn⟩ := kept
            rw [Option.isSome_iff_ne_none] at isColumn
            simp [notKey, isColumn] at dropped
          · exact ⟨later, kept⟩
      next kept =>
        rw [List.mem_cons, List.mem_cons, ih]
        constructor
        · intro member
          rcases member with rfl | ⟨later, known⟩
          · refine ⟨.inl rfl, ?_⟩
            simpa [Option.isSome_iff_ne_none] using kept
          · exact ⟨.inr later, known⟩
        · rintro ⟨member, known⟩
          rcases member with rfl | later
          · exact .inl rfl
          · exact .inr ⟨later, known⟩

/-- The values of a caller set no key column. -/
theorem sets_assignments {table : Table} {entries : Entries} {name : String}
    (sets : (table.assignments entries).Sets name) : table.primaryKey ≠ some name := by
  obtain ⟨entry, member, named⟩ := sets
  obtain ⟨_, notKey, _⟩ := mem_assignments.mp member
  intro isKey
  simp [isPrimaryKeyName, primaryKeyText, isKey, named] at notKey

end Table

namespace Record

theorem get_eq_ok {record : Record} {name : String} {v : Value} :
    record.get name = .ok v ↔ record.value? name = some v := by
  rw [get]
  cases record.value? name with
  | none => simp
  | some w => simp

/-- An assignment under any name but that of the record's own dictionary puts an attribute. -/
theorem assign_eq_ok {record next : Record} {label : Name} {v : Value} {source : Option Nat}
    (assigned : record.assign label v source = .ok next) (plain : label.toText ≠ "__dict__") :
    next = record.put label v source ∧ label.toText ≠ "__weakref__" := by
  simp only [assign, plain, if_false] at assigned
  split at assigned
  · cases assigned
  split at assigned
  · cases assigned
  next notReferences =>
    cases assigned
    exact ⟨rfl, notReferences⟩

/-- The record's own dictionary is never unset. -/
theorem ne_dictionary_of_unset {record : Record} {name : String}
    (unset : record.get name = .ok .unset) :
    name ≠ "__dict__" := by
  intro same
  rw [same] at unset
  cases unset

/-- What the first column contributes to the assignments of an update. -/
theorem updateValues_cons_eq_ok {record : Record} {table : Table} {column : Column}
    {rest : List Column} {values : Entries}
    (gathered : record.updateValues table (column :: rest) = .ok values) :
    ∃ v others, record.get column.name = .ok v ∧ record.updateValues table rest = .ok others ∧
      ((values = others ∧ (some column.name = table.primaryKey ∨ v = .unset)) ∨
        (values = (.text column.name, v) :: others ∧ some column.name ≠ table.primaryKey ∧
          v ≠ .unset)) := by
  simp only [updateValues] at gathered
  cases read : record.get column.name with
  | error fault => rw [read] at gathered; cases gathered
  | ok v =>
      cases later : record.updateValues table rest with
      | error fault => rw [read, later] at gathered; cases gathered
      | ok others =>
          rw [read, later] at gathered
          change Except.ok (if some column.name = table.primaryKey || v.isUnset then others
            else (.text column.name, v) :: others) = _ at gathered
          refine ⟨v, others, rfl, rfl, ?_⟩
          split at gathered
          next dropped =>
            cases gathered
            left
            exact ⟨rfl, by simpa using dropped⟩
          next kept =>
            cases gathered
            right
            exact ⟨rfl, by simpa using kept⟩

/-- The assignments of an update are the set fields but the key. -/
theorem mem_updateValues {record : Record} {table : Table} {columns : List Column}
    {values : Entries}
    (gathered : record.updateValues table columns = .ok values) {entry : Value × Value} :
    entry ∈ values ↔ ∃ column ∈ columns, entry.1 = .text column.name ∧
      record.get column.name = .ok entry.2 ∧ entry.2 ≠ .unset ∧
      some column.name ≠ table.primaryKey := by
  induction columns generalizing values with
  | nil =>
      cases gathered
      simp
  | cons column rest ih =>
      obtain ⟨v, others, read, later, parts⟩ := updateValues_cons_eq_ok gathered
      rw [List.exists_mem_cons_iff, ← ih later]
      rcases parts with ⟨rfl, isKey | rfl⟩ | ⟨rfl, notKey, set⟩
      · simp [isKey]
      · constructor
        · exact .inr
        · intro contributes
          rcases contributes with ⟨_, got, set, _⟩ | later
          · rw [read] at got
            exact absurd (Except.ok.inj got).symm set
          · exact later
      · rw [List.mem_cons]
        constructor
        · intro member
          rcases member with rfl | inOthers
          · exact .inl ⟨rfl, read, set, notKey⟩
          · exact .inr inOthers
        · intro contributes
          rcases contributes with ⟨text, got, _, _⟩ | inOthers
          · rw [read] at got
            exact .inl (Prod.ext text (Except.ok.inj got).symm)
          · exact .inr inOthers

/-- The fields of a record set no key column. -/
theorem sets_updateValues {record : Record} {table : Table} {columns : List Column}
    {values : Entries} (gathered : record.updateValues table columns = .ok values)
    {name : String} (sets : values.Sets name) : table.primaryKey ≠ some name := by
  obtain ⟨entry, member, named⟩ := sets
  obtain ⟨column, _, text, _, _, notKey⟩ := (mem_updateValues gathered).mp member
  rw [text] at named
  rw [← Option.some.inj named]
  exact notKey.symm

theorem keys_refresh (record : Record) (assignments : Entries) :
    (record.refresh assignments).keys = assignments.keys := by
  simp [refresh, Entries.keys]

end Record

/-! ## The row of an insertion -/

namespace Record

/-- What the first column contributes to a row, which is nothing if it is left out. -/
theorem rowOf_cons_eq_ok {record : Record} {table : Table} {withKey : Bool} {column : Column}
    {rest : List Column} {row : Entries}
    (written : record.rowOf table withKey (column :: rest) = .ok row) :
    ∃ v others, record.get column.name = .ok v ∧ record.rowOf table withKey rest = .ok others ∧
      ((row = others ∧ (v = .unset ∨ (some column.name = table.primaryKey ∧ withKey = false))) ∨
        ∃ stored, column.toStorage v = .ok stored ∧ v ≠ .unset ∧
          (some column.name = table.primaryKey → withKey = true) ∧
          row = (.text column.name, stored) :: others) := by
  simp only [rowOf] at written
  cases read : record.get column.name with
  | error fault => rw [read] at written; cases written
  | ok v =>
      rw [read] at written
      simp only [bind, Except.bind] at written
      split at written
      next left =>
        refine ⟨v, row, rfl, written, .inl ⟨rfl, ?_⟩⟩
        simpa using left
      next kept =>
        have stays : v ≠ .unset ∧ (some column.name = table.primaryKey → withKey = true) := by
          simpa using kept
        cases converted : column.toStorage v with
        | error fault => simp only [converted] at written; cases written
        | ok stored =>
            cases later : record.rowOf table withKey rest with
            | error fault => simp only [converted, later] at written; cases written
            | ok others =>
                simp only [converted, later] at written
                cases written
                exact ⟨v, others, rfl, rfl, .inr ⟨stored, converted, stays.1, stays.2, rfl⟩⟩

/-- A record whose row is written has all its fields. -/
theorem exists_get_of_rowOf {record : Record} {table : Table} {withKey : Bool}
    {columns : List Column} {row : Entries}
    (written : record.rowOf table withKey columns = .ok row) {column : Column}
    (member : column ∈ columns) : ∃ v, record.get column.name = .ok v := by
  induction columns generalizing row with
  | nil => cases member
  | cons first rest ih =>
      obtain ⟨v, others, read, later, _⟩ := rowOf_cons_eq_ok written
      rcases List.mem_cons.mp member with rfl | inRest
      · exact ⟨v, read⟩
      · exact ih later inRest

/-- Every entry of a row is a column that the record has a value for, with the stored form of that
value, and it is the key only where the key is sent. -/
theorem exists_column_of_mem_rowOf {record : Record} {table : Table} {withKey : Bool}
    {columns : List Column} {row : Entries}
    (written : record.rowOf table withKey columns = .ok row) {entry : Value × Value}
    (member : entry ∈ row) :
    ∃ column ∈ columns, ∃ v, entry.1 = .text column.name ∧ record.get column.name = .ok v ∧
      column.toStorage v = .ok entry.2 ∧ v ≠ .unset ∧
      (some column.name = table.primaryKey → withKey = true) := by
  induction columns generalizing row with
  | nil =>
      cases written
      cases member
  | cons column rest ih =>
      obtain ⟨v, others, read, later, same | ⟨stored, converted, set, sent, rfl⟩⟩ :=
        rowOf_cons_eq_ok written
      · obtain ⟨other, inRest, known⟩ := ih later (same.1 ▸ member)
        exact ⟨other, List.mem_cons_of_mem column inRest, known⟩
      · rcases List.mem_cons.mp member with rfl | inOthers
        · exact ⟨column, List.mem_cons_self, v, rfl, read, converted, set, sent⟩
        · obtain ⟨other, inRest, known⟩ := ih later inOthers
          exact ⟨other, List.mem_cons_of_mem column inRest, known⟩

/-- A column with a value is in the row, unless it is a key that is not sent. -/
theorem mem_rowOf {record : Record} {table : Table} {withKey : Bool} {columns : List Column}
    {row : Entries} (written : record.rowOf table withKey columns = .ok row) {column : Column}
    (member : column ∈ columns) {v : Value} (read : record.get column.name = .ok v)
    (set : v ≠ .unset) (sent : some column.name = table.primaryKey → withKey = true) :
    ∃ stored, column.toStorage v = .ok stored ∧ (.text column.name, stored) ∈ row := by
  induction columns generalizing row with
  | nil => cases member
  | cons first rest ih =>
      obtain ⟨w, others, readFirst, later, parts⟩ := rowOf_cons_eq_ok written
      rcases List.mem_cons.mp member with rfl | inRest
      · rw [read] at readFirst
        cases readFirst
        rcases parts with ⟨_, unset | ⟨isKey, unsent⟩⟩ | ⟨stored, converted, _, _, rfl⟩
        · exact absurd unset set
        · rw [sent isKey] at unsent
          cases unsent
        · exact ⟨stored, converted, List.mem_cons_self⟩
      · obtain ⟨stored, converted, inOthers⟩ := ih later inRest
        refine ⟨stored, converted, ?_⟩
        rcases parts with ⟨rfl, _⟩ | ⟨_, _, _, _, rfl⟩
        · exact inOthers
        · exact List.mem_cons_of_mem _ inOthers

end Record

/-! ## The time of an update -/

namespace Table

/-- The two things that stamping can come to: nothing, since there is no column to keep current or
it is set already, or one more assignment of that column's default. -/
theorem StampsTo.eq_or_insert {table : Table} {assignments stamped : Entries} {time : Value}
    (stamps : table.StampsTo assignments time stamped) :
    (time = .null ∧ stamped = assignments ∧
        ∀ column, table.autoUpdate = some column → assignments.Sets column.name) ∨
      ∃ column environment, table.autoUpdate = some column ∧
        ¬ assignments.Sets column.name ∧ (column.resolveDefault environment).1 = .ok time ∧
        stamped = assignments.insert column.label.toValue time := by
  obtain ⟨environment, ran⟩ := stamps
  simp only [stamp] at ran
  cases found : table.autoUpdate with
  | none =>
      rw [found] at ran
      cases ran
      exact .inl ⟨rfl, rfl, fun column impossible => by cases impossible⟩
  | some column =>
      rw [found] at ran
      dsimp only at ran
      split at ran
      next present =>
        cases ran
        refine .inl ⟨rfl, rfl, ?_⟩
        intro other same
        cases same
        exact (Entries.has_eq_true rfl).mp present
      next absent =>
        rw [bind_apply] at ran
        rcases resolved : column.resolveDefault environment with ⟨fault | value, next⟩
        · rw [resolved] at ran
          cases ran
        · rw [resolved] at ran
          cases ran
          refine .inr ⟨column, environment, rfl, ?_, by rw [resolved], rfl⟩
          exact fun present => absent ((Entries.has_eq_true rfl).mpr present)

/-- Stamping adds the column kept current and no other. -/
theorem StampsTo.sets {table : Table} {assignments stamped : Entries} {time : Value}
    (stamps : table.StampsTo assignments time stamped) (name : String) :
    stamped.Sets name ↔
      assignments.Sets name ∨ ∃ column, table.autoUpdate = some column ∧ column.name = name := by
  rcases stamps.eq_or_insert with ⟨_, rfl, already⟩ | ⟨column, _, found, _, _, rfl⟩
  · constructor
    · exact .inl
    · rintro (present | ⟨column, found, rfl⟩)
      · exact present
      · exact already column found
  · rw [Entries.sets_insert assignments time column.label.text?_toValue name]
    constructor
    · rintro (present | rfl)
      · exact .inl present
      · exact .inr ⟨column, found, rfl⟩
    · rintro (present | ⟨other, same, rfl⟩)
      · exact .inl present
      · rw [found] at same
        cases same
        exact .inr rfl

theorem Coherent.verdict_eq_ok {table : Table} (coherent : table.Coherent .standard)
    {column : Column} (member : column ∈ table.columns) : column.verdict = .ok := by
  have passed := coherent.checked column member
  simp only [StorageCheck.standard] at passed
  cases found : column.verdict with
  | ok => rfl
  | unknownType => rw [found] at passed; exact absurd passed (by decide)
  | unsupportedDefault => rw [found] at passed; exact absurd passed (by decide)
  | invalidAutoUpdate => rw [found] at passed; exact absurd passed (by decide)

/-- Under the rules of this library the column kept current is a timestamp with the current time as
default. -/
theorem Coherent.timestamp_autoUpdate {table : Table} (coherent : table.Coherent .standard)
    {column : Column} (found : table.autoUpdate = some column) :
    column.type = .timestamp ∧ column.default = .currentTime := by
  obtain ⟨member, flagged⟩ := coherent.autoUpdate_mem column found
  have accepted := coherent.verdict_eq_ok member
  simp only [Column.verdict, ColumnTraits.verdict] at accepted
  split at accepted
  · cases accepted
  split at accepted
  · cases accepted
  split at accepted
  · cases accepted
  next valid =>
    simp only [Bool.not_eq_true, Bool.not_eq_false', ColumnTraits.hasValidAutoUpdate,
      Bool.or_eq_true, Bool.and_eq_true] at valid
    rcases valid with unflagged | ⟨isTimestamp, isTime⟩
    · rw [Column.isAutoUpdate] at flagged
      rw [flagged] at unflagged
      cases unflagged
    · rw [CheckedType.isExactly, Bool.true_and, decide_eq_true_eq] at isTimestamp
      exact ⟨isTimestamp, Value.isCurrentTime_eq_true.mp isTime⟩

theorem Coherent.default_autoUpdate {table : Table} (coherent : table.Coherent .standard)
    {column : Column} (found : table.autoUpdate = some column) :
    column.default = .currentTime :=
  (coherent.timestamp_autoUpdate found).2

/-- Under these rules the time of an update is what the clock shows. -/
theorem StampsTo.time_eq {table : Table} (coherent : table.Coherent .standard)
    {assignments stamped : Entries} {time : Value}
    (stamps : table.StampsTo assignments time stamped) : time = .null ∨ ∃ now, time = .int now := by
  rcases stamps.eq_or_insert with ⟨isNull, _⟩ | ⟨column, environment, found, _, resolved, _⟩
  · exact .inl isNull
  · rw [Column.resolveDefault, coherent.default_autoUpdate found] at resolved
    cases resolved
    exact .inr ⟨_, rfl⟩

end Table

end RowMapper
