import Mathlib.Data.List.Nodup
import RowMapper.Schema.Table

/-!
# What every table keeps to

A table is built by adding one column after the other to a draft. `TableDraft.Coherent` is what one
addition keeps: the names of the columns differ, every column passed the storage check, and the
primary key and the column kept current are columns that were declared as such. The tables that
declarations describe inherit it.
-/

namespace RowMapper

/-- What holds of a draft however many columns were added to it. -/
structure TableDraft.Coherent (check : StorageCheck) (draft : TableDraft) : Prop where
  names_nodup : (draft.columns.map (·.name)).Nodup
  checked : ∀ column ∈ draft.columns, (check column).equal (.int Verdict.ok.code) = true
  key_mem : ∀ column, draft.key = some column →
    column ∈ draft.columns ∧ column.isPrimaryKey = true
  autoUpdate_mem : ∀ column, draft.autoUpdate = some column →
    column ∈ draft.columns ∧ column.isAutoUpdate = true

/-- What holds of every table that a declaration describes. -/
structure Table.Coherent (check : StorageCheck) (table : Table) : Prop where
  names_nodup : table.columnNames.Nodup
  checked : ∀ column ∈ table.columns, (check column).equal (.int Verdict.ok.code) = true
  key_mem : ∀ column, table.key = some column →
    column ∈ table.columns ∧ column.isPrimaryKey = true
  autoUpdate_mem : ∀ column, table.autoUpdate = some column →
    column ∈ table.columns ∧ column.isAutoUpdate = true

namespace TableDraft

theorem checkCode_eq_ok {model : Name} {column : Column} {code : Value}
    (passed : checkCode model column code = .ok ()) :
    code.equal (.int Verdict.ok.code) = true := by
  simp only [checkCode] at passed
  split at passed
  next equal => exact equal
  next =>
    split at passed
    · cases passed
    · cases passed

/-- All that one added column does to a draft. -/
theorem addColumn_eq_ok {draft next : TableDraft} {model : Name} {check : StorageCheck}
    {column : Column} (added : draft.addColumn model check column = .ok next) :
    column.name ∉ draft.columns.map (·.name) ∧
      (check column).equal (.int Verdict.ok.code) = true ∧
      next.columns = draft.columns ++ [column] ∧
      draft.nextKey model column = .ok next.key ∧
      next.autoUpdate = draft.nextAutoUpdate column ∧
      next.events = draft.events ++ draft.nextEvents model column := by
  simp only [addColumn] at added
  split at added
  next => cases added
  next fresh =>
    have notMember : column.name ∉ draft.columns.map (·.name) := by simpa using fresh
    cases verdict : checkCode model column (check column) with
    | error fault => rw [verdict] at added; cases added
    | ok passed =>
        cases key : draft.nextKey model column with
        | error fault => rw [verdict, key] at added; cases added
        | ok found =>
            rw [verdict, key] at added
            cases added
            exact ⟨notMember, checkCode_eq_ok verdict, rfl, rfl, rfl, rfl⟩

theorem add_eq_ok {draft next : TableDraft} {model : Name} {check : StorageCheck}
    {declaration : Value} (added : draft.add model check declaration = .ok next) :
    ∃ column, Column.ofValue declaration = .ok column ∧
      draft.addColumn model check column = .ok next := by
  simp only [add] at added
  cases declared : Column.ofValue declaration with
  | error fault => rw [declared] at added; cases added
  | ok column => rw [declared] at added; exact ⟨column, rfl, added⟩

theorem nextKey_eq_ok {draft : TableDraft} {model : Name} {column : Column}
    {key : Option Column} (found : draft.nextKey model column = .ok key) :
    (key = draft.key ∧ column.isPrimaryKey = false) ∨
      (draft.key = none ∧ key = some column ∧ column.isPrimaryKey = true) := by
  simp only [nextKey] at found
  split at found
  next flagged =>
    split at found
    next => cases found
    next unset =>
      cases found
      exact .inr ⟨unset, rfl, flagged⟩
  next unflagged =>
    cases found
    exact .inl ⟨rfl, Bool.eq_false_iff.mpr unflagged⟩

theorem nextAutoUpdate_eq (draft : TableDraft) (column : Column) :
    draft.nextAutoUpdate column = draft.autoUpdate ∨
      (draft.nextAutoUpdate column = some column ∧ column.isAutoUpdate = true) := by
  simp only [nextAutoUpdate]
  split
  next flagged =>
    cases draft.autoUpdate with
    | none => exact .inr ⟨rfl, flagged⟩
    | some first => exact .inl rfl
  next => exact .inl rfl

theorem coherent_empty (check : StorageCheck) : empty.Coherent check where
  names_nodup := List.nodup_nil
  checked := by simp [empty]
  key_mem := by simp [empty]
  autoUpdate_mem := by simp [empty]

/-- One more column keeps a draft coherent. -/
theorem Coherent.addColumn {check : StorageCheck} {draft next : TableDraft} {model : Name}
    {column : Column} (coherent : draft.Coherent check)
    (added : draft.addColumn model check column = .ok next) : next.Coherent check := by
  obtain ⟨fresh, passed, columns, key, autoUpdate, _⟩ := addColumn_eq_ok added
  have kept : ∀ other ∈ draft.columns, other ∈ next.columns := by
    intro other member
    rw [columns]
    exact List.mem_append_left _ member
  have present : column ∈ next.columns := by simp [columns]
  constructor
  · rw [columns, List.map_append]
    exact List.nodup_append.mpr ⟨coherent.names_nodup, by simp, by
      intro name member other last
      have equal : other = column.name := by simpa using last
      rw [equal]
      exact fun same => fresh (same ▸ member)⟩
  · intro other member
    rw [columns, List.mem_append] at member
    rcases member with earlier | last
    · exact coherent.checked other earlier
    · have equal : other = column := by simpa using last
      rw [equal]
      exact passed
  · intro other isKey
    rcases nextKey_eq_ok key with ⟨same, _⟩ | ⟨_, new, flagged⟩
    · rw [same] at isKey
      exact ⟨kept other (coherent.key_mem other isKey).1, (coherent.key_mem other isKey).2⟩
    · rw [new] at isKey
      cases isKey
      exact ⟨present, flagged⟩
  · intro other isKept
    rw [autoUpdate] at isKept
    rcases nextAutoUpdate_eq draft column with same | ⟨new, flagged⟩
    · rw [same] at isKept
      exact ⟨kept other (coherent.autoUpdate_mem other isKept).1,
        (coherent.autoUpdate_mem other isKept).2⟩
    · rw [new] at isKept
      cases isKept
      exact ⟨present, flagged⟩

/-- Any number of declared fields keeps a draft coherent, up to the first that is refused. -/
theorem Coherent.addAll {check : StorageCheck} {model : Name} {draft : TableDraft}
    (coherent : draft.Coherent check) (fields : List Value) :
    (draft.addAll model check fields).1.Coherent check := by
  induction fields generalizing draft with
  | nil => exact coherent
  | cons declaration rest ih =>
      simp only [TableDraft.addAll]
      cases added : draft.add model check declaration with
      | error fault => exact coherent
      | ok next =>
          obtain ⟨column, _, added⟩ := add_eq_ok added
          exact ih (coherent.addColumn added)

end TableDraft

namespace Table

theorem ofDeclarations_eq_ok {model label : Name} {check : StorageCheck} {fields : List Value}
    {table : Table} (built : (ofDeclarations model label check fields).result = .ok table) :
    table = ofDraft model label (TableDraft.empty.addAll model check fields).1 := by
  simp only [ofDeclarations] at built
  split at built
  · cases built
  · cases built
    rfl

/-- Every table that a model declaration describes is coherent. -/
theorem coherent_of_build {name fields label : Value} {check : StorageCheck} {table : Table}
    (built : (build name fields check label).result = .ok table) : table.Coherent check := by
  simp only [build] at built
  split at built
  next => cases built
  next model _ _ =>
    split at built
    next => cases built
    next items _ =>
      rw [ofDeclarations_eq_ok built]
      have draft : (TableDraft.empty.addAll model check items).1.Coherent check :=
        TableDraft.Coherent.addAll (TableDraft.coherent_empty check) items
      exact ⟨draft.names_nodup, draft.checked, draft.key_mem, draft.autoUpdate_mem⟩

theorem column?_eq_some {table : Table} {name : String} {column : Column}
    (found : table.column? name = some column) :
    column ∈ table.columns ∧ column.name = name := by
  refine ⟨List.mem_of_find?_eq_some found, ?_⟩
  simpa using List.find?_some found

theorem primaryKey_of_key {table : Table} {column : Column} (isKey : table.key = some column) :
    table.primaryKey = some column.name := by
  rw [primaryKey, isKey]
  rfl

namespace Coherent

variable {check : StorageCheck} {table : Table}

/-- Columns of one name are one column. -/
theorem eq_of_name_eq (coherent : table.Coherent check) {a b : Column}
    (aMember : a ∈ table.columns) (bMember : b ∈ table.columns) (same : a.name = b.name) :
    a = b :=
  List.inj_on_of_nodup_map coherent.names_nodup aMember bMember same

/-- A column is found under its name. -/
theorem column?_name (coherent : table.Coherent check) {column : Column}
    (member : column ∈ table.columns) : table.column? column.name = some column := by
  cases found : table.column? column.name with
  | none =>
      have missing := List.find?_eq_none.mp found column member
      exact absurd (decide_eq_true rfl) missing
  | some other =>
      obtain ⟨otherMember, same⟩ := column?_eq_some found
      rw [coherent.eq_of_name_eq otherMember member same]

/-- A column is the primary key just when it has the name of the key. -/
theorem primaryKey_eq_iff (coherent : table.Coherent check) {column : Column}
    (member : column ∈ table.columns) :
    some column.name = table.primaryKey ↔ table.key = some column := by
  rw [primaryKey]
  cases isKey : table.key with
  | none => simp
  | some key =>
      constructor
      · intro same
        rw [coherent.eq_of_name_eq member (coherent.key_mem key isKey).1 (Option.some.inj same)]
      · intro same
        cases same
        rfl

end Coherent

theorem columnAt?_eq_some {table : Table} {key : Value} {column : Column}
    (found : table.columnAt? key = some column) :
    column ∈ table.columns ∧ key.text? = some column.name := by
  simp only [columnAt?, Option.bind_eq_bind, Option.bind_eq_some_iff] at found
  obtain ⟨name, text, found⟩ := found
  obtain ⟨member, same⟩ := column?_eq_some found
  exact ⟨member, by rw [text, same]⟩

end Table

end RowMapper
