import RowMapper.Proofs.Assignments

/-!
# What a table says of its declarations

A table and the report on building it are determined by the columns that the declarations are read
as. `TableDraft.Tells` says how: which columns there are, which one is the key, which one updates
keep current, and what was reported of the others that asked to be. One addition to a draft keeps
it, and so does a whole list of declarations. The finished table inherits it, and with the checks
that every column passed it gives what the operations on a model rely on without looking again.
-/

namespace RowMapper

/-! ## Names -/

namespace Sql

/-- Whether a text is an identifier. -/
structure IsIdentifier (name : String) : Prop where
  form : isIdentifierForm name.toList = true
  short : name.length ≤ maxIdentifierLength

theorem IsIdentifier.length_pos {name : String} (identifier : IsIdentifier name) :
    0 < name.length := by
  have form := identifier.form
  rw [← String.length_toList]
  cases characters : name.toList with
  | nil => rw [characters] at form; cases form
  | cons c rest => exact Nat.zero_lt_succ _

/-- A value passes the check just when it is a name whose text is an identifier. -/
theorem checkIdentifier_eq_ok_iff {v : Value} {name : Name} :
    checkIdentifier v = .ok name ↔ Name.ofValue? v = some name ∧ IsIdentifier name.toText := by
  rw [checkIdentifier]
  cases Name.ofValue? v with
  | none => simp
  | some found =>
      have empty (none : found.toText.toList.isEmpty = true) : ¬ IsIdentifier found.toText := by
        intro identifier
        have form := identifier.form
        rw [List.isEmpty_iff.mp none] at form
        cases form
      dsimp only
      split
      next none => simpa using fun same => same ▸ empty none
      next =>
        split
        next malformed =>
          simp only [reduceCtorEq, Option.some.injEq, false_iff, not_and]
          rintro rfl identifier
          rw [identifier.form] at malformed
          cases malformed
        next formed =>
          split
          next long =>
            simp only [reduceCtorEq, Option.some.injEq, false_iff, not_and]
            rintro rfl identifier
            rw [String.length_toList] at long
            exact absurd identifier.short (Nat.not_le.mpr long)
          next short =>
            rw [String.length_toList] at short
            simp only [Except.ok.injEq, Option.some.injEq, iff_self_and]
            rintro rfl
            exact ⟨by simpa using formed, Nat.not_lt.mp short⟩

end Sql

namespace Column

theorem checkName_eq_ok {v : Value} {name : Name} (checked : checkName v = .ok name) :
    Sql.IsIdentifier name.toText ∧ name.toText ∉ reservedNames := by
  simp only [checkName] at checked
  split at checked
  next => cases checked
  next identifier =>
    split at checked
    next => cases checked
    next free =>
      cases checked
      exact ⟨(Sql.checkIdentifier_eq_ok_iff.mp identifier).2, by simpa using free⟩

theorem declaredHead_eq_ok {parts : DeclaredParts} {label : Name} {type : FieldType}
    (head : declaredHead parts = .ok (label, type)) : ∃ v, checkName v = .ok label := by
  simp only [declaredHead] at head
  split at head
  next => cases head
  next =>
    split at head
    next => cases head
    next =>
      split at head
      next => cases head
      next checked =>
        split at head
        next => cases head
        next =>
          cases head
          exact ⟨_, checked⟩

/-- The label of a declared column passed the check of names, whether the column was described by a
mapping or handed in ready made. -/
theorem ofValue_eq_ok {declaration : Value} {column : Column}
    (declared : ofValue declaration = .ok column) : ∃ v, checkName v = .ok column.label := by
  simp only [ofValue] at declared
  split at declared
  next entries =>
    cases read : DeclaredParts.ofEntries ((Entries.find? entries (.text "name")).getD .null) []
        entries with
    | error fault => rw [read] at declared; cases declared
    | ok parts =>
        rw [read] at declared
        change ofParts parts = .ok column at declared
        simp only [ofParts] at declared
        cases head : declaredHead parts with
        | error fault => rw [head] at declared; cases declared
        | ok named =>
            obtain ⟨label, type⟩ := named
            rw [head] at declared
            change (declaredValidators label _ >>= fun validators =>
              pure (withParts label type validators parts)) = .ok column at declared
            cases given : declaredValidators label
                ((parts.find? .validators).getD (.tuple [])) with
            | error fault => rw [given] at declared; cases declared
            | ok validators =>
                rw [given] at declared
                cases declared
                exact declaredHead_eq_ok head
  next name type slots =>
    split at declared
    next traits _ =>
      simp only [ofReady] at declared
      split at declared
      next => cases declared
      next checked =>
        split at declared
        · cases declared
          exact ⟨_, checked⟩
        · cases declared
    next => cases declared
  next => cases declared

/-- Columns that declarations are read as have names that passed the check. -/
theorem checked_of_parsed {declarations : List Value} {columns : List Column} {column : Column}
    (parsed : declarations.map ofValue = columns.map .ok) (member : column ∈ columns) :
    Sql.IsIdentifier column.name ∧ column.name ∉ reservedNames := by
  have listed : Except.ok column ∈ declarations.map ofValue := by
    rw [parsed]
    exact List.mem_map_of_mem member
  obtain ⟨declaration, _, declared⟩ := List.mem_map.mp listed
  obtain ⟨v, checked⟩ := ofValue_eq_ok declared
  exact checkName_eq_ok checked

end Column

/-! ## Columns under construction -/

/-- The reports on a model's columns that ask to be kept current after the first that does. -/
def Event.ignoredAutoUpdates (model : Name) (columns : List Column) : List Event :=
  match columns.filter (·.isAutoUpdate) with
  | [] => []
  | first :: others =>
      others.map fun column => .autoUpdateIgnored model column.label first.label

theorem Event.level_ignoredAutoUpdates {model : Name} {columns : List Column} {event : Event}
    (member : event ∈ ignoredAutoUpdates model columns) : event.level = .warning := by
  simp only [ignoredAutoUpdates] at member
  split at member
  next => cases member
  next =>
    obtain ⟨column, _, rfl⟩ := List.mem_map.mp member
    rfl

/-- What a draft says of the declarations that were added to it. -/
structure TableDraft.Tells (model : Name) (declarations : List Value) (draft : TableDraft) :
    Prop where
  parsed : declarations.map Column.ofValue = draft.columns.map .ok
  key : draft.columns.filter (·.isPrimaryKey) = draft.key.toList
  autoUpdate : draft.autoUpdate = (draft.columns.filter (·.isAutoUpdate)).head?
  events : draft.events = Event.ignoredAutoUpdates model draft.columns

namespace TableDraft

theorem tells_empty (model : Name) : empty.Tells model [] where
  parsed := rfl
  key := rfl
  autoUpdate := rfl
  events := rfl

/-- One more declaration extends what a draft says by the column it is read as. -/
theorem Tells.add {model : Name} {check : StorageCheck} {declarations : List Value}
    {draft next : TableDraft} {declaration : Value} (tells : draft.Tells model declarations)
    (added : draft.add model check declaration = .ok next) :
    next.Tells model (declarations ++ [declaration]) := by
  obtain ⟨column, declared, added⟩ := add_eq_ok added
  obtain ⟨_, _, columns, key, autoUpdate, events⟩ := addColumn_eq_ok added
  have found := tells.autoUpdate
  constructor
  · rw [columns, List.map_append, List.map_append, tells.parsed]
    simp [declared]
  · rw [columns, List.filter_append, List.filter_singleton, tells.key]
    rcases nextKey_eq_ok key with ⟨same, unflagged⟩ | ⟨unset, isKey, flagged⟩
    · simp [same, unflagged]
    · simp [unset, isKey, flagged]
  · rw [autoUpdate, columns, List.filter_append, List.filter_singleton, nextAutoUpdate, found]
    cases column.isAutoUpdate with
    | true => cases draft.columns.filter (·.isAutoUpdate) <;> rfl
    | false => simp
  · -- The report on each later column names the first that asked to be kept current.
    rw [events, tells.events, columns, nextEvents, found]
    simp only [Event.ignoredAutoUpdates, List.filter_append, List.filter_singleton]
    cases draft.columns.filter (·.isAutoUpdate) with
    | nil => cases column.isAutoUpdate <;> rfl
    | cons first others => cases column.isAutoUpdate <;> simp

/-- A whole list of declarations extends it by their columns, up to the first that is refused. -/
theorem Tells.addAll {model : Name} {check : StorageCheck} {declarations : List Value}
    {draft : TableDraft} (tells : draft.Tells model declarations) (more : List Value)
    (accepted : (draft.addAll model check more).2 = none) :
    (draft.addAll model check more).1.Tells model (declarations ++ more) := by
  induction more generalizing draft declarations with
  | nil =>
      rw [List.append_nil]
      exact tells
  | cons declaration rest ih =>
      simp only [TableDraft.addAll] at accepted ⊢
      cases added : draft.add model check declaration with
      | error fault =>
          rw [added] at accepted
          cases accepted
      | ok next =>
          rw [added] at accepted
          have whole := ih (tells.add added) accepted
          rw [List.append_assoc] at whole
          exact whole

end TableDraft

/-! ## Columns by name -/

namespace Entries

/-- Entries under the labels of columns whose names differ are written one behind the other. -/
theorem insertAll_columns (value : Column → Value) {columns : List Column} {done : Entries}
    (distinct : (columns.map (·.name)).Nodup)
    (fresh : ∀ column ∈ columns, ¬ done.Sets column.name) :
    done.insertAll (columns.map fun column => (column.label.toValue, value column)) =
      done ++ columns.map fun column => (column.label.toValue, value column) := by
  induction columns generalizing done with
  | nil => exact (List.append_nil done).symm
  | cons column rest ih =>
      rw [List.map_cons, List.nodup_cons] at distinct
      have written := insert_of_not_sets (value column) column.label.text?_toValue
        (fresh column List.mem_cons_self)
      have later : ∀ other ∈ rest,
          ¬ (done ++ [(column.label.toValue, value column)]).Sets other.name := by
        intro other member sets
        rcases sets_append.mp sets with before | last
        · exact fresh other (List.mem_cons_of_mem column member) before
        · have same : column.name = other.name := by
            simpa [Sets, Column.name] using last
          exact distinct.1 (same ▸ List.mem_map_of_mem member)
      have whole := ih distinct.2 later
      rw [List.map_cons, insertAll, List.foldl_cons, written]
      rw [insertAll] at whole
      rw [whole, List.append_assoc]
      rfl

/-- The entry under a key is that of the first column which the key names. -/
theorem find?_columns (value : Column → Value) (columns : List Column) (key : Value) :
    find? (columns.map fun column => (column.label.toValue, value column)) key =
      (columns.find? fun column => key.text? = some column.name).map value := by
  have named : ∀ label : Name,
      Value.sameItem label.toValue key = decide (key.text? = some label.toText) := by
    intro label
    cases label <;> rfl
  rw [find?, List.find?_map, Option.map_map]
  simp only [Function.comp_def, named]
  rfl

end Entries

namespace Table

theorem columnAt?_eq (table : Table) (key : Value) :
    table.columnAt? key = table.columns.find? fun column => key.text? = some column.name := by
  rw [columnAt?]
  cases key.text? with
  | none => exact (List.find?_eq_none.mpr (by simp)).symm
  | some name => simp [column?, eq_comm]

/-- No column is found under a key just when it is the name of none. -/
theorem columnAt?_eq_none {table : Table} {key : Value} :
    table.columnAt? key = none ↔ ∀ column ∈ table.columns, key.text? ≠ some column.name := by
  simp [columnAt?_eq]

theorem typeMap_eq {table : Table} (distinct : table.columnNames.Nodup) :
    table.typeMap =
      table.columns.map fun column => (column.label.toValue, .fieldType column.type) := by
  have fresh : ∀ column ∈ table.columns, ¬ Entries.Sets [] column.name :=
    fun column _ => Entries.sets_nil column.name
  exact Entries.insertAll_columns (fun column => .fieldType column.type) distinct fresh

/-! ## The primary key -/

theorem primaryKeyText_of_key {table : Table} {column : Column} (isKey : table.key = some column) :
    table.primaryKeyText = column.name := by
  rw [primaryKeyText, primaryKey, isKey]
  rfl

section Key

variable {table : Table} (flagged : table.columns.filter (·.isPrimaryKey) = table.key.toList)

include flagged

theorem key_eq_some_iff {column : Column} :
    table.key = some column ↔ column ∈ table.columns ∧ column.isPrimaryKey = true := by
  rw [← Option.mem_toList, ← flagged, List.mem_filter]

theorem key_eq_none_iff :
    table.key = none ↔ ∀ column ∈ table.columns, column.isPrimaryKey = false := by
  rw [← Option.toList_eq_nil_iff, ← flagged, List.filter_eq_nil_iff]
  simp

/-- The empty text stands for no key, and no key has it as its name. -/
theorem primaryKeyText_eq_empty_iff {declarations : List Value}
    (parsed : declarations.map Column.ofValue = table.columns.map .ok) :
    table.primaryKeyText = "" ↔ table.key = none := by
  cases isKey : table.key with
  | none => simp [primaryKeyText, primaryKey, isKey]
  | some column =>
      have member := ((key_eq_some_iff flagged).mp isKey).1
      have present := (Column.checked_of_parsed parsed member).1.length_pos
      have nonempty : column.name ≠ "" := by
        intro empty
        rw [empty] at present
        cases present
      simp [primaryKeyText_of_key isKey, nonempty]

end Key

/-! ## The finished table -/

/-- What the operations on a model rely on of its table, the declarations being those of the
fields. -/
structure IsDeclaredBy (table : Table) (declarations : List Value) : Prop where
  parsed : declarations.map Column.ofValue = table.columns.map .ok
  names_nodup : table.columnNames.Nodup
  names_free : ∀ column ∈ table.columns, column.name ∉ Column.reservedNames
  columnAt?_label : ∀ column ∈ table.columns,
    table.columnAt? column.label.toValue = some column
  columnAt?_other : ∀ key, (∀ column ∈ table.columns, key.text? ≠ some column.name) →
    table.columnAt? key = none
  keys_typeMap : table.typeMap.keys = table.columns.map (·.label.toValue)
  find?_typeMap : ∀ key,
    table.typeMap.find? key = (table.columnAt? key).map (.fieldType ·.type)
  key_flagged : table.columns.filter (·.isPrimaryKey) = table.key.toList
  primaryKeyText_eq : ∀ column ∈ table.columns, column.isPrimaryKey = true →
    table.primaryKeyText = column.name
  primaryKeyText_eq_empty : table.primaryKeyText = "" ↔
    ∀ column ∈ table.columns, column.isPrimaryKey = false
  autoUpdate_first : table.autoUpdate = (table.columns.filter (·.isAutoUpdate)).head?
  autoUpdate_time : ∀ column, table.autoUpdate = some column →
    column.type = .timestamp ∧ column.default = .currentTime

/-- Whether the time that stamping adds is always what the clock shows, and is added just when the
column kept current is not set yet. Stamping never fails. -/
def StampsClock (table : Table) : Prop :=
  ∀ assignments environment,
    ((∀ column, table.autoUpdate = some column → assignments.Sets column.name) ∧
      table.stamp assignments environment = (.ok (.null, assignments), environment)) ∨
    ∃ column, table.autoUpdate = some column ∧ ¬ assignments.Sets column.name ∧
      table.stamp assignments environment =
        (.ok (.int environment.clock.now,
            assignments ++ [(column.label.toValue, .int environment.clock.now)]),
          { environment with clock := environment.clock.advance })

theorem Coherent.stampsClock {table : Table} (coherent : table.Coherent .standard) :
    table.StampsClock := by
  intro assignments environment
  cases found : table.autoUpdate with
  | none =>
      refine .inl ⟨?_, ?_⟩
      · intro column impossible
        cases impossible
      · rw [stamp, found]
        rfl
  | some column =>
      by_cases present : assignments.Sets column.name
      · refine .inl ⟨fun other same => by cases same; exact present, ?_⟩
        have has : assignments.has (.text column.name) = true :=
          (Entries.has_eq_true rfl).mpr present
        simp only [stamp, found, if_pos has]
        rfl
      · refine .inr ⟨column, rfl, present, ?_⟩
        have hasNot : ¬ assignments.has (.text column.name) = true :=
          fun has => present ((Entries.has_eq_true rfl).mp has)
        have time : column.resolveDefault = Evaluation.readClock := by
          rw [Column.resolveDefault, coherent.default_autoUpdate found]
        simp only [stamp, found, if_neg hasNot, time]
        rw [← Entries.insert_of_not_sets _ column.label.text?_toValue present]
        rfl

theorem declarations_eq_ok {model : Name} {fields : Value} {items : List Value}
    (declared : declarations model fields = .ok items) : fields.items = .ok items := by
  simp only [declarations] at declared
  split at declared
  case h_6 =>
    split at declared
    next => cases declared
    next => cases declared
    next found =>
      cases declared
      exact found
  all_goals cases declared

/-- The draft that an accepted table was finished from. -/
theorem exists_draft_of_build {name fields label : Value} {check : StorageCheck} {table : Table}
    (built : (build name fields check label).result = .ok table) :
    ∃ items draft, fields.items = .ok items ∧ draft.Tells table.modelLabel items ∧
      table = ofDraft table.modelLabel table.label draft ∧
      (build name fields check label).events = draft.events := by
  rw [build] at built ⊢
  split at built
  next => cases built
  next model tableLabel names =>
    split at built
    next => cases built
    next items declared =>
      have finished := ofDeclarations_eq_ok built
      have accepted : (TableDraft.empty.addAll model check items).2 = none := by
        simp only [ofDeclarations] at built
        split at built
        next => cases built
        next unrefused => exact unrefused
      have tells := (TableDraft.tells_empty model).addAll items accepted
      rw [List.nil_append] at tells
      subst finished
      exact ⟨items, _, declarations_eq_ok declared, tells, rfl, rfl⟩

theorem checkNames_eq_ok {name label : Value} {model tableLabel : Name}
    (named : checkNames name label = .ok (model, tableLabel)) :
    Sql.IsIdentifier model.toText ∧ Sql.IsIdentifier tableLabel.toText := by
  simp only [checkNames] at named
  split at named
  next => cases named
  next found =>
    split at named
    next => cases named
    next checked modelChecked =>
      split at named
      next => cases named
      next tableChecked =>
        cases named
        obtain ⟨isName, identifier⟩ := Sql.checkIdentifier_eq_ok_iff.mp modelChecked
        rw [modelLabel?, isName] at found
        cases (Option.filter_eq_some_iff.mp found).1
        exact ⟨identifier, (Sql.checkIdentifier_eq_ok_iff.mp tableChecked).2⟩

/-- The names of an accepted table and its model are identifiers. -/
theorem isIdentifier_of_build {name fields label : Value} {check : StorageCheck} {table : Table}
    (built : (build name fields check label).result = .ok table) :
    Sql.IsIdentifier table.model ∧ Sql.IsIdentifier table.name := by
  rw [build] at built
  split at built
  next => cases built
  next named =>
    split at built
    next => cases built
    next =>
      rw [ofDeclarations_eq_ok built]
      exact checkNames_eq_ok named

/-- Every table that is accepted under the rules of this library has as columns what its
declarations are read as, knows each by its name alone, has the one flagged column as key and the
first column that asks for it kept current, which is a timestamp that starts with the current time.
What is reported is one warning for each further column that asks for it. -/
theorem isDeclaredBy_of_build {name fields label : Value} {table : Table}
    (built : (build name fields .standard label).result = .ok table) :
    ∃ items, fields.items = .ok items ∧ table.IsDeclaredBy items ∧ table.StampsClock ∧
      (build name fields .standard label).events =
        Event.ignoredAutoUpdates table.modelLabel table.columns ∧
      ∀ event ∈ (build name fields .standard label).events, event.level = .warning := by
  have coherent := coherent_of_build built
  obtain ⟨items, draft, listed, tells, finished, events⟩ := exists_draft_of_build built
  have columns : draft.columns = table.columns := by rw [finished]; rfl
  have parsed : items.map Column.ofValue = table.columns.map .ok := by
    rw [tells.parsed, columns]
  have flagged : table.columns.filter (·.isPrimaryKey) = table.key.toList := by
    rw [← columns, tells.key, finished]
    rfl
  have first : table.autoUpdate = (table.columns.filter (·.isAutoUpdate)).head? := by
    rw [← columns, ← tells.autoUpdate, finished]
    rfl
  have reported : (build name fields .standard label).events =
      Event.ignoredAutoUpdates table.modelLabel table.columns := by
    rw [events, tells.events, columns]
  have declaredBy : table.IsDeclaredBy items :=
    { parsed
      names_nodup := coherent.names_nodup
      names_free := fun column member => (Column.checked_of_parsed parsed member).2
      columnAt?_label := by
        intro column member
        rw [columnAt?, column.label.text?_toValue]
        exact coherent.column?_name member
      columnAt?_other := fun key => columnAt?_eq_none.mpr
      keys_typeMap := by
        rw [typeMap_eq coherent.names_nodup, Entries.keys, List.map_map]
        rfl
      find?_typeMap := by
        intro key
        rw [typeMap_eq coherent.names_nodup, columnAt?_eq]
        exact Entries.find?_columns (fun column => .fieldType column.type) table.columns key
      key_flagged := flagged
      primaryKeyText_eq := fun column member isKey =>
        primaryKeyText_of_key ((key_eq_some_iff flagged).mpr ⟨member, isKey⟩)
      primaryKeyText_eq_empty := (primaryKeyText_eq_empty_iff flagged parsed).trans
        (key_eq_none_iff flagged)
      autoUpdate_first := first
      autoUpdate_time := fun column => coherent.timestamp_autoUpdate }
  refine ⟨items, listed, declaredBy, coherent.stampsClock, reported, ?_⟩
  intro event member
  rw [reported] at member
  exact Event.level_ignoredAutoUpdates member

end Table

/-- A ready made column for examples. -/
def titleColumn : Column :=
  { ColumnTraits.standard with label := .text "title", type := .string }

/-- The declaration of a column that asks to be kept current, for examples. -/
def currentField (name spelling : String) : Value :=
  .dict [(.text "name", .text name), (.text "type", .text "timestamp"),
    (.text "default", .text "now"), (.text spelling, .int 1)]

/-- Declarations of both sorts and in several spellings, two of them with a column to be kept
current, for examples. -/
def postFields : List Value :=
  [.dict [(.text "name", .text "id"), (.text "type", .text "bigint"),
      (.text "isPrimaryKey", .bool true)],
    titleColumn.toValue, currentField "changed" "autoUpdate", currentField "seen" "auto_update"]

/-- Posts are found by their key, are kept current in the first of the two columns, and one warning
names the other. -/
theorem isDeclaredBy_of_build_posts :
    ∃ table, (Table.build (.text "BlogPost") (.list postFields) .standard .null).result =
        .ok table ∧
      table.IsDeclaredBy postFields ∧ table.StampsClock ∧ table.name = "blog_post" ∧
      table.primaryKeyText = "id" ∧ table.autoUpdate.map Column.name = some "changed" ∧
      (Table.build (.text "BlogPost") (.list postFields) .standard .null).events =
        [.autoUpdateIgnored (.text "BlogPost") (.text "seen") (.text "changed")] := by
  have built : ∃ table,
      (Table.build (.text "BlogPost") (.list postFields) .standard .null).result = .ok table :=
    ⟨_, rfl⟩
  obtain ⟨table, built⟩ := built
  obtain ⟨items, listed, declared, stamps, reported, _⟩ := Table.isDeclaredBy_of_build built
  cases listed
  cases built
  exact ⟨_, rfl, declared, stamps, rfl, rfl, rfl, reported⟩

end RowMapper
