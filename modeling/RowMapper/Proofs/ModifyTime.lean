import RowMapper.Proofs.KeyAssignment
import RowMapper.Proofs.Loading
import RowMapper.Proofs.UnsetMarker

/-!
# The time of an update

An update of a record keeps the column kept current up to date only where the record has no value
for it: then the time is bound for the column, stays in the record and is reported. A value that is
there already, be it from the defaults of a new record, from a row or from an earlier update, is
sent again as it is, and no time is reported.
-/

namespace RowMapper

/-- Whether a statement is an update that sets a column to a value. -/
def Statement.Binds (statement : Statement) (table : Table) (name : String) (bound : Value) :
    Prop :=
  ∃ stored predicate, update table stored predicate = .ok statement ∧
    Entries.find? stored (.text name) = some bound

/-! ## The value under the name of a column -/

namespace Table

variable {table : Table} {check : StorageCheck}

/-- Conversion keeps the value of a column under its name, in the form in which it is stored. -/
theorem find?_toStorage (coherent : table.Coherent check) {column : Column}
    (member : column ∈ table.columns) {assignments stored : Entries}
    (converted : table.toStorage assignments = .ok stored) {v : Value}
    (given : Entries.find? assignments (.text column.name) = some v) :
    ∃ bound, column.toStorage v = .ok bound ∧
      Entries.find? stored (.text column.name) = some bound := by
  induction assignments generalizing stored with
  | nil => cases given
  | cons entry rest ih =>
      obtain ⟨key, first⟩ := entry
      obtain ⟨bound, others, rfl, later, converts⟩ := toStorage_cons_eq_ok converted
      rw [Entries.find?_text_cons] at given
      rw [Entries.find?_text_cons]
      by_cases named : key.text? = some column.name
      · rw [if_pos named] at given ⊢
        cases given
        have found : table.columnAt? key = some column := by
          rw [columnAt?, named]
          exact coherent.column?_name member
        exact ⟨bound, converts column found, rfl⟩
      · rw [if_neg named] at given ⊢
        exact ih later given

/-- A time is stored as it is in the column kept current. -/
theorem Coherent.toStorage_time (coherent : table.Coherent .standard) {column : Column}
    (found : table.autoUpdate = some column) (now : Int) :
    column.toStorage (.int now) = .ok (.int now) := by
  simp only [Column.toStorage, (coherent.timestamp_autoUpdate found).1, Value.isNull]
  rfl

end Table

namespace Record

variable {record : Record} {table : Table}

/-- A record that is updated has all its fields. -/
theorem exists_get_of_updateValues {columns : List Column} {values : Entries}
    (gathered : record.updateValues table columns = .ok values) {column : Column}
    (member : column ∈ columns) : ∃ v, record.get column.name = .ok v := by
  induction columns generalizing values with
  | nil => cases member
  | cons first rest ih =>
      obtain ⟨v, others, read, later, _⟩ := updateValues_cons_eq_ok gathered
      rcases List.mem_cons.mp member with rfl | inRest
      · exact ⟨v, read⟩
      · exact ih later inRest

/-- An update assigns a set field its value. -/
theorem find?_updateValues {columns : List Column} {values : Entries}
    (gathered : record.updateValues table columns = .ok values) {column : Column}
    (member : column ∈ columns) {v : Value} (read : record.get column.name = .ok v)
    (set : v ≠ .unset) (notKey : some column.name ≠ table.primaryKey) :
    Entries.find? values (.text column.name) = some v := by
  induction columns generalizing values with
  | nil => cases member
  | cons first rest ih =>
      obtain ⟨w, others, readFirst, later, parts⟩ := updateValues_cons_eq_ok gathered
      by_cases same : first.name = column.name
      · rw [same] at readFirst parts
        rw [read] at readFirst
        cases readFirst
        rcases parts with ⟨_, isKey | unset⟩ | ⟨rfl, _⟩
        · exact absurd isKey notKey
        · exact absurd unset set
        · rw [Entries.find?_text_cons, Value.text?, if_pos rfl]
      · have inRest : column ∈ rest := by
          rcases List.mem_cons.mp member with rfl | inRest
          · exact absurd rfl same
          · exact inRest
        have found := ih later inRest
        rcases parts with ⟨rfl, _⟩ | ⟨rfl, _⟩
        · exact found
        · rw [Entries.find?_text_cons, Value.text?,
            if_neg fun named => same (Option.some.inj named)]
          exact found

/-- Refreshed assignments differ in the record's own dictionary only. -/
theorem find?_refresh (assignments : Entries) (name : String) :
    Entries.find? (record.refresh assignments) (.text name) =
      (Entries.find? assignments (.text name)).map fun v =>
        if name = "__dict__" then .dict record.entries else v := by
  induction assignments with
  | nil => rfl
  | cons entry rest ih =>
      obtain ⟨key, v⟩ := entry
      simp only [refresh, List.map_cons] at ih ⊢
      rw [Entries.find?_text_cons, Entries.find?_text_cons, ih]
      by_cases named : key.text? = some name
      · simp [named]
      · simp [named]

/-! ## One update -/

variable {model : Model} {column : Column}

/-- Whether an update of a record refreshes a column: the record has no value for it, or it is the
key, which no update assigns from the record. -/
def Refreshes (record : Record) (model : Model) (column : Column) : Prop :=
  record.get column.name = .ok .unset ∨ model.table.key = some column

/-- The assignments of an update set a column just when it is not refreshed. -/
theorem sets_updateValues_iff (coherent : model.table.Coherent .standard)
    (member : column ∈ model.table.columns) {values : Entries}
    (gathered : record.updateValues model.table model.table.columns = .ok values) :
    values.Sets column.name ↔ ¬ record.Refreshes model column := by
  rw [Refreshes, ← coherent.primaryKey_eq_iff member, not_or]
  constructor
  · intro ⟨entry, inValues, named⟩
    obtain ⟨other, _, text, got, set, notKey⟩ := (mem_updateValues gathered).mp inValues
    rw [text] at named
    rw [Option.some.inj named] at got notKey
    refine ⟨?_, notKey⟩
    rw [got]
    intro unset
    exact set (Except.ok.inj unset)
  · intro ⟨set, notKey⟩
    obtain ⟨v, read⟩ := exists_get_of_updateValues gathered member
    have isSet : v ≠ .unset := by
      intro unset
      rw [unset] at read
      exact set read
    exact ⟨(.text column.name, v),
      (mem_updateValues gathered).mpr ⟨column, member, rfl, read, isSet, notKey⟩, rfl⟩

/-- A value that is kept is assigned as it is. -/
theorem find?_of_kept (coherent : model.table.Coherent .standard)
    (member : column ∈ model.table.columns) {values : Entries}
    (gathered : record.updateValues model.table model.table.columns = .ok values)
    (kept : ¬ record.Refreshes model column) :
    ∃ v, record.get column.name = .ok v ∧
      Entries.find? (record.refresh values) (.text column.name) = some v := by
  obtain ⟨set, notKey⟩ := not_or.mp kept
  rw [← coherent.primaryKey_eq_iff member] at notKey
  obtain ⟨v, read⟩ := exists_get_of_updateValues gathered member
  have isSet : v ≠ .unset := by
    intro unset
    rw [unset] at read
    exact set read
  refine ⟨v, read, ?_⟩
  rw [find?_refresh, find?_updateValues gathered member read isSet notKey]
  by_cases isDictionary : column.name = "__dict__"
  · rw [isDictionary] at read
    cases read
    simp [isDictionary]
  · simp [isDictionary]

/-- A time that is stamped on assignments is assigned, and the record takes it over. -/
theorem find?_of_stamped (found : model.table.autoUpdate = some column) {values : Entries}
    (absent : ¬ values.Sets column.name) {now : Int} {last : Record}
    (adopts : record.AdoptsAs model (.int now) last) :
    Entries.find? (last.refresh (values ++ [(column.label.toValue, .int now)]))
      (.text column.name) = some (.int now) := by
  have plain : column.name ≠ "__dict__" := by
    rcases adopts with ⟨_, impossible | missing⟩ | ⟨other, found', _, assigned⟩
    · cases impossible
    · rw [found] at missing
      cases missing
    · rw [found] at found'
      cases found'
      exact (assign_int_eq_ok assigned).2.1
  have named : column.label.toValue.text? = some column.name := column.label.text?_toValue
  rw [find?_refresh, Entries.find?_append_of_not_sets absent, Entries.find?_text_cons,
    if_pos named]
  simp [plain]

/-- What an update assigns to the column kept current: the time where the column is refreshed, and
else the record's value. -/
theorem WritesAs.exists_assigned (coherent : model.table.Coherent .standard)
    (found : model.table.autoUpdate = some column) {time : Value} {statement : Statement}
    {last : Record} (writes : record.WritesAs model time statement last) :
    ∃ assignments predicate v, model.updateStatement assignments predicate = .ok statement ∧
      Entries.find? assignments (.text column.name) = some v ∧
      (record.Refreshes model column → ∃ now, time = .int now ∧ v = .int now) ∧
      (¬ record.Refreshes model column → time = .null ∧ record.get column.name = .ok v) := by
  obtain ⟨values, assignments, predicate, gathered, stamps, adopts, built⟩ := writes
  have member := (coherent.autoUpdate_mem column found).1
  rcases stamps.eq_or_append with ⟨isNull, rfl, already⟩ | ⟨other, environment, found', absent,
    resolved, rfl⟩
  · have kept := (sets_updateValues_iff coherent member gathered).mp (already column found)
    have same : last = record := by
      rcases adopts with ⟨same, _⟩ | ⟨_, _, notNull, _⟩
      · exact same
      · exact absurd isNull notNull
    obtain ⟨v, read, given⟩ := find?_of_kept coherent member gathered kept
    rw [same] at built
    exact ⟨_, predicate, v, built, given, fun refreshed => absurd refreshed kept,
      fun _ => ⟨isNull, read⟩⟩
  · rw [found] at found'
    cases found'
    rw [Column.resolveDefault, coherent.default_autoUpdate found] at resolved
    cases resolved
    refine ⟨_, predicate, _, built, find?_of_stamped found absent adopts,
      fun _ => ⟨_, rfl, rfl⟩, fun kept => ?_⟩
    exact absurd ((sets_updateValues_iff coherent member gathered).mpr kept) absent

/-- What an update that changed rows bound for the column kept current, and what it reports. -/
def ReportsTime (record : Record) (model : Model) (column : Column) (statement : Statement)
    (outcome : UpdateOutcome) : Prop :=
  ∃ bound, statement.Binds model.table column.name bound ∧
    (record.Refreshes model column →
      ∃ now, outcome.modifyTime = .int now ∧ bound = .int now) ∧
    (¬ record.Refreshes model column → outcome.modifyTime = .null ∧
      ∃ v, record.get column.name = .ok v ∧ column.toStorage v = .ok bound)

/-- The time is bound and reported where the column is refreshed, and only there. -/
theorem EndsUpdate.reportsTime (coherent : model.table.Coherent .standard)
    (found : model.table.autoUpdate = some column) {request : Request}
    {reply : Except Fault Reply} {outcome : UpdateOutcome} {last : Work}
    (ends : record.EndsUpdate model request reply (.ok outcome) last)
    (updated : outcome.updated = true) :
    record.ReportsTime model column request.statement outcome := by
  obtain ⟨_, time, writes, reported, _⟩ := ends
  obtain ⟨assignments, predicate, v, built, given, refreshed, kept⟩ :=
    writes.exists_assigned coherent found
  obtain ⟨stored, converted, updates⟩ := Model.updateStatement_eq_ok built
  obtain ⟨bound, converts, holds⟩ :=
    Table.find?_toStorage coherent (coherent.autoUpdate_mem column found).1 converted given
  have reports : outcome.modifyTime = time := by
    rw [reported outcome rfl, updated]
    rfl
  refine ⟨bound, ⟨stored, predicate, updates, holds⟩, ?_, ?_⟩
  · intro refreshes
    obtain ⟨now, isTime, rfl⟩ := refreshed refreshes
    rw [coherent.toStorage_time found now] at converts
    exact ⟨now, reports.trans isTime, (Except.ok.inj converts).symm⟩
  · intro keeps
    obtain ⟨isNull, read⟩ := kept keeps
    exact ⟨reports.trans isNull, v, read, converts⟩

/-! ## Runs of insertions and updates -/

/-- What insertions and updates of a record lead to, in any order and with any answers of the
backend. In between anything may happen to the session and to the record but for the value under one
name. -/
inductive Course (model : Model) (name : String) (first : Work) : Work → Prop where
  | start : Course model name first first
  | save {work : Work} (course : Course model name first work) (validated : Bool) :
      Course model name first (Record.save model validated work).2
  | update {work : Work} (course : Course model name first work) (validated : Bool) :
      Course model name first (Record.update model validated work).2
  | between {work next : Work} (course : Course model name first work)
      (same : next.record.value? name = work.record.value? name) : Course model name first next

/-- Whether the value under a name is anything but the unset marker. -/
def IsStamped (record : Record) (name : String) : Prop :=
  record.value? name ≠ some .unset

theorem IsStamped.get_ne {name : String} (stamped : record.IsStamped name) :
    record.get name ≠ .ok .unset :=
  fun unset => stamped (get_eq_ok.mp unset)

theorem isStamped_dictionary (record : Record) : record.IsStamped "__dict__" := by
  intro unset
  cases unset

/-- A time that was assigned to a column is there. -/
theorem isStamped_of_assign_int {next : Record} {label : Name} {now : Int} {source : Option Nat}
    (assigned : record.assign label (.int now) source = .ok next) :
    next.IsStamped label.toText := by
  obtain ⟨rfl, notDictionary, notReferences⟩ := assign_int_eq_ok assigned
  rw [IsStamped, value?_put_self record _ _ _ notDictionary notReferences]
  intro impossible
  cases impossible

section

variable (coherent : model.table.Coherent .standard)
  (found : model.table.autoUpdate = some column) (notKey : model.table.key ≠ some column)
  (plainKey : ∀ key, model.table.key = some key → key.name ≠ "__dict__")

include coherent found notKey plainKey

/-- A generated key leaves the column kept current alone. -/
theorem KeyedTo.isStamped {keyed : Record} (becomes : record.KeyedTo model keyed)
    (stamped : record.IsStamped column.name) : keyed.IsStamped column.name := by
  rcases becomes with rfl | ⟨key, v, isKey, _, _, assigned⟩
  · exact stamped
  · obtain ⟨rfl, _⟩ := assign_eq_ok assigned (plainKey key isKey)
    have different : column.name ≠ key.label.toText := by
      intro same
      apply notKey
      rw [isKey, coherent.eq_of_name_eq (coherent.autoUpdate_mem column found).1
        (coherent.key_mem key isKey).1 same]
    by_cases isDictionary : column.name = "__dict__"
    · rw [isDictionary]
      exact isStamped_dictionary _
    · rw [IsStamped, value?_put_of_ne record v none different isDictionary]
      exact stamped

/-- An insertion stamps the record and lets no stamp go. -/
theorem InsertsAs.isStamped {statement : Statement} {last : Record}
    (inserts : record.InsertsAs model statement last) : last.IsStamped column.name := by
  obtain ⟨stamped, _, becomes, _, _, keyed⟩ := inserts
  apply keyed.isStamped coherent found notKey plainKey
  rcases becomes with ⟨rfl, set⟩ | ⟨other, time, environment, found', _, resolved, assigned⟩
  · intro unset
    exact set column found (get_eq_ok.mpr unset)
  · rw [found] at found'
    cases found'
    rw [Column.resolveDefault, coherent.default_autoUpdate found] at resolved
    cases resolved
    exact isStamped_of_assign_int assigned

/-- However an insertion ends, a stamp stays. -/
theorem InsertedTo.isStamped {inserted : Record} (becomes : record.InsertedTo model inserted)
    (isStamped : record.IsStamped column.name) : inserted.IsStamped column.name := by
  obtain ⟨stamped, stamps, keyed⟩ := becomes
  apply keyed.isStamped coherent found notKey plainKey
  rcases stamps with rfl | ⟨other, _, _, found', unset, _⟩
  · exact isStamped
  · rw [found] at found'
    cases found'
    exact absurd unset isStamped.get_ne

omit notKey plainKey in
/-- However an update ends, a stamp stays. -/
theorem UpdatedTo.isStamped {updated : Record} (becomes : record.UpdatedTo model updated)
    (isStamped : record.IsStamped column.name) : updated.IsStamped column.name := by
  rcases becomes with rfl | ⟨values, time, assignments, _, stamps, adopts⟩
  · exact isStamped
  rcases adopts with rfl | ⟨other, found', notNull, assigned⟩
  · exact isStamped
  · rw [found] at found'
    cases found'
    rcases stamps.time_eq coherent with rfl | ⟨now, rfl⟩
    · cases notNull
    · exact isStamped_of_assign_int assigned

/-- A stamp outlasts every run of insertions and updates. -/
theorem Course.isStamped {first last : Work} (course : Course model column.name first last)
    (stamped : first.record.IsStamped column.name) : last.record.IsStamped column.name := by
  induction course with
  | start => exact stamped
  | @save work course validated ih =>
      have becomes := ((sends_save work.record model validated).sendsOnly work rfl).1
      exact becomes.isStamped coherent found notKey plainKey ih
  | @update work course validated ih =>
      have becomes := ((sends_update work.record model validated).sendsOnly work rfl).1
      exact becomes.isStamped coherent found ih
  | between course same ih =>
      rw [IsStamped, same]
      exact ih

/-- An insertion that made a row leaves the record stamped. -/
theorem isStamped_of_save {validated : Bool} {session : Session} {next : Work}
    (saved : save model validated ⟨record, session⟩ = (.ok true, next)) :
    next.record.IsStamped column.name := by
  rcases record.asksOnce_save model validated session with ⟨_, alone⟩ | ⟨request, _, ends⟩
  · rw [saved] at alone
    cases alone true rfl
  · rw [saved] at ends
    exact ends.2.1.isStamped coherent found notKey plainKey

omit notKey plainKey in
/-- An update that changed rows leaves the record stamped. -/
theorem isStamped_of_update {validated : Bool} {session : Session} {next : Work}
    {outcome : UpdateOutcome}
    (ran : update model validated ⟨record, session⟩ = (.ok outcome, next))
    (updated : outcome.updated = true) : next.record.IsStamped column.name := by
  rcases record.asksOnce_update model validated session with ⟨_, alone⟩ | ⟨request, _, ends⟩
  · rw [ran] at alone
    rw [alone outcome rfl] at updated
    cases updated
  · rw [ran] at ends
    obtain ⟨_, time, writes, _⟩ := ends
    have becomes : record.UpdatedTo model next.record := by
      have ends := ((sends_update record model validated).sendsOnly ⟨record, session⟩ rfl).1
      rw [ran] at ends
      exact ends
    by_cases unset : record.value? column.name = some .unset
    · obtain ⟨_, _, _, _, _, refreshed, _⟩ := writes.exists_assigned coherent found
      obtain ⟨now, rfl, _⟩ := refreshed (.inl (get_eq_ok.mpr unset))
      obtain ⟨_, _, _, _, _, adopts, _⟩ := writes
      rcases adopts with ⟨_, impossible | missing⟩ | ⟨other, found', _, assigned⟩
      · cases impossible
      · rw [found] at missing
        cases missing
      · rw [found] at found'
        cases found'
        exact isStamped_of_assign_int assigned
    · exact becomes.isStamped coherent found unset

end

/-- A new record is stamped by its defaults, unless it is given something else. -/
theorem isStamped_of_make (coherent : model.table.Coherent .standard)
    (found : model.table.autoUpdate = some column) (isPublic : model.table.HasPublicNames)
    {values : Value} {named : List (String × Value)} {given : Entries}
    (gives : givenValues values named = .ok given)
    (notGiven : given.find? (.text column.name) = none) {session next : Session} {made : Record}
    (makes : make model values named true session = (.ok made, next)) :
    made.IsStamped column.name := by
  rw [make] at makes
  obtain ⟨entries, first, parsed, makes⟩ := bind_eq_ok makes
  obtain ⟨parsed, rfl⟩ := Action.ofOperand_eq_ok parsed
  rw [gives] at parsed
  cases parsed
  obtain ⟨current, second, read, makes⟩ := bind_eq_ok makes
  cases read
  have filled := Action.inEnvironment_eq_ok makes
  have member := (coherent.autoUpdate_mem column found).1
  obtain ⟨start, before, after, started, holds⟩ :=
    (value?_of_fillFields coherent.names_nodup isPublic (Prod.ext filled rfl)).1 column member
  simp only [initialAttribute, notGiven, if_true] at started
  obtain ⟨time, _, resolved, started⟩ := bind_eq_ok started
  cases started
  rw [Column.resolveDefault, coherent.default_autoUpdate found] at resolved
  cases resolved
  rw [IsStamped, holds]
  intro impossible
  cases impossible

end Record

/-- When an update reports its time. Under the rules of this library an update of a record that
changed rows binds the time for the column kept current, and reports it, where the record has no
value there or the column is the key; else it binds the record's value and reports no time. Once
there is a value it stays through every run of insertions and updates, however they end, so none of
their updates reports a time; and there is a value from the first insertion or update that got
through, and from the start in a record that was made with its defaults. -/
theorem modifyTime_reported_iff_refreshed {name fields label : Value} {model : Model}
    {column : Column}
    (built : (Table.build name fields .standard label).result = .ok model.table)
    (found : model.table.autoUpdate = some column) :
    (∀ record validated session outcome,
      (Record.update model validated ⟨record, session⟩).1 = .ok outcome →
      outcome.updated = true →
        ∃ request, session.Asks (some request)
            (Record.update model validated ⟨record, session⟩).2.session ∧
          record.ReportsTime model column request.statement outcome) ∧
    (model.table.key ≠ some column →
      (∀ key, model.table.key = some key → key.name ≠ "__dict__") →
        (∀ first last, Record.Course model column.name first last →
          first.record.IsStamped column.name →
            last.record.IsStamped column.name ∧ ∀ validated outcome,
              (Record.update model validated last).1 = .ok outcome →
              outcome.updated = true → outcome.modifyTime = .null) ∧
        (∀ work next validated, Record.save model validated work = (.ok true, next) →
          next.record.IsStamped column.name) ∧
        ∀ work next validated outcome, Record.update model validated work = (.ok outcome, next) →
          outcome.updated = true → next.record.IsStamped column.name) ∧
    (model.table.HasPublicNames → ∀ values named given,
      Record.givenValues values named = .ok given → given.find? (.text column.name) = none →
        ∀ session made next, Record.make model values named true session = (.ok made, next) →
          made.IsStamped column.name) := by
  have coherent := Table.coherent_of_build built
  have step : ∀ (record : Record) (validated : Bool) (session : Session) (outcome : UpdateOutcome),
      (Record.update model validated ⟨record, session⟩).1 = .ok outcome →
      outcome.updated = true →
        ∃ request, session.Asks (some request)
            (Record.update model validated ⟨record, session⟩).2.session ∧
          record.ReportsTime model column request.statement outcome := by
    intro record validated session outcome ran updated
    rcases record.asksOnce_update model validated session with ⟨_, alone⟩ | ⟨request, asks, ends⟩
    · rw [alone outcome ran] at updated
      cases updated
    · rw [ran] at ends
      exact ⟨request, asks, ends.reportsTime coherent found updated⟩
  refine ⟨step, ?_, ?_⟩
  · intro notKey plainKey
    refine ⟨?_, ?_, ?_⟩
    · intro first last course stamped
      have stays := course.isStamped coherent found notKey plainKey stamped
      refine ⟨stays, ?_⟩
      intro validated outcome ran updated
      obtain ⟨request, _, bound, _, _, kept⟩ :=
        step last.record validated last.session outcome ran updated
      exact (kept (not_or.mpr ⟨stays.get_ne, notKey⟩)).1
    · intro work next validated saved
      exact Record.isStamped_of_save coherent found notKey plainKey saved
    · intro work next validated outcome ran updated
      exact Record.isStamped_of_update coherent found ran updated
  · intro isPublic values named given gives notGiven session made next makes
    exact Record.isStamped_of_make coherent found isPublic gives notGiven makes

theorem articles_hasPublicNames : articles.HasPublicNames := by decide

/-- A new article as its constructor makes it from a key and a note. -/
def newArticle : Record :=
  ⟨"Article", [(.text "id", ⟨.int 1, none⟩), (.text "note", ⟨.text "first", none⟩),
    (.text "touched", ⟨.int 1700000000000, none⟩)], []⟩

/-- A new article has a time, and no update of it reports another. -/
theorem modifyTime_reported_iff_refreshed_articles :
    newArticle.IsStamped "touched" ∧ ∀ last,
      Record.Course ⟨articles, none⟩ "touched" ⟨newArticle, newSession⟩ last →
        ∀ validated outcome, (Record.update ⟨articles, none⟩ validated last).1 = .ok outcome →
          outcome.updated = true → outcome.modifyTime = .null := by
  obtain ⟨_, runs, made⟩ := @modifyTime_reported_iff_refreshed _ _ _ ⟨articles, none⟩ touchedColumn
    articles_built rfl
  have stamped : newArticle.IsStamped "touched" :=
    made articles_hasPublicNames (.dict [(.text "id", .int 1), (.text "note", .text "first")]) [] _
      rfl rfl newSession newArticle newSession rfl
  have notKey : articles.key ≠ some touchedColumn := by
    intro impossible
    cases impossible
  have plainKey : ∀ key, articles.key = some key → key.name ≠ "__dict__" := by
    intro key isKey
    cases isKey
    decide
  refine ⟨stamped, ?_⟩
  intro last course
  exact ((runs notKey plainKey).1 _ last course stamped).2

/-- The first update of a new article changes the row and reports no time. -/
theorem new_article_update_reports_no_time :
    (Record.make ⟨articles, none⟩
        (.dict [(.text "id", .int 1), (.text "note", .text "first")]) [] true newSession).1 =
          .ok newArticle ∧
      (Record.update ⟨articles, none⟩ true ⟨newArticle, newSession⟩).1 = .ok ⟨true, .null⟩ ∧
      (Record.update ⟨articles, none⟩ true ⟨newArticle, newSession⟩).2.session.calls =
        [.execute "UPDATE `articles` SET `note`=?, `touched`=? WHERE `id`=?"
          [.text "first", .int 1700000000000, .int 1]] :=
  ⟨rfl, rfl, rfl⟩

end RowMapper
