import RowMapper.Proofs.ModifyTime
import RowMapper.Proofs.TwoRuns
import RowMapper.Proofs.WrittenFields

/-!
# The update of a record as an update of the rows of its key

A record is updated as the rows of its key are with the set fields of the record: the backend is
given the same statement, and the outcome is the same. The two gather their assignments in different
ways, once from the columns of the table and once from the entries of a dictionary, and spell the
names of the columns differently. Statements do not depend on the spelling. Beside the rows the
record changes as well, which takes over the time that was added to its fields.
-/

namespace RowMapper

/-! ## Spelling -/

/-- A value in its plain spelling: texts are told by what they stand for. -/
def Value.spelled (v : Value) : Value :=
  match v.text? with
  | some s => .text s
  | none => v

namespace Value

theorem spelled_of_text? {v : Value} {s : String} (text : v.text? = some s) :
    v.spelled = .text s := by
  rw [spelled, text]

@[simp] theorem text?_spelled (v : Value) : v.spelled.text? = v.text? := by
  cases text : v.text? with
  | none => rw [spelled, text]; exact text
  | some s => rw [spelled_of_text? text, text?]

@[simp] theorem spelled_spelled (v : Value) : v.spelled.spelled = v.spelled := by
  cases text : v.text? with
  | none =>
      have same : v.spelled = v := by rw [spelled, text]
      rw [same, same]
  | some s =>
      have plain : (Value.text s).text? = some s := rfl
      rw [spelled_of_text? text, spelled_of_text? plain]

@[simp] theorem asName_spelled (v : Value) : v.spelled.asName = v.asName := by
  cases text : v.text? with
  | none => rw [spelled, text]
  | some s =>
      have plain : (Value.text s).text? = some s := rfl
      simp only [spelled_of_text? text, asName, escapable, text, plain]

end Value

namespace Entries

/-- Entries with their keys in plain spelling. -/
def spelled (entries : Entries) : Entries :=
  entries.map fun entry => (entry.1.spelled, entry.2)

@[simp] theorem keys_spelled (entries : Entries) :
    entries.spelled.keys = entries.keys.map Value.spelled := by
  simp [spelled, keys]

@[simp] theorem values_spelled (entries : Entries) : entries.spelled.values = entries.values := by
  simp [spelled, values]

@[simp] theorem isEmpty_spelled (entries : Entries) : entries.spelled.isEmpty = entries.isEmpty :=
  List.isEmpty_map

theorem spelled_spelled (entries : Entries) : entries.spelled.spelled = entries.spelled := by
  simp [spelled]

theorem spelled_append (before after : Entries) :
    (before ++ after).spelled = before.spelled ++ after.spelled :=
  List.map_append

theorem sets_spelled {entries : Entries} {name : String} :
    entries.spelled.Sets name ↔ entries.Sets name := by
  simp only [Sets, spelled, List.mem_map, exists_exists_and_eq_and, Value.text?_spelled]

/-- Entries that differ in their spelling only set the same names. -/
theorem sets_congr_of_spelled {entries others : Entries} (same : entries.spelled = others.spelled)
    (name : String) : entries.Sets name ↔ others.Sets name := by
  rw [← sets_spelled, same, sets_spelled]

end Entries

namespace Statement

@[simp] theorem quotedNames_spelled (keys : List Value) :
    quotedNames (keys.map Value.spelled) = quotedNames keys := by
  induction keys with
  | nil => rfl
  | cons key rest ih => rw [List.map_cons, quotedNames, quotedNames, Value.asName_spelled, ih]

@[simp] theorem update_spelled (table : Table) (assignments : Entries) (predicate : Predicate) :
    update table assignments.spelled predicate = update table assignments predicate := by
  simp only [update, Entries.isEmpty_spelled, Entries.keys_spelled, quotedNames_spelled,
    Entries.values_spelled]

end Statement

namespace Table

@[simp] theorem columnAt?_spelled (table : Table) (key : Value) :
    table.columnAt? key.spelled = table.columnAt? key := by
  rw [columnAt?, columnAt?, Value.text?_spelled]

theorem toStorage_spelled (table : Table) (assignments : Entries) :
    table.toStorage assignments.spelled = (table.toStorage assignments).map Entries.spelled := by
  induction assignments with
  | nil => rfl
  | cons entry rest ih =>
      obtain ⟨key, v⟩ := entry
      have opened : Entries.spelled ((key, v) :: rest) =
          (key.spelled, v) :: Entries.spelled rest := rfl
      rw [opened, toStorage, toStorage, columnAt?_spelled, ih]
      cases table.columnAt? key with
      | none =>
          cases table.toStorage rest with
          | error fault => rfl
          | ok stored => rfl
      | some column =>
          simp only
          cases column.toStorage v with
          | error fault => rfl
          | ok first =>
              cases table.toStorage rest with
              | error fault => rfl
              | ok stored => rfl

/-- Assignments that differ in their spelling only get the same time, if they get one. -/
theorem stamp_of_spelled (table : Table) {assignments others : Entries}
    (same : assignments.spelled = others.spelled) :
    RunsAlike id
      (fun stamped another => stamped.1 = another.1 ∧ stamped.2.spelled = another.2.spelled)
      (table.stamp assignments) (table.stamp others) := by
  simp only [stamp]
  cases table.autoUpdate with
  | none => exact .pure ⟨rfl, same⟩
  | some column =>
      have sets := Entries.sets_congr_of_spelled same column.name
      dsimp only
      by_cases set : others.Sets column.name
      · rw [if_pos ((Entries.has_eq_true rfl).mpr (sets.mpr set)),
          if_pos ((Entries.has_eq_true rfl).mpr set)]
        exact .pure ⟨rfl, same⟩
      · have absent : ¬ assignments.Sets column.name := fun given => set (sets.mp given)
        rw [if_neg (fun has => absent ((Entries.has_eq_true rfl).mp has)),
          if_neg (fun has => set ((Entries.has_eq_true rfl).mp has))]
        apply (RunsAlike.refl column.resolveDefault).bind
        rintro time _ rfl
        rw [Entries.insert_of_not_sets time column.label.text?_toValue set,
          Entries.insert_of_not_sets time column.label.text?_toValue absent]
        refine .pure ⟨rfl, ?_⟩
        rw [Entries.spelled_append, Entries.spelled_append, same]

end Table

/-! ## Sending assignments -/

namespace Model

variable {model : Model}

/-- What an update does with its assignments once they are stamped with a time: nothing where there
are none, and otherwise the backend is given the statement. -/
def sendAssignments (model : Model) (predicate : Predicate) (time : Value)
    (assignments : Entries) : Action UpdateOutcome := do
  if assignments.isEmpty then return .nothing
  let statement ← Action.ofResult (model.updateStatement assignments predicate)
  let result ← Action.executeStatement statement
  Action.ofOperand (UpdateOutcome.ofResult result time)

theorem updateStatement_spelled (model : Model) (assignments : Entries) (predicate : Predicate) :
    model.updateStatement assignments.spelled predicate =
      model.updateStatement assignments predicate := by
  rw [updateStatement, updateStatement, Table.toStorage_spelled]
  cases model.table.toStorage assignments with
  | error fault => rfl
  | ok stored => exact Statement.update_spelled _ _ _

theorem sendAssignments_spelled (model : Model) (predicate : Predicate) (time : Value)
    (assignments : Entries) : model.sendAssignments predicate time assignments.spelled =
      model.sendAssignments predicate time assignments := by
  rw [sendAssignments, sendAssignments, Entries.isEmpty_spelled, updateStatement_spelled]

/-- The predicate that the rows of a key meet. -/
def keyPredicate (column : Column) (key : Value) : Predicate :=
  ⟨[.equals column.name key]⟩

/-- A condition on the key compiles without any change of the session. -/
theorem compile_scalar {column : Column} (isKey : model.table.key = some column) (key : Value)
    (session : Session) :
    Action.ofEvaluation (Condition.compile model.table (some (.scalar key))) session =
      (.ok (keyPredicate column key), session) := by
  have required : Condition.requirePrimaryKey model.table = .ok column.name := by
    rw [Condition.requirePrimaryKey, Table.primaryKey_of_key isKey]
  have compiled : Action.inEnvironment (Condition.compile model.table (some (.scalar key)))
      session = (.ok ⟨[], .ok (keyPredicate column key)⟩, session) := by
    rw [Action.inEnvironment, Condition.compile, required]
    rfl
  rw [Action.ofEvaluation, bind_of_ok compiled, Action.ofReport,
    bind_of_ok (Action.report_nil session)]
  rfl

/-- An update of the rows of a key with a dictionary of fields stamps the fields that are not the
key and sends them. -/
theorem updateWhere_scalar {column : Column} (isKey : model.table.key = some column) (key : Value)
    {entries : Entries} (known : model.table.assignmentEvents entries = []) (session : Session) :
    model.updateWhere (Condition.scalar key).toValue (.dict entries) session =
      (do
        let (time, assignments) ←
          Action.inEnvironment (model.table.stamp (model.table.assignments entries))
        model.sendAssignments (keyPredicate column key) time assignments : Action UpdateOutcome)
          session := by
  have compiled : model.predicate (Condition.scalar key).toValue session =
      (.ok (keyPredicate column key), session) := by
    rw [Model.predicate, Condition.ofValue?_toValue]
    exact compile_scalar isKey key session
  have walked : Action.inEnvironment (Value.dict entries).walkKeyed session =
      (.ok (.ofEntries entries), session) := rfl
  have reported : Action.report (model.table.assignmentEvents (EntryWalk.ofEntries entries).entries)
      session = (.ok (), session) := by
    change Action.report (model.table.assignmentEvents entries) session = _
    rw [known]
    exact Action.report_nil session
  have finished : Action.ofOperand ((EntryWalk.ofEntries entries).finish
      (EntryWalk.ofEntries entries).dictionary) session = (.ok entries, session) := rfl
  rw [updateWhere, bind_of_ok compiled, updateMatching, bind_of_ok walked, bind_of_ok reported,
    bind_of_ok finished]
  rfl

end Model

/-! ## The update of a record -/

namespace RecordAction

/-- What runs on the session alone runs there step by step. -/
theorem ofAction_bind {α β : Type} (first : Action α) (second : α → Action β) :
    ofAction (first >>= second) = ofAction first >>= fun answer => ofAction (second answer) := by
  funext work
  rw [bind_apply, ofAction, ofAction, bind_apply]
  rcases first work.session with ⟨fault | answer, next⟩
  · rfl
  · rfl

end RecordAction

namespace Record

variable {record : Record} {model : Model} {session : Session}

theorem isSome_columnAt? {table : Table} {column : Column} (declared : column ∈ table.columns) :
    (table.columnAt? column.label.toValue).isSome = true := by
  have text : column.label.toValue.text? = some column.name := column.label.text?_toValue
  rw [Table.columnAt?, text]
  exact List.find?_isSome.mpr ⟨column, declared, decide_eq_true rfl⟩

/-- A field is assigned unless it is the key. -/
theorem assignments_entriesOf_cons {key column : Column} (isKey : model.table.key = some key)
    (declared : column ∈ model.table.columns) (v : Value) (fields : List (Name × Value)) :
    model.table.assignments (entriesOf ((column.label, v) :: fields)) =
      if some column.name = model.table.primaryKey then model.table.assignments (entriesOf fields)
      else (column.label.toValue, v) :: model.table.assignments (entriesOf fields) := by
  have text : column.label.toValue.text? = some column.name := column.label.text?_toValue
  have named : model.table.isPrimaryKeyName column.label.toValue =
      decide (some column.name = model.table.primaryKey) := by
    rw [Table.isPrimaryKeyName, text, Table.primaryKeyText, Table.primaryKey_of_key isKey]
    rfl
  have found : (model.table.columnAt? column.label.toValue).isNone = false := by
    rw [← Option.not_isSome, isSome_columnAt? declared, Bool.not_true]
  have opened : entriesOf ((column.label, v) :: fields) =
      (column.label.toValue, v) :: entriesOf fields := rfl
  rw [opened, Table.assignments, named, found]
  simp

/-- The assignments of an update of a record are its set fields without the key, in plain
spelling. -/
theorem updateValues_eq_map (record : Record) {key : Column} (isKey : model.table.key = some key)
    {columns : List Column} (declared : ∀ column ∈ columns, column ∈ model.table.columns) :
    record.updateValues model.table columns = (record.setFields columns).map fun fields =>
      (model.table.assignments (entriesOf fields)).spelled := by
  induction columns with
  | nil => rfl
  | cons column rest ih =>
      have others := ih fun other member => declared other (List.mem_cons_of_mem column member)
      rw [updateValues, setFields]
      cases read : record.get column.name with
      | error fault => rfl
      | ok v =>
          simp only [bind, Except.bind, others]
          cases record.setFields rest with
          | error fault => rfl
          | ok fields =>
              have text : column.label.toValue.text? = some column.name :=
                column.label.text?_toValue
              have declaredHere := declared column List.mem_cons_self
              by_cases unset : v.isUnset = true
              · simp [unset, Except.map, pure, Except.pure]
              · by_cases named : some column.name = model.table.primaryKey
                · simp [unset, named, Except.map, pure, Except.pure,
                    assignments_entriesOf_cons isKey declaredHere]
                · simp [unset, named, Except.map, pure, Except.pure,
                    assignments_entriesOf_cons isKey declaredHere, Entries.spelled,
                    Value.spelled_of_text? text]

theorem setFields_cons_eq_ok {column : Column} {rest : List Column} {fields : List (Name × Value)}
    (gathered : record.setFields (column :: rest) = .ok fields) :
    ∃ v others, record.setFields rest = .ok others ∧
      (fields = others ∨ fields = (column.label, v) :: others) := by
  rw [setFields] at gathered
  cases read : record.get column.name with
  | error fault => rw [read] at gathered; cases gathered
  | ok v =>
      cases later : record.setFields rest with
      | error fault => rw [read, later] at gathered; cases gathered
      | ok others =>
          rw [read, later] at gathered
          refine ⟨v, others, rfl, ?_⟩
          simp only [bind, Except.bind, pure, Except.pure, Except.ok.injEq] at gathered
          split at gathered
          · exact .inl gathered.symm
          · exact .inr gathered.symm

/-- The set fields of a record all name columns. -/
theorem assignmentEvents_of_setFields {columns : List Column}
    (declared : ∀ column ∈ columns, column ∈ model.table.columns) {fields : List (Name × Value)}
    (gathered : record.setFields columns = .ok fields) :
    model.table.assignmentEvents (entriesOf fields) = [] := by
  induction columns generalizing fields with
  | nil =>
      cases gathered
      rfl
  | cons column rest ih =>
      obtain ⟨v, others, later, parts⟩ := setFields_cons_eq_ok gathered
      have none := ih (fun other member => declared other
        (List.mem_cons_of_mem column member)) later
      rcases parts with rfl | rfl
      · exact none
      · change model.table.assignmentEvents
          ((column.label.toValue, v) :: entriesOf others) = []
        rw [Table.assignmentEvents, isSome_columnAt? (declared column List.mem_cons_self),
          Bool.or_true, if_pos rfl, none]

/-- The record with a time in the column kept current, if there is one. -/
def withTime (record : Record) (table : Table) (time : Value) : Record :=
  match table.autoUpdate with
  | some column =>
      if time.isNull then record else record.put column.label time column.default.sourceMark?
  | none => record

/-- The update of the rows of a key with the set fields of a record. -/
def updateByKey (record : Record) (model : Model) (key : Value) : Action UpdateOutcome := do
  let entries ← Action.ofOperand (record.toDictionary model.table)
  model.updateWhere (Condition.scalar key).toValue (.dict entries)

/-- The time that such an update adds to the set fields, null where it adds none or fails before. -/
def addedTime (record : Record) (table : Table) (environment : Environment) : Value :=
  match record.toDictionary table with
  | .ok entries =>
      match (table.stamp (table.assignments entries) environment).1 with
      | .ok (time, _) => time
      | .error _ => .null
  | .error _ => .null

/-- What an update of a record does once its assignments are stamped with a time. -/
def writeRow (model : Model) (key time : Value) (assignments : Entries) :
    RecordAction UpdateOutcome := do
  adoptTime model time
  let record ← RecordAction.current
  let assignments := record.refresh assignments
  if assignments.isEmpty then return .nothing
  let predicate ← RecordAction.ofAction
    (.ofEvaluation (Condition.compile model.table
      (some (.scalar (record.refreshKey model.table key)))))
  let statement ← RecordAction.ofAction (.ofResult (model.updateStatement assignments predicate))
  RecordAction.ofRecord reachBackend
  let result ← RecordAction.ofAction (Action.executeStatement statement)
  RecordAction.ofOperand (UpdateOutcome.ofResult result time)

section

variable (isPublic : model.table.HasPublicNames)
  {check : StorageCheck} (coherent : model.table.Coherent check)

include isPublic coherent

theorem adoptTime_eq (time : Value) (session : Session) :
    adoptTime model time ⟨record, session⟩ =
      (.ok (), ⟨record.withTime model.table time, session⟩) := by
  rw [adoptTime, withTime]
  cases found : model.table.autoUpdate with
  | none => rfl
  | some column =>
      have member := (coherent.autoUpdate_mem column found).1
      dsimp only
      split
      · rfl
      · rw [RecordAction.change, record.assign_of_isPublic (isPublic column member)]

theorem IsUnobstructed.withTime (free : record.IsUnobstructed) (time : Value) :
    (record.withTime model.table time).IsUnobstructed := by
  rw [Record.withTime]
  cases found : model.table.autoUpdate with
  | none => exact free
  | some column =>
      have member := (coherent.autoUpdate_mem column found).1
      dsimp only
      split
      · exact free
      · exact free.put (isPublic column member) _ _

/-- No assignment of an update of a record is to the record's own dictionary. -/
theorem refresh_stamped {values assignments : Entries} {time : Value}
    (gathered : record.updateValues model.table model.table.columns = .ok values)
    (stamps : model.table.StampsTo values time assignments) (adopted : Record) :
    adopted.refresh assignments = assignments := by
  have ofRecord : ∀ entry ∈ values, entry.1.text? ≠ some "__dict__" := by
    intro entry member named
    obtain ⟨column, declared, text, _⟩ := (mem_updateValues gathered).mp member
    rw [text] at named
    exact (isPublic column declared).ne_dictionary (Option.some.inj named)
  apply adopted.refresh_of_forall_ne
  rcases stamps.eq_or_append with ⟨_, rfl, _⟩ | ⟨column, _, found, _, _, rfl⟩
  · exact ofRecord
  · intro entry member
    rcases List.mem_append.mp member with before | last
    · exact ofRecord entry before
    · rw [List.mem_singleton.mp last, column.label.text?_toValue]
      intro named
      exact (isPublic column (coherent.autoUpdate_mem column found).1).ne_dictionary
        (Option.some.inj named)

/-- Behind the time that it takes over, an update of a record does no more than send its
assignments. -/
theorem writeRow_eq (free : record.IsUnobstructed) {column : Column}
    (isKey : model.table.key = some column) (key : Value) {values assignments : Entries}
    {time : Value} (gathered : record.updateValues model.table model.table.columns = .ok values)
    (stamps : model.table.StampsTo values time assignments) (session : Session) :
    writeRow model key time assignments ⟨record, session⟩ =
      RecordAction.ofAction
        (model.sendAssignments (Model.keyPredicate column key) time assignments)
        ⟨record.withTime model.table time, session⟩ := by
  have isPlain : model.table.primaryKey ≠ some "__dict__" := by
    rw [Table.primaryKey_of_key isKey]
    intro same
    exact (isPublic column (coherent.key_mem column isKey).1).ne_dictionary (Option.some.inj same)
  have compiles : RecordAction.ofAction (.ofEvaluation (Condition.compile model.table
      (some (.scalar ((record.withTime model.table time).refreshKey model.table key)))))
        ⟨record.withTime model.table time, session⟩ =
      (.ok (Model.keyPredicate column key), ⟨record.withTime model.table time, session⟩) := by
    rw [refreshKey_of_ne _ key isPlain, RecordAction.ofAction, Model.compile_scalar isKey]
  have passes := RecordAction.ofRecord_apply reachBackend
    ⟨record.withTime model.table time, session⟩
    (free.withTime isPublic coherent time).reachBackend
  rw [writeRow, bind_of_ok (adoptTime_eq isPublic coherent time _),
    bind_of_ok (RecordAction.current_apply _), refresh_stamped isPublic coherent gathered stamps,
    Model.sendAssignments]
  by_cases none : assignments.isEmpty = true
  · rw [if_pos none, if_pos none]
    rfl
  rw [if_neg none, if_neg none, bind_of_ok compiles, RecordAction.ofAction_bind]
  cases model.updateStatement assignments (Model.keyPredicate column key) with
  | error fault => rfl
  | ok statement =>
      have given (rest : Statement → RecordAction UpdateOutcome) :
          (RecordAction.ofAction (.ofResult (.ok statement)) >>= rest)
            ⟨record.withTime model.table time, session⟩ =
              rest statement ⟨record.withTime model.table time, session⟩ := rfl
      rw [given, given, bind_of_ok passes, RecordAction.ofAction_bind]
      rfl

end

/-- An update of a record gathers its set fields, stamps them and writes them to the row. -/
theorem updateRow_eq (free : record.IsUnobstructed) (key : Value) (session : Session) :
    updateRow model false key ⟨record, session⟩ = (do
      let values ← RecordAction.ofRecord (·.updateValues model.table model.table.columns)
      let (time, assignments) ← RecordAction.ofAction (.inEnvironment (model.table.stamp values))
      writeRow model key time assignments : RecordAction UpdateOutcome) ⟨record, session⟩ := by
  have unchecked : checkIf false model true ⟨record, session⟩ =
      (.ok true, ⟨record, session⟩) := rfl
  have reached := RecordAction.ofRecord_apply reachAssignments ⟨record, session⟩
    free.reachAssignments
  rw [updateRow, bind_of_ok unchecked]
  change (RecordAction.ofRecord reachAssignments >>= _) _ = _
  rw [bind_of_ok reached]
  rfl

theorem withTime_null (record : Record) (table : Table) : record.withTime table .null = record := by
  rw [withTime]
  cases table.autoUpdate with
  | none => rfl
  | some column => rfl

/-- An update of a record whose key has a value and the update of the rows of that key with the set
fields of the record give the backend the same statement, or none, and end with the same outcome or
fault in the same session. Only the former changes the record, which takes over the time that was
added to its fields, if one was. -/
theorem update_eq_updateByKey {name fields label : Value} {check : StorageCheck}
    (built : (Table.build name fields check label).result = .ok model.table)
    (isPublic : model.table.HasPublicNames) (free : record.IsUnobstructed) {key : Column}
    (isKey : model.table.key = some key) {v : Value} (held : record.value? key.name = some v)
    (present : isKeyValue v = true) (session : Session) :
    update model false ⟨record, session⟩ =
      ((record.updateByKey model v session).1,
        ⟨record.withTime model.table (record.addedTime model.table session.environment),
          (record.updateByKey model v session).2⟩) := by
  have coherent := Table.coherent_of_build built
  have mapped := record.updateValues_eq_map isKey fun column member => member
  have asDictionary : record.toDictionary model.table =
      (record.setFields model.table.columns).map entriesOf := by
    rw [toDictionary, free.noStandIn]
  have named := Table.primaryKey_of_key isKey
  rw [update_apply, keyValue_of_held free.noStandIn free.noRoutine named held present]
  dsimp only
  rw [updateRow_eq free, updateByKey, addedTime, asDictionary]
  cases gathered : record.setFields model.table.columns with
  | error cause =>
      rw [gathered] at mapped
      have fails := RecordAction.ofRecord_apply
        (·.updateValues model.table model.table.columns) ⟨record, session⟩ mapped
      rw [bind_of_error fails]
      exact congrArg (fun kept => (_, Work.mk kept session)) (record.withTime_null _).symm
  | ok fields =>
      rw [gathered] at mapped
      have gathers := RecordAction.ofRecord_apply
        (·.updateValues model.table model.table.columns) ⟨record, session⟩ mapped
      have known := assignmentEvents_of_setFields (fun column member => member) gathered
      have listed : Action.ofOperand ((Except.ok fields).map entriesOf) session =
          (.ok (entriesOf fields), session) := rfl
      rw [bind_of_ok gathers, bind_of_ok listed, Model.updateWhere_scalar isKey v known]
      -- The two stamp the same assignments in different spellings.
      rcases (model.table.stamp_of_spelled (Entries.spelled_spelled
        (model.table.assignments (entriesOf fields)))).ends session.environment with
          ⟨cause, environment, fails, fails'⟩ |
            ⟨⟨time, assignments⟩, ⟨_, others⟩, environment, stamped, stamped', rfl, spelled⟩
      · rw [bind_of_error (RecordAction.ofAction_apply (Action.inEnvironment_apply fails)),
          bind_of_error (Action.inEnvironment_apply fails')]
        simp only [Except.map, fails']
        rw [withTime_null]
      · rw [bind_of_ok (RecordAction.ofAction_apply (Action.inEnvironment_apply stamped)),
          bind_of_ok (Action.inEnvironment_apply stamped')]
        dsimp only
        rw [writeRow_eq isPublic coherent free isKey v mapped ⟨_, congrArg Prod.fst stamped⟩,
          ← Model.sendAssignments_spelled, spelled, Model.sendAssignments_spelled]
        simp only [Except.map, stamped']
        rfl

end Record

/-- An article that was stored and is to be touched, for examples. -/
def storedArticle : Record :=
  ⟨"Article", [(.text "id", ⟨.int 1, none⟩), (.text "note", ⟨.text "second", none⟩),
    (.text "touched", ⟨.unset, none⟩)], []⟩

/-- A stored article is updated as the rows of its key are, and takes the time of the update. -/
theorem update_eq_updateByKey_articles :
    let run := Record.update ⟨articles, none⟩ false ⟨storedArticle, newSession⟩
    let byKey := storedArticle.updateByKey ⟨articles, none⟩ (.int 1) newSession
    run.1 = byKey.1 ∧ run.2.session = byKey.2 ∧
      byKey.2.calls =
        [.execute "UPDATE `articles` SET `note`=?, `touched`=? WHERE `id`=?"
          [.text "second", .int 1700000000000, .int 1]] ∧
      run.2.record.value? "touched" = some (.int 1700000000000) := by
  intro run byKey
  have free : storedArticle.IsUnobstructed := ⟨⟨rfl, rfl⟩, rfl⟩
  have isKey : (⟨articles, none⟩ : Model).table.key = some personId := rfl
  have same : run = _ := Record.update_eq_updateByKey articles_built articles_hasPublicNames free
    isKey rfl rfl newSession
  have record : run.2.record = storedArticle.withTime articles (.int 1700000000000) := by
    rw [same]
    rfl
  refine ⟨congrArg Prod.fst same, congrArg (·.2.session) same, rfl, ?_⟩
  rw [record]
  rfl

end RowMapper
