import RowMapper.Proofs.Instances
import RowMapper.Proofs.Operations
import RowMapper.Proofs.TableSafety

/-!
# Operations that go by the class

An operation on a record is meant to take the metadata and the backend from the record's class. Its
form `ByClass` does so without any lookup on the record. The two are the same on every record that
leaves the names that are looked up to its class. An attribute under the name of the way to the
backend keeps insertions and updates from sending anything, and one under the name of what finds the
key keeps updates and removals from it.
-/

namespace RowMapper

/-- Two runs agree if their first steps do and what follows agrees on what these come to. -/
theorem bind_congr_at {ε σ α β : Type} {first other : ExceptT ε (StateM σ) α}
    {second later : α → ExceptT ε (StateM σ) β} {state : σ} (heads : first state = other state)
    (rests : ∀ answer next, first state = (.ok answer, next) →
      second answer next = later answer next) :
    (first >>= second) state = (other >>= later) state := by
  rw [bind_apply, bind_apply, ← heads]
  rcases ran : first state with ⟨fault | answer, next⟩
  · rfl
  · exact rests answer next ran

namespace Record

/-! ## Operations without lookups -/

/-- Whether the rule of the model and the validators of its table accept a record. -/
def validByClass (record : Record) (model : Model) (isUpdate : Bool) : Action Bool := do
  if !(← Action.ofOperand (record.meetsGuard model.guard)) then return false
  match ← Action.inEnvironment (record.rejectedBy? model.table.columns) with
  | none => return true
  | some column =>
      Action.report [.valueRejected model.table.modelLabel column.label isUpdate]
      return false

/-- Check the record by its class if that is asked for. -/
def checkByClass (wanted : Bool) (model : Model) (isUpdate : Bool) : RecordAction Bool :=
  if wanted then do RecordAction.ofAction ((← RecordAction.current).validByClass model isUpdate)
  else return true

/-- The value of a record in the key column of its table. -/
def keyByClass (record : Record) (model : Model) (operation : RecordOperation) : Action Value :=
  let key := (model.table.primaryKey >>= record.value?).getD .unset
  if isKeyValue key then return key
  else throw (.missingPrimaryKey operation model.table.modelLabel.toValue)

/-- Insert the record as it is, through the backend of its class. -/
def insertByClass (model : Model) : RecordAction Bool := do
  let withKey := (← RecordAction.current).sendsKey model.table
  let row ← RecordAction.ofRecord (·.rowOf model.table withKey model.table.columns)
  let statement ← RecordAction.ofAction (.ofResult (Statement.insert model.table row))
  let result ← RecordAction.ofAction (Action.executeStatement statement)
  takeAnswer model withKey result

/-- Insert the record by its class. -/
def saveByClass (model : Model) (validated : Bool) : RecordAction Bool := do
  if !(← checkByClass validated model false) then return false
  stampUnset model
  if let some name := model.table.primaryKey then
    let _ ← RecordAction.ofRecord (·.get name)
  insertByClass model

/-- Send the assignments of a record to the row of a key, through the backend of its class. -/
def writeByClass (model : Model) (key time : Value) (assignments : Entries) :
    RecordAction UpdateOutcome := do
  adoptTime model time
  let record ← RecordAction.current
  let assignments := record.refresh assignments
  if assignments.isEmpty then return .nothing
  -- A key that is the record's own dictionary has changed with the record.
  let key := if model.table.primaryKey = some "__dict__" then .dict record.entries else key
  let predicate ← RecordAction.ofAction
    (.ofEvaluation (Condition.compile model.table (some (.scalar key))))
  let statement ← RecordAction.ofAction (.ofResult (model.updateStatement assignments predicate))
  let result ← RecordAction.ofAction (Action.executeStatement statement)
  RecordAction.ofOperand (UpdateOutcome.ofResult result time)

/-- Write the record to the row of a key by its class. -/
def updateRowByClass (model : Model) (validated : Bool) (key : Value) :
    RecordAction UpdateOutcome := do
  if !(← checkByClass validated model true) then return .nothing
  let values ← RecordAction.ofRecord (·.updateValues model.table model.table.columns)
  let (time, assignments) ← RecordAction.ofAction (.inEnvironment (model.table.stamp values))
  writeByClass model key time assignments

/-- Write the record to its row by its class. -/
def updateByClass (model : Model) (validated : Bool) : RecordAction UpdateOutcome := do
  let key ← RecordAction.ofAction ((← RecordAction.current).keyByClass model .update)
  updateRowByClass model validated key

/-- Remove the record's row by its class. -/
def removeByClass (model : Model) : RecordAction Bool := do
  let key ← RecordAction.ofAction ((← RecordAction.current).keyByClass model .remove)
  let removed ← RecordAction.ofAction
    (model.removeWhere (.dict [(.text model.table.primaryKeyText, key)]))
  RecordAction.ofOperand removed.affectsRows

theorem hasFields_of_updateValues {record : Record} {table : Table} {columns : List Column}
    {values : Entries} (gathered : record.updateValues table columns = .ok values) :
    record.HasFields columns := by
  induction columns generalizing values with
  | nil =>
      intro column member
      cases member
  | cons column rest ih =>
      obtain ⟨v, others, read, later, _⟩ := updateValues_cons_eq_ok gathered
      intro other member
      rcases List.mem_cons.mp member with rfl | inRest
      · exact Option.isSome_of_eq_some (get_eq_ok.mp read)
      · exact ih later other inRest

/-! ## Records that leave the lookups to their class -/

namespace LeavesToClass

variable {record : Record} {model : Model} (free : record.LeavesToClass)

include free

theorem isUnobstructed : record.IsUnobstructed where
  noStandIn := free "_meta" (by decide)
  noRoutine := free "_primary_key_value" (by decide)
  noBackend := free "_registry" (by decide)

/-- An operation that is called by its name is the one of the class. -/
theorem calling_eq {α : Type} {name : String} (consulted : name ∈ consultedNames)
    (given : Option Value) (operation : RecordAction α) (session : Session) :
    RecordAction.calling name given operation ⟨record, session⟩ = operation ⟨record, session⟩ := by
  rw [RecordAction.calling, bind_of_ok (RecordAction.current_apply _), free name consulted]

theorem isValid_eq (isUpdate : Bool) :
    record.isValid model isUpdate = record.validByClass model isUpdate := by
  simp only [isValid, free.isUnobstructed.noStandIn]
  rfl

theorem validate_eq (isUpdate : Bool) (session : Session) :
    record.validate model (.bool isUpdate) session =
      ((record.validByClass model isUpdate session).1.map .bool,
        (record.validByClass model isUpdate session).2) := by
  rw [validate, calling, free "validate" (by decide)]
  change (record.isValid model isUpdate >>= fun valid => pure (.bool valid) : Action Value)
    session = _
  rw [free.isValid_eq, bind_apply]
  rcases record.validByClass model isUpdate session with ⟨fault | valid, next⟩
  · rfl
  · rfl

theorem checkIf_eq (wanted isUpdate : Bool) (session : Session) :
    checkIf wanted model isUpdate ⟨record, session⟩ =
      checkByClass wanted model isUpdate ⟨record, session⟩ := by
  cases wanted with
  | false => rfl
  | true =>
      change (RecordAction.ofAction (record.validate model (.bool isUpdate)) >>= fun verdict =>
        pure verdict.truthy) ⟨record, session⟩ =
          RecordAction.ofAction (record.validByClass model isUpdate) ⟨record, session⟩
      rw [bind_apply, RecordAction.ofAction, RecordAction.ofAction, free.validate_eq]
      rcases record.validByClass model isUpdate session with ⟨fault | valid, next⟩
      · rfl
      · rfl

theorem keyValue_eq (operation : RecordOperation) :
    record.keyValue model operation = record.keyByClass model operation := by
  rw [keyValue, calling, free.isUnobstructed.noRoutine]
  simp only [ownKey, valueOfKey?, modelName, free.isUnobstructed.noStandIn]
  rfl

/-- A time in a column that the record has under a name of its own leaves the lookups to the
class. -/
theorem of_assign_int {label : Name} {now : Int} {source : Option Nat} {next : Record}
    (holds : record.value? label.toText ≠ none)
    (sets : record.assign label (.int now) source = .ok next) : next.LeavesToClass := by
  obtain ⟨rfl, _, _⟩ := assign_int_eq_ok sets
  intro name consulted
  have different : name ≠ label.toText := fun same => holds (same ▸ free name consulted)
  rw [record.value?_put_of_ne _ _ different (ne_of_consulted name consulted).1]
  exact free name consulted

theorem of_stampsAs (coherent : model.table.Coherent .standard) {stamped : Record}
    (becomes : record.StampsAs model stamped) : stamped.LeavesToClass := by
  rcases becomes with ⟨rfl, _⟩ | ⟨column, time, environment, found, unset, resolved, sets⟩
  · exact free
  · rw [Column.resolveDefault, coherent.default_autoUpdate found] at resolved
    cases resolved
    refine free.of_assign_int ?_ sets
    change record.value? column.name ≠ none
    rw [get_eq_ok.mp unset]
    intro impossible
    cases impossible

theorem of_adoptsAs (coherent : model.table.Coherent .standard)
    (has : record.HasFields model.table.columns) {values assignments : Entries} {time : Value}
    (stamps : model.table.StampsTo values time assignments) {adopted : Record}
    (becomes : record.AdoptsAs model time adopted) : adopted.LeavesToClass := by
  rcases becomes with ⟨rfl, _⟩ | ⟨column, found, notNull, sets⟩
  · exact free
  · rcases stamps.time_eq coherent with isNull | ⟨now, rfl⟩
    · exact absurd isNull notNull
    · have present := has column (coherent.autoUpdate_mem column found).1
      exact free.of_assign_int (Option.isSome_iff_ne_none.mp present) sets

/-- An insertion of a record as it is goes by the class. -/
theorem insertRow_eq (session : Session) :
    insertRow model ⟨record, session⟩ = insertByClass model ⟨record, session⟩ := by
  rw [insertRow, insertByClass]
  apply bind_congr_at rfl
  intro current work ran
  obtain ⟨rfl, rfl⟩ := RecordAction.current_eq_ok ran
  apply bind_congr_at rfl
  intro row work ran
  obtain ⟨_, rfl⟩ := RecordAction.ofRecord_eq_ok ran
  apply bind_congr_at rfl
  intro statement work ran
  have kept : work.record = current := (RecordAction.ofAction_eq_ok ran).2
  have reached : work.record.reachBackend = .ok () := by
    rw [kept, free.isUnobstructed.reachBackend]
  rw [bind_of_ok (RecordAction.ofRecord_apply reachBackend work reached)]
  rfl

/-- An insertion goes by the class. -/
theorem save_eq (coherent : model.table.Coherent .standard) (validated : Bool)
    (session : Session) :
    save model validated ⟨record, session⟩ = saveByClass model validated ⟨record, session⟩ := by
  rw [save, saveByClass]
  apply bind_congr_at (free.checkIf_eq validated false session)
  intro valid checked ran
  have kept : checked.record = record := (still_checkIf validated model false).record_eq ran
  split
  · rfl
  have reached : checked.record.reachTable "auto_update_field" = .ok () := by
    rw [kept, free.isUnobstructed.reachTable]
  rw [bind_of_ok (RecordAction.ofRecord_apply (·.reachTable "auto_update_field") checked reached)]
  apply bind_congr_at rfl
  intro _ stamped ran
  have becomes := stampsAs_of_stampUnset ran
  rw [kept] at becomes
  have freeStamped := free.of_stampsAs coherent becomes
  cases model.table.primaryKey with
  | none => exact freeStamped.insertRow_eq stamped.session
  | some name =>
      apply bind_congr_at rfl
      intro _ work ran
      obtain ⟨_, rfl⟩ := RecordAction.ofRecord_eq_ok ran
      exact freeStamped.insertRow_eq work.session

/-- An update that gathered its assignments goes by the class. -/
theorem updateRow_eq (coherent : model.table.Coherent .standard) (validated : Bool) (key : Value)
    (session : Session) :
    updateRow model validated key ⟨record, session⟩ =
      updateRowByClass model validated key ⟨record, session⟩ := by
  rw [updateRow, updateRowByClass]
  apply bind_congr_at (free.checkIf_eq validated true session)
  intro valid checked ran
  have kept : checked.record = record := (still_checkIf validated model true).record_eq ran
  split
  · rfl
  have reached : checked.record.reachAssignments = .ok () := by
    rw [kept, free.isUnobstructed.reachAssignments]
  rw [bind_of_ok (RecordAction.ofRecord_apply reachAssignments checked reached)]
  apply bind_congr_at rfl
  intro values work ran
  obtain ⟨gathered, rfl⟩ := RecordAction.ofRecord_eq_ok ran
  apply bind_congr_at rfl
  intro given stampedAt ran
  obtain ⟨time, assignments⟩ := given
  obtain ⟨stamping, same⟩ := RecordAction.ofAction_eq_ok ran
  have stamps : model.table.StampsTo values time assignments :=
    ⟨_, Action.inEnvironment_eq_ok stamping⟩
  dsimp only [writeByClass]
  apply bind_congr_at rfl
  intro _ adopted ran
  have becomes := adoptsAs_of_adoptTime ran
  rw [same, kept] at becomes
  rw [kept] at gathered
  have freeAdopted := free.of_adoptsAs coherent (hasFields_of_updateValues gathered) stamps becomes
  apply bind_congr_at rfl
  intro current work ran
  obtain ⟨rfl, rfl⟩ := RecordAction.current_eq_ok ran
  split
  · rfl
  have ownKey : work.record.refreshKey model.table key =
      if model.table.primaryKey = some "__dict__" then .dict work.record.entries else key := by
    simp [refreshKey, freeAdopted.isUnobstructed.noRoutine]
  rw [ownKey]
  apply bind_congr_at rfl
  intro predicate compiled ran
  have keptCompiled := RecordAction.record_eq_of_ofAction ran
  apply bind_congr_at rfl
  intro statement built ran
  have reached : built.record.reachBackend = .ok () := by
    rw [RecordAction.record_eq_of_ofAction ran, keptCompiled,
      freeAdopted.isUnobstructed.reachBackend]
  rw [bind_of_ok (RecordAction.ofRecord_apply reachBackend built reached)]

/-- An update goes by the class. -/
theorem update_eq (coherent : model.table.Coherent .standard) (validated : Bool)
    (session : Session) :
    update model validated ⟨record, session⟩ = updateByClass model validated ⟨record, session⟩ := by
  rw [update, updateByClass]
  apply bind_congr_at rfl
  intro current work ran
  obtain ⟨rfl, rfl⟩ := RecordAction.current_eq_ok ran
  rw [free.keyValue_eq .update]
  apply bind_congr_at rfl
  intro key next ran
  have kept := RecordAction.record_eq_of_ofAction ran
  have freeNext : next.record.LeavesToClass := kept ▸ free
  exact freeNext.updateRow_eq coherent validated key next.session

/-- A removal goes by the class. -/
theorem remove_eq (session : Session) :
    remove model ⟨record, session⟩ = removeByClass model ⟨record, session⟩ := by
  rw [remove, removeByClass]
  apply bind_congr_at rfl
  intro current work ran
  obtain ⟨rfl, rfl⟩ := RecordAction.current_eq_ok ran
  rw [free.keyValue_eq .remove]
  apply bind_congr_at rfl
  intro key next ran
  have kept := RecordAction.record_eq_of_ofAction ran
  have condition : next.record.keyCondition model.table key =
      .ok (.dict [(.text model.table.primaryKeyText, key)]) := by
    rw [kept, keyCondition, free.isUnobstructed.noStandIn]
  rw [bind_of_ok (RecordAction.ofRecord_apply (·.keyCondition model.table key) next condition)]

end LeavesToClass

/-- Whether the operations on a record that reach the database are those of its class, and take the
metadata and the backend from it. -/
structure GoesByClass (record : Record) (model : Model) : Prop where
  save : ∀ given validated session,
    RecordAction.calling "save" given (save model validated) ⟨record, session⟩ =
      saveByClass model validated ⟨record, session⟩
  update : ∀ given validated session,
    RecordAction.calling "update" given (update model validated) ⟨record, session⟩ =
      updateByClass model validated ⟨record, session⟩
  remove : ∀ given session,
    RecordAction.calling "remove" given (remove model) ⟨record, session⟩ =
      removeByClass model ⟨record, session⟩

theorem LeavesToClass.goesByClass {record : Record} {model : Model} (free : record.LeavesToClass)
    (coherent : model.table.Coherent .standard) : record.GoesByClass model where
  save given validated session := by
    rw [free.calling_eq (by decide), free.save_eq coherent]
  update given validated session := by
    rw [free.calling_eq (by decide), free.update_eq coherent]
  remove given session := by
    rw [free.calling_eq (by decide), free.remove_eq]

/-! ## Records that are cut off from their backend -/

/-- Whether an attribute stands under the name of the way to the backend. -/
def IsCutOff (record : Record) : Prop :=
  (record.value? "_registry").isSome = true

/-- Whether a run gives the backend nothing, and answers only in some ways if it answers. -/
def SendsNothing {α : Type} (act : RecordAction α) (answers : α → Prop) (work : Work) : Prop :=
  work.session.Asks none (act work).2.session ∧
    ∀ answer, (act work).1 = .ok answer → answers answer

/-- A run that gives the backend one statement at most, but has no way to end after it. -/
theorem sendsNothing_of_asksOnce {α : Type} {act : RecordAction α} {answers : α → Prop}
    {work : Work}
    (asks : AsksOnce Work.session act work (fun answer _ => answers answer)
      (fun _ _ _ _ => False)) : SendsNothing act answers work := by
  rcases asks with silent | ⟨request, _, impossible⟩
  · exact silent
  · exact impossible.elim

namespace IsCutOff

variable {record : Record} {model : Model} (cutOff : record.IsCutOff)

include cutOff

theorem reachBackend_ne_ok : record.reachBackend ≠ .ok () := by
  obtain ⟨v, holds⟩ := Option.isSome_iff_exists.mp cutOff
  rw [reachBackend, holds]
  intro impossible
  cases impossible

theorem of_stampsAs {stamped : Record} (becomes : record.StampsAs model stamped) :
    stamped.IsCutOff := by
  rcases becomes with ⟨rfl, _⟩ | ⟨column, time, environment, _, unset, _, sets⟩
  · exact cutOff
  · exact isSome_value?_of_assign sets (ne_dictionary_of_unset unset) cutOff

theorem of_adoptsAs (coherent : model.table.Coherent .standard) {values assignments : Entries}
    {time : Value} (stamps : model.table.StampsTo values time assignments) {adopted : Record}
    (becomes : record.AdoptsAs model time adopted) : adopted.IsCutOff := by
  rcases becomes with ⟨rfl, _⟩ | ⟨column, _, notNull, sets⟩
  · exact cutOff
  · rcases stamps.time_eq coherent with isNull | ⟨now, rfl⟩
    · exact absurd isNull notNull
    · exact isSome_value?_of_assign sets (assign_int_eq_ok sets).2.1 cutOff

theorem asksOnce_insertRow (session : Session) :
    AsksOnce Work.session (insertRow model) ⟨record, session⟩ (fun answer _ => answer = false)
      (fun _ _ _ _ => False) := by
  apply AsksOnce.current
  apply AsksOnce.ofRecord
  intro row _
  apply AsksOnce.ofAction (Action.quiet_ofResult _)
  intro statement next _
  apply AsksOnce.ofRecord
  intro _ reached
  exact absurd reached cutOff.reachBackend_ne_ok

/-- An insertion of a record that is cut off does not come to the backend. -/
theorem save_sendsNothing (validated : Bool) (session : Session) :
    SendsNothing (save model validated) (· = false) ⟨record, session⟩ := by
  apply sendsNothing_of_asksOnce
  apply AsksOnce.still (still_checkIf validated model false)
  intro valid next
  split
  · exact .pure rfl
  apply AsksOnce.ofRecord
  intro _ _
  apply AsksOnce.bind (quiet_stampUnset model)
  intro _ last ran
  have still := cutOff.of_stampsAs (stampsAs_of_stampUnset ran)
  split
  · apply AsksOnce.ofRecord
    intro _ _
    exact still.asksOnce_insertRow last.session
  · exact still.asksOnce_insertRow last.session

/-- Neither does an update. -/
theorem update_sendsNothing (coherent : model.table.Coherent .standard) (validated : Bool)
    (session : Session) :
    SendsNothing (update model validated) (·.updated = false) ⟨record, session⟩ := by
  apply sendsNothing_of_asksOnce
  apply AsksOnce.current
  apply AsksOnce.ofAction (record.quiet_keyValue model .update)
  intro key next _
  apply AsksOnce.still (still_checkIf validated model true)
  intro valid next
  split
  · exact .pure rfl
  apply AsksOnce.ofRecord
  intro _ _
  apply AsksOnce.ofRecord
  intro values gathered
  apply AsksOnce.ofAction (Action.quiet_inEnvironment _)
  intro ⟨time, assignments⟩ stampedAt stamped
  have stamps : model.table.StampsTo values time assignments :=
    ⟨_, Action.inEnvironment_eq_ok stamped⟩
  dsimp only
  apply AsksOnce.bind (quiet_adoptTime model time)
  intro _ adopted ran
  have still := cutOff.of_adoptsAs coherent stamps (adoptsAs_of_adoptTime ran)
  apply AsksOnce.current
  split
  · exact .pure rfl
  apply AsksOnce.ofAction (Action.quiet_ofEvaluation _)
  intro predicate compiledAt _
  apply AsksOnce.ofAction (Action.quiet_ofResult _)
  intro statement builtAt _
  apply AsksOnce.ofRecord
  intro _ reached
  exact absurd reached still.reachBackend_ne_ok

end IsCutOff

/-! ## Records whose key cannot be found -/

section

variable {record : Record} {model : Model} {v : Value}
  (held : record.value? "_primary_key_value" = some v) (uncallable : v.isCallable = false)

include held uncallable

theorem keyValue_of_uncallable (operation : RecordOperation) (session : Session) :
    record.keyValue model operation session =
      (.error (.operand (.notCallable v.operandName)), session) := by
  rw [keyValue, calling, held]
  cases v with
  | routine => cases uncallable
  | _ => rfl

/-- An update ends where a value that cannot be called stands in the way to the key. -/
theorem update_of_uncallable (validated : Bool) (session : Session) :
    update model validated ⟨record, session⟩ =
      (.error (.operand (.notCallable v.operandName)), ⟨record, session⟩) := by
  rw [update_apply, keyValue_of_uncallable held uncallable]

/-- So does a removal. -/
theorem remove_of_uncallable (session : Session) :
    remove model ⟨record, session⟩ =
      (.error (.operand (.notCallable v.operandName)), ⟨record, session⟩) := by
  rw [remove_apply, keyValue_of_uncallable held uncallable]

end

end Record

/-! ## The names of fields and the operations -/

namespace Model

open Record

/-- Of the names that are looked up on a record, a declared field can take two: that of the way to
the backend and that of what finds the key. An instance, which stays one through its operations,
holds something under the others only by a field that stands for the dictionary of all its
attributes, through which any of them can come. The operations of an instance that holds nothing
under these names go by its class. With an attribute in the way to the backend, insertions and
updates send nothing, and with one that cannot be called in the way to the key, updates and removals
end there. -/
theorem operations_of_instance {name fields label : Value} {model : Model}
    (built : (Table.build name fields .standard label).result = .ok model.table) :
    (∀ n ∈ consultedNames, n ∈ model.table.columnNames →
      n = "_registry" ∨ n = "_primary_key_value") ∧
    ∀ record, IsInstance model record →
      (∀ validated session, IsInstance model (save model validated ⟨record, session⟩).2.record ∧
        IsInstance model (update model validated ⟨record, session⟩).2.record) ∧
      ("__dict__" ∉ model.table.columnNames → ∀ n ∈ consultedNames,
        ((record.value? n).isSome = true ↔ n ∈ model.table.columnNames)) ∧
      (∀ column ∈ model.table.columns, column.name = "__dict__" → ∀ entries source, ∃ next,
        record.assign column.label (.dict entries) source = .ok next ∧ IsInstance model next ∧
          ∀ n ∈ consultedNames,
            ((next.value? n).isSome = true ↔ ∃ entry ∈ entries, entry.1.text? = some n)) ∧
      (record.LeavesToClass → record.GoesByClass model) ∧
      ((record.value? "_registry").isSome = true → ∀ validated session,
        SendsNothing (save model validated) (· = false) ⟨record, session⟩ ∧
          SendsNothing (update model validated) (·.updated = false) ⟨record, session⟩) ∧
      (∀ v, record.value? "_primary_key_value" = some v → v.isCallable = false →
        ∀ validated session,
          update model validated ⟨record, session⟩ =
              (.error (.operand (.notCallable v.operandName)), ⟨record, session⟩) ∧
            remove model ⟨record, session⟩ =
              (.error (.operand (.notCallable v.operandName)), ⟨record, session⟩)) := by
  have coherent := Table.coherent_of_build built
  refine ⟨fun n => eq_of_consulted_columnName built, ?_⟩
  intro record isInstance
  refine ⟨?stays, ?fields, ?dictionary, ?free, ?cutOff, ?uncallable⟩
  case stays =>
    intro validated session
    exact ⟨isInstance.of_save coherent validated session,
      isInstance.of_update coherent validated session⟩
  case fields =>
    intro plain n consulted
    exact isInstance.isSome_value?_iff plain consulted
  case dictionary =>
    intro column member isDictionary entries source
    have sets : record.assign column.label (.dict entries) source =
        .ok { record with attributes := attributesOfEntries entries } := by
      rw [assign, show column.label.toText = "__dict__" from isDictionary]
      rfl
    refine ⟨_, sets, isInstance.assigned member sets, ?_⟩
    intro n consulted
    obtain ⟨plain, notReferences⟩ := ne_of_consulted n consulted
    exact value?_of_assign_dictionary sets isDictionary (isInstance.lookup_inherited consulted)
      plain notReferences
  case free =>
    intro free
    exact free.goesByClass coherent
  case cutOff =>
    intro cutOff validated session
    exact ⟨IsCutOff.save_sendsNothing cutOff validated session,
      IsCutOff.update_sendsNothing cutOff coherent validated session⟩
  case uncallable =>
    intro v held uncallable validated session
    exact ⟨update_of_uncallable held uncallable validated session,
      remove_of_uncallable held uncallable session⟩

/-- A person holds nothing under the names that are looked up, and is stored by its class. -/
theorem operations_of_instance_people :
    (Table.build (.text "Person") (.list [personId.toValue, personActive.toValue]) .standard
        (.text "people")).result = .ok person.table ∧
      IsInstance person activePerson ∧ activePerson.GoesByClass person := by
  have made : (Record.make person
      (.dict [(.text "id", .int 7), (.text "active", .bool true)]) [] true newSession).1 =
        .ok activePerson := rfl
  have isInstance : IsInstance person activePerson :=
    .made (by decide) (Prod.ext made rfl)
  have nothing : ∀ n ∈ consultedNames, (activePerson.value? n).isNone = true := by decide
  have free : activePerson.LeavesToClass :=
    fun n consulted => Option.isNone_iff_eq_none.mp (nothing n consulted)
  have people := @operations_of_instance _ _ _ person people_built
  exact ⟨people_built, isInstance, (people.2 activePerson isInstance).2.2.2.1 free⟩

/-- A column whose name is that of the way to the backend, for examples. -/
def registryColumn : Column :=
  { ColumnTraits.standard with label := .text "_registry", type := .string }

/-- A model with such a column, for examples. -/
def route : Model :=
  ⟨⟨.text "Route", .text "routes", [personId, registryColumn], some personId, none⟩, none⟩

/-- The declaration of that model is accepted, and its instances cannot be inserted. -/
theorem route_not_inserted :
    (Table.build (.text "Route") (.list [personId.toValue, registryColumn.toValue]) .standard
        (.text "routes")).result = .ok route.table ∧
      ∃ record, (Record.make route
          (.dict [(.text "id", .int 1), (.text "_registry", .text "main")]) [] true
          newSession).1 = .ok record ∧
        (Record.save route true ⟨record, newSession⟩).1 =
          .error (.operand (.missingAttribute "str" "executor")) ∧
        (Record.save route true ⟨record, newSession⟩).2.session.calls = [] :=
  ⟨rfl, _, rfl, rfl, rfl⟩

end Model

end RowMapper
