import RowMapper.Proofs.SingleStatement
import RowMapper.Proofs.TableSafety

/-!
# Operations as a whole

The operations on the rows of a model at large end as those on records do: each gives the backend
one statement at most, passes on its faults, and has a success to report only if the backend
reported rows. What is said of the operations one by one is put together here for all of them.
-/

namespace RowMapper

/-! ## Operations on the rows of a model -/

namespace Model

variable {session : Session}

theorem quiet_predicate (model : Model) (condition : Value) : (model.predicate condition).Quiet :=
  Action.quiet_ofEvaluation _

/-- How an operation ends that answers with what the backend did. -/
def EndsExecution (request : Request) (reply : Except Fault Reply)
    (result : Except Fault ExecutionResult) : Prop :=
  request.use = .execute ∧ reply = result.map .execution ∧
    Follows ExecutionResult.ReportsRows (fun _ execution => execution.ReportsRows) reply result

theorem endsExecution (statement : Statement) (session : Session) :
    EndsExecution ⟨.execute, statement⟩ (session.backend.take ⟨.execute, statement⟩).result
      (Action.executeStatement statement session).1 := by
  have replied : (session.backend.take ⟨.execute, statement⟩).result =
      (Action.executeStatement statement session).1.map .execution := rfl
  rw [replied]
  refine ⟨rfl, rfl, ?_⟩
  cases answered : (Action.executeStatement statement session).1 with
  | error fault =>
      rw [answered] at replied
      exact .of_error (Backend.isRefusal_of_take replied)
  | ok execution => exact .of_ok fun rows => ⟨execution, rfl, rows⟩

/-- The backend is given a statement, and what it did is the answer. -/
theorem asksOnce_executeStatement (statement : Statement) (session : Session) :
    AsksOnce id (Action.executeStatement statement) session (fun _ _ => False)
      (fun request reply result _ => EndsExecution request reply result) :=
  .inr ⟨⟨.execute, statement⟩, (Action.gives_executeStatement statement session).1,
    endsExecution statement session⟩

theorem asksOnce_removeWhere (model : Model) (condition : Value) (session : Session) :
    AsksOnce id (model.removeWhere condition) session (fun _ _ => False)
      (fun request reply result _ => EndsExecution request reply result) := by
  apply AsksOnce.bind (model.quiet_predicate condition)
  intro predicate next _
  apply AsksOnce.bind (Action.quiet_ofResult _)
  intro statement last _
  exact asksOnce_executeStatement statement last

theorem asksOnce_createTable (model : Model) (session : Session) :
    AsksOnce id model.createTable session (fun _ _ => False)
      (fun request reply result _ => EndsExecution request reply result) := by
  apply AsksOnce.bind (Action.quiet_ofResult _)
  intro statement next _
  exact asksOnce_executeStatement statement next

/-- How an update of the rows that meet a condition came to its time and its statement. -/
def WritesAs (model : Model) (values : Value) (time : Value) (statement : Statement) : Prop :=
  ∃ entries assignments predicate, values.WalksTo entries ∧
    model.table.StampsTo (model.table.assignments entries) time assignments ∧
    model.updateStatement assignments predicate = .ok statement

/-- How an update of the rows that meet a condition ends for which the backend was given a
statement. -/
def EndsUpdate (model : Model) (values : Value) (request : Request) (reply : Except Fault Reply)
    (result : Except Fault UpdateOutcome) : Prop :=
  request.use = .execute ∧
    ∃ time, model.WritesAs values time request.statement ∧
      (∀ outcome, result = .ok outcome →
        outcome.modifyTime = if outcome.updated then time else .null) ∧
      Follows (·.updated = true) (fun _ execution => execution.ReportsRows) reply result

theorem asksOnce_updateWhere (model : Model) (condition values : Value) (session : Session) :
    AsksOnce id (model.updateWhere condition values) session
      (fun answer _ => answer.updated = false)
      (fun request reply result _ => model.EndsUpdate values request reply result) := by
  apply AsksOnce.bind (model.quiet_predicate condition)
  intro predicate compiledAt _
  apply AsksOnce.bind (Action.quiet_inEnvironment _)
  intro walk walkedAt walked
  apply AsksOnce.bind (Action.quiet_report _)
  intro _ reportedAt _
  apply AsksOnce.bind (Action.quiet_ofOperand _)
  intro entries finishedAt finished
  obtain ⟨finished, _⟩ := Action.ofOperand_eq_ok finished
  apply AsksOnce.bind (Action.quiet_inEnvironment _)
  intro ⟨time, assignments⟩ stampedAt stamped
  dsimp only
  split
  · exact .pure rfl
  apply AsksOnce.bind (Action.quiet_ofResult _)
  intro statement builtAt built
  obtain ⟨built, _⟩ := Action.ofResult_eq_ok built
  have writes : model.WritesAs values time statement :=
    ⟨entries, assignments, predicate, ⟨_, walk, Action.inEnvironment_eq_ok walked, finished⟩,
      ⟨_, Action.inEnvironment_eq_ok stamped⟩, built⟩
  apply AsksOnce.of_gives (Action.gives_executeStatement statement builtAt)
  · intro execution
    exact Action.quiet_ofOperand _
  · intro fault last refused _
    refine ⟨rfl, time, writes, ?_, .of_error (Backend.isRefusal_of_take refused)⟩
    intro outcome impossible
    cases impossible
  · intro execution last _
    refine ⟨rfl, time, writes, ?_, UpdateOutcome.follows_ofResult execution time⟩
    intro outcome made
    exact UpdateOutcome.modifyTime_of_ofResult (Except.eq_ok_of_mapError made)

/-! ## Operations that read -/

/-- How a reading operation ends: it follows what the backend answered, and nothing it answers
speaks of rows that were changed. -/
def EndsQuery {α : Type} (reply : Except Fault Reply) (result : Except Fault α) : Prop :=
  Follows (fun _ => False) (fun _ execution => execution.ReportsRows) reply result

theorem quiet_load (model : Model) (rows : List Value) : (model.load rows).Quiet := by
  induction rows with
  | nil => exact Leaves.pure _
  | cons row rest ih =>
      apply Leaves.bind
      · apply Leaves.bind (Action.quiet_ofOperand _)
        intro entries
        apply Leaves.bind (Action.quiet_ofOperand _)
        intro given
        apply Leaves.bind fun _ => rfl
        intro start
        exact Action.quiet_inEnvironment _
      · intro record
        exact Leaves.bind ih fun _ => Leaves.pure _

theorem failsOnly_load (model : Model) (rows : List Value) :
    FailsOnly Fault.IsOperand (model.load rows) := by
  induction rows with
  | nil => exact .pure _
  | cons row rest ih =>
      apply FailsOnly.bind
      · apply FailsOnly.bind (Action.failsOnly_ofOperand _)
        intro entries
        apply FailsOnly.bind (Action.failsOnly_ofOperand _)
        intro given
        apply FailsOnly.bind
        · intro start fault failed
          cases failed
        · intro start
          exact Action.failsOnly_inEnvironment _
      · intro record
        exact ih.bind fun _ => .pure _

/-- A query whose rows are gone through by quiet steps that fail over values only. -/
theorem asksOnce_query {α : Type} (statement : Statement) (session : Session)
    {rest : List Value → Action α} (quiet : ∀ rows, (rest rows).Quiet)
    (fails : ∀ rows, FailsOnly Fault.IsOperand (rest rows)) :
    AsksOnce id (Action.queryStatement statement >>= rest) session (fun _ _ => False)
      (fun _ reply result _ => EndsQuery reply result) := by
  apply AsksOnce.of_gives (Action.gives_queryStatement statement session) quiet
  · intro fault last refused _
    exact .of_error (Backend.isRefusal_of_take refused)
  · intro rows last _
    cases answered : (rest rows last).1 with
    | error fault =>
        obtain ⟨cause, rfl⟩ := fails rows last fault answered
        exact .of_operand
    | ok answer => exact .of_ok fun impossible => impossible.elim

theorem asksOnce_findWith (model : Model) (condition : Value) (options : ReadOptions)
    (session : Session) :
    AsksOnce id (model.findWith condition options) session (fun _ _ => False)
      (fun _ reply result _ => EndsQuery reply result) := by
  apply AsksOnce.bind (model.quiet_predicate condition)
  intro predicate compiledAt _
  apply AsksOnce.bind (Action.quiet_ofResult _)
  intro statement builtAt _
  exact asksOnce_query statement builtAt model.quiet_load model.failsOnly_load

theorem asksOnce_find (model : Model) (condition options : Value) (session : Session) :
    AsksOnce id (model.find condition options) session (fun _ _ => False)
      (fun _ reply result _ => EndsQuery reply result) := by
  apply AsksOnce.bind (Action.quiet_ofResult _)
  intro understood next _
  exact model.asksOnce_findWith condition understood next

theorem asksOnce_findFirst (model : Model) (condition : Value) (options : ReadOptions)
    (session : Session) :
    AsksOnce id (model.findFirst condition options) session (fun _ _ => False)
      (fun _ reply result _ => EndsQuery reply result) := by
  apply (model.asksOnce_findWith condition (firstOnly options) session).followed
  · intro records
    exact Leaves.pure _
  · intro records next impossible
    exact impossible.elim
  · intro request reply fault next ends
    exact ends.map List.head? (fun _ impossible => impossible) fun _ _ rows => rows
  · intro request reply records next ends
    exact ends.map List.head? (fun _ impossible => impossible) fun _ _ rows => rows

theorem asksOnce_findOne (model : Model) (condition options : Value) (session : Session) :
    AsksOnce id (model.findOne condition options) session (fun _ _ => False)
      (fun _ reply result _ => EndsQuery reply result) := by
  apply AsksOnce.bind (Action.quiet_ofResult _)
  intro understood next _
  exact model.asksOnce_findFirst condition understood next

theorem asksOnce_touch (model : Model) (key : Value) (session : Session) :
    AsksOnce id (model.touch key) session (fun _ _ => False)
      (fun _ reply result _ => EndsQuery reply result) := by
  rw [touch]
  split
  · exact .throw
  · exact model.asksOnce_findFirst _ _ session

theorem asksOnce_count (model : Model) (condition options : Value) (session : Session) :
    AsksOnce id (model.count condition options) session (fun _ _ => False)
      (fun _ reply result _ => EndsQuery reply result) := by
  apply AsksOnce.bind (Action.quiet_ofResult _)
  intro understood next _
  apply AsksOnce.bind (model.quiet_predicate condition)
  intro predicate compiledAt _
  apply AsksOnce.bind (Action.quiet_ofResult _)
  intro statement builtAt _
  exact asksOnce_query statement builtAt (fun _ => Action.quiet_ofOperand _)
    fun _ => Action.failsOnly_ofOperand _

end Model

namespace Record

theorem asksOnce_remove (record : Record) (model : Model) (session : Session) :
    AsksOnce Work.session (remove model) ⟨record, session⟩ (fun _ _ => False)
      (fun _ reply result _ =>
        Follows (· = true) (fun _ execution => execution.ReportsRows) reply result) := by
  apply AsksOnce.current
  apply AsksOnce.ofAction (record.quiet_keyValue model .remove)
  intro key next _
  apply AsksOnce.ofRecord
  intro condition _
  apply (model.asksOnce_removeWhere condition next).beside.followed
  · intro removed
    exact (RecordAction.still_ofOperand _).quiet
  · intro removed last impossible
    exact impossible.elim
  · intro request reply fault last ends
    obtain ⟨_, rfl, follows⟩ := ends
    exact .of_error (follows.notRefusal fault rfl)
  · intro request reply removed last ends
    obtain ⟨_, rfl, _⟩ := ends
    change Follows _ _ _ (removed.affectsRows.mapError .operand)
    cases affected : removed.affectsRows with
    | error cause => exact .of_operand
    | ok any =>
        apply Follows.of_ok
        intro holds
        rw [holds] at affected
        exact ⟨removed, rfl, affected⟩

end Record

/-! ## Records without a key -/

/-- Whether a fault says that a record has no key. -/
def Fault.saysKeyless : Fault → Bool
  | .missingPrimaryKey .. => true
  | _ => false

theorem Fault.saysKeyless_of_isRefusal {fault : Fault} (notRefusal : fault.isRefusal = false) :
    fault.saysKeyless = false := by
  cases fault with
  | missingPrimaryKey operation model => cases notRefusal
  | _ => rfl

theorem Fault.IsOperand.saysKeyless_eq {fault : Fault} (operand : fault.IsOperand) :
    fault.saysKeyless = false := by
  obtain ⟨cause, rfl⟩ := operand
  rfl

/-- Whether none of the faults of an operation says that a record has no key. -/
abbrev NeverKeyless {σ α : Type} (act : ExceptT Fault (StateM σ) α) : Prop :=
  FailsOnly (·.saysKeyless = false) act

theorem NeverKeyless.of_operand {σ α : Type} {act : ExceptT Fault (StateM σ) α}
    (fails : FailsOnly Fault.IsOperand act) : NeverKeyless act :=
  fails.weaken fun _ => Fault.IsOperand.saysKeyless_eq

namespace Action

/-- What the backend passes on is no refusal of this library. -/
theorem failsOnly_executeStatement (statement : Statement) :
    FailsOnly (·.isRefusal = false) (executeStatement statement) := by
  intro session fault failed
  have refused : (session.backend.take ⟨.execute, statement⟩).result = .error fault := by
    change (executeStatement statement session).1.map Reply.execution = _
    rw [failed]
    rfl
  exact Backend.isRefusal_of_take refused

theorem neverKeyless_executeStatement (statement : Statement) :
    NeverKeyless (executeStatement statement) :=
  (failsOnly_executeStatement statement).weaken fun _ => Fault.saysKeyless_of_isRefusal

end Action

namespace Model

/-- A condition that needs the key of a model finds fault with the model, not with a record. -/
theorem neverKeyless_compile (table : Table) (condition : Option Condition) :
    NeverKeyless (Action.ofEvaluation (Condition.compile table condition)) := by
  have required : ∀ (form : String → Predicate) (fault : Fault),
      (Condition.requirePrimaryKey table).map form = .error fault → fault.saysKeyless = false := by
    intro form fault failed
    rw [Condition.requirePrimaryKey] at failed
    split at failed
    · cases failed
    · cases failed
      rfl
  intro session fault failed
  cases condition with
  | none => cases failed
  | some condition =>
      cases condition with
      | scalar v => exact required _ fault failed
      | inSet items => exact required _ fault failed
      | fieldMap fields =>
          rw [Action.ofEvaluation, bind_apply] at failed
          cases ran : Action.inEnvironment (Condition.compile table (some (.fieldMap fields)))
              session with
          | mk result next =>
              rw [ran] at failed
              cases result with
              | error cause =>
                  cases failed
                  have early := Action.failsOnly_inEnvironment _ session fault (by rw [ran])
                  exact early.saysKeyless_eq
              | ok report =>
                  have compiled := Action.inEnvironment_eq_ok ran
                  have walked : ∃ walk, report = Condition.compileFields table walk := by
                    obtain ⟨walk, _, _, ends⟩ :=
                      bind_eq_ok (Prod.ext compiled (Eq.refl (Condition.compile table
                        (some (.fieldMap fields)) session.environment).2))
                    cases ends
                    exact ⟨walk, rfl⟩
                  obtain ⟨walk, rfl⟩ := walked
                  exact (Fault.isOperand_of_mapError failed).saysKeyless_eq

theorem neverKeyless_delete (table : Table) (predicate : Predicate) :
    NeverKeyless (Action.ofResult (Statement.delete table predicate)) := by
  intro session fault failed
  change Statement.delete table predicate = _ at failed
  rw [Statement.delete] at failed
  split at failed
  · cases failed
    rfl
  · cases failed

theorem neverKeyless_removeWhere (model : Model) (condition : Value) :
    NeverKeyless (model.removeWhere condition) := by
  apply FailsOnly.bind (neverKeyless_compile model.table _)
  intro predicate
  apply FailsOnly.bind (neverKeyless_delete model.table predicate)
  intro statement
  exact Action.neverKeyless_executeStatement statement

/-- Why an update of the rows that meet a predicate is not built. -/
theorem updateStatement_eq_error {model : Model} {assignments : Entries} {predicate : Predicate}
    {fault : Fault}
    (failed : model.updateStatement assignments predicate = .error fault) :
    fault.IsOperand ∨ fault = .nothingToUpdate model.table.label ∨
      (fault = .unconditionalUpdate model.table.label ∧ predicate.isEmpty = true) := by
  rw [updateStatement] at failed
  cases converted : model.table.toStorage assignments with
  | error cause =>
      rw [converted] at failed
      cases failed
      exact .inl ⟨cause, rfl⟩
  | ok stored =>
      rw [converted] at failed
      change Statement.update model.table stored predicate = _ at failed
      rw [Statement.update] at failed
      split at failed
      next empty =>
        cases failed
        exact .inr (.inr ⟨rfl, empty⟩)
      split at failed
      next =>
        cases failed
        exact .inr (.inl rfl)
      cases quoted : Statement.quotedNames stored.keys with
      | error cause =>
          rw [quoted] at failed
          cases failed
          exact .inl ⟨cause, rfl⟩
      | ok names =>
          rw [quoted] at failed
          cases failed

theorem neverKeyless_updateStatement (model : Model) (assignments : Entries)
    (predicate : Predicate) :
    NeverKeyless (Action.ofResult (model.updateStatement assignments predicate)) := by
  intro session fault failed
  rcases updateStatement_eq_error failed with operand | rfl | ⟨rfl, _⟩
  · exact operand.saysKeyless_eq
  · rfl
  · rfl

end Model

namespace Record

theorem failsOnly_isValid (record : Record) (model : Model) (isUpdate : Bool) :
    FailsOnly Fault.IsOperand (record.isValid model isUpdate) := by
  apply FailsOnly.bind (Action.failsOnly_ofOperand _)
  intro meets
  split
  · exact .pure false
  · split
    · apply FailsOnly.bind (Action.failsOnly_ofOperand _)
      intro items
      apply FailsOnly.bind (Action.failsOnly_inEnvironment _)
      intro _
      exact .pure true
    · apply FailsOnly.bind (Action.failsOnly_inEnvironment _)
      intro rejected
      cases rejected with
      | none => exact .pure true
      | some column =>
          apply FailsOnly.bind
          · intro session fault impossible
            cases impossible
          · intro _
            exact .pure false

theorem failsOnly_validate (record : Record) (model : Model) (isUpdate : Value) :
    FailsOnly Fault.IsOperand (record.validate model isUpdate) := by
  rw [validate, calling]
  split
  · exact Action.failsOnly_inEnvironment _
  · apply FailsOnly.bind (record.failsOnly_isValid model _)
    intro valid
    exact .pure _

theorem failsOnly_checkIf (wanted : Bool) (model : Model) (isUpdate : Bool) :
    FailsOnly Fault.IsOperand (checkIf wanted model isUpdate) := by
  rw [checkIf]
  split
  · apply FailsOnly.bind
    · intro work fault impossible
      cases impossible
    intro record
    apply FailsOnly.bind (RecordAction.failsOnly_ofAction (record.failsOnly_validate model _))
    intro verdict
    exact .pure _
  · exact .pure true

theorem failsOnly_adoptTime (model : Model) (time : Value) :
    FailsOnly Fault.IsOperand (adoptTime model time) := by
  rw [adoptTime]
  split
  · split
    · exact .pure ()
    · exact RecordAction.failsOnly_change _
  · exact .pure ()

theorem neverKeyless_updateRow (model : Model) (validated : Bool) (key : Value) :
    NeverKeyless (updateRow model validated key) := by
  apply FailsOnly.bind (NeverKeyless.of_operand (failsOnly_checkIf validated model true))
  intro valid
  split
  · exact .pure _
  apply FailsOnly.bind (NeverKeyless.of_operand (RecordAction.failsOnly_ofRecord _))
  intro _
  apply FailsOnly.bind (NeverKeyless.of_operand (RecordAction.failsOnly_ofRecord _))
  intro values
  apply FailsOnly.bind (NeverKeyless.of_operand
    (RecordAction.failsOnly_ofAction (Action.failsOnly_inEnvironment _)))
  intro ⟨time, assignments⟩
  dsimp only
  apply FailsOnly.bind (NeverKeyless.of_operand (failsOnly_adoptTime model time))
  intro _
  apply FailsOnly.bind
  · intro work fault impossible
    cases impossible
  intro record
  split
  · exact .pure _
  apply FailsOnly.bind (RecordAction.failsOnly_ofAction (Model.neverKeyless_compile _ _))
  intro predicate
  apply FailsOnly.bind (RecordAction.failsOnly_ofAction (model.neverKeyless_updateStatement _ _))
  intro statement
  apply FailsOnly.bind (NeverKeyless.of_operand (RecordAction.failsOnly_ofRecord _))
  intro _
  apply FailsOnly.bind (RecordAction.failsOnly_ofAction (Action.neverKeyless_executeStatement _))
  intro execution
  exact NeverKeyless.of_operand (RecordAction.failsOnly_ofOperand _)

/-- Whether the attributes of a record leave the way to its key to its class: none of them stands
in for the table or takes the place of what finds the key. -/
structure FindsOwnKey (record : Record) : Prop where
  noStandIn : record.standIn? = none
  noRoutine : record.value? "_primary_key_value" = none

/-- Whether a record has no key: its model has no key column, or the attribute of that name is
missing, unset or null. -/
def LacksKey (record : Record) (table : Table) : Prop :=
  table.primaryKey = none ∨ ∃ name, table.primaryKey = some name ∧
    (record.value? name = none ∨ record.value? name = some .unset ∨
      record.value? name = some .null)

variable {record : Record} {model : Model} {operation : RecordOperation}

theorem keyValue_of_lacksKey (own : record.FindsOwnKey) (lacks : record.LacksKey model.table)
    (session : Session) : record.keyValue model operation session =
      (.error (.missingPrimaryKey operation model.table.modelLabel.toValue), session) := by
  have key : isKeyValue ((model.table.primaryKey >>= record.value?).getD .unset) = false := by
    rcases lacks with keyless | ⟨name, isKey, missing | unset | null⟩
    · rw [keyless]
      rfl
    · simp [isKey, missing, isKeyValue, Value.isUnset]
    · simp [isKey, unset, isKeyValue, Value.isUnset]
    · simp [isKey, null, isKeyValue, Value.isNull]
  have found : record.valueOfKey? model.table =
      .ok (model.table.primaryKey >>= record.value?) := by
    rw [valueOfKey?, own.noStandIn]
  have named : record.modelName model.table = .ok model.table.modelLabel.toValue := by
    rw [modelName, own.noStandIn]
  rw [keyValue, calling, own.noRoutine]
  simp only [ownKey, found, named]
  change (if isKeyValue ((model.table.primaryKey >>= record.value?).getD .unset) = true then _
    else _ : Action Value) session = _
  rw [key]
  rfl

theorem keyValue_of_not_lacksKey (own : record.FindsOwnKey)
    (keyed : ¬ record.LacksKey model.table) (session : Session) :
    ∃ key, record.keyValue model operation session = (.ok key, session) := by
  simp only [LacksKey, not_or, not_exists, not_and] at keyed
  obtain ⟨hasColumn, each⟩ := keyed
  obtain ⟨name, isKey⟩ := Option.ne_none_iff_exists'.mp hasColumn
  obtain ⟨present, set, notNull⟩ := each name isKey
  obtain ⟨key, holds⟩ := Option.ne_none_iff_exists'.mp present
  have isValue : isKeyValue key = true := by
    rw [holds] at set notNull
    cases key with
    | unset => exact absurd rfl set
    | null => exact absurd rfl notNull
    | _ => rfl
  exact ⟨key, keyValue_of_held own.noStandIn own.noRoutine isKey holds isValue session⟩

/-- An update goes on with the key it found, or ends where none was found. -/
theorem update_apply (record : Record) (model : Model) (validated : Bool) (session : Session) :
    update model validated ⟨record, session⟩ =
      match record.keyValue model .update session with
      | (.ok key, next) => updateRow model validated key ⟨record, next⟩
      | (.error fault, next) => (.error fault, ⟨record, next⟩) := by
  rw [update, bind_apply]
  change (RecordAction.ofAction (record.keyValue model .update) >>= _) _ = _
  rw [bind_apply, RecordAction.ofAction]
  rcases record.keyValue model .update session with ⟨fault | key, next⟩
  · rfl
  · rfl

/-- So does a removal. -/
theorem remove_apply (record : Record) (model : Model) (session : Session) :
    remove model ⟨record, session⟩ =
      match record.keyValue model .remove session with
      | (.ok key, next) => (do
          let condition ← RecordAction.ofRecord (·.keyCondition model.table key)
          let removed ← RecordAction.ofAction (model.removeWhere condition)
          RecordAction.ofOperand removed.affectsRows : RecordAction Bool) ⟨record, next⟩
      | (.error fault, next) => (.error fault, ⟨record, next⟩) := by
  rw [remove, bind_apply]
  change (RecordAction.ofAction (record.keyValue model .remove) >>= _) _ = _
  rw [bind_apply, RecordAction.ofAction]
  rcases record.keyValue model .remove session with ⟨fault | key, next⟩
  · rfl
  · rfl

/-- An update asks for a key exactly where there is none. -/
theorem update_missingKey_iff (own : record.FindsOwnKey) (validated : Bool) (session : Session) :
    (∃ operation name, (update model validated ⟨record, session⟩).1 =
      .error (.missingPrimaryKey operation name)) ↔ record.LacksKey model.table := by
  rw [update_apply]
  constructor
  · intro ⟨operation, name, failed⟩
    by_cases lacks : record.LacksKey model.table
    · exact lacks
    obtain ⟨key, found⟩ := keyValue_of_not_lacksKey own lacks session
    rw [found] at failed
    cases neverKeyless_updateRow model validated key _ _ failed
  · intro lacks
    rw [keyValue_of_lacksKey own lacks]
    exact ⟨.update, _, rfl⟩

/-- A removal asks for a key exactly where there is none. -/
theorem remove_missingKey_iff (own : record.FindsOwnKey) (session : Session) :
    (∃ operation name, (remove model ⟨record, session⟩).1 =
      .error (.missingPrimaryKey operation name)) ↔ record.LacksKey model.table := by
  rw [remove_apply]
  constructor
  · intro ⟨operation, name, failed⟩
    by_cases lacks : record.LacksKey model.table
    · exact lacks
    obtain ⟨key, found⟩ := keyValue_of_not_lacksKey own lacks session
    rw [found] at failed
    have never : NeverKeyless (do
        let condition ← RecordAction.ofRecord (·.keyCondition model.table key)
        let removed ← RecordAction.ofAction (model.removeWhere condition)
        RecordAction.ofOperand removed.affectsRows : RecordAction Bool) := by
      apply FailsOnly.bind (NeverKeyless.of_operand (RecordAction.failsOnly_ofRecord _))
      intro condition
      apply FailsOnly.bind (RecordAction.failsOnly_ofAction (model.neverKeyless_removeWhere _))
      intro removed
      exact NeverKeyless.of_operand (RecordAction.failsOnly_ofOperand _)
    cases never _ _ failed
  · intro lacks
    rw [keyValue_of_lacksKey own lacks]
    exact ⟨.remove, _, rfl⟩

/-- The check of a record that was asked for goes by what validation answers. -/
theorem checkIf_of_validate {isUpdate : Bool} {verdict : Value} {session next : Session}
    (validates : record.validate model (.bool isUpdate) session = (.ok verdict, next)) :
    checkIf true model isUpdate ⟨record, session⟩ = (.ok verdict.truthy, ⟨record, next⟩) := by
  rw [checkIf, if_pos rfl, bind_apply]
  change (RecordAction.ofAction (record.validate model (.bool isUpdate)) >>= _) _ = _
  rw [bind_apply, RecordAction.ofAction, validates]
  rfl

/-- An insertion that validation rejects ends there. -/
theorem save_of_rejected {verdict : Value} {session next : Session}
    (validates : record.validate model (.bool false) session = (.ok verdict, next))
    (rejects : verdict.truthy = false) :
    save model true ⟨record, session⟩ = (.ok false, ⟨record, next⟩) := by
  rw [save, bind_apply, checkIf_of_validate validates, rejects]
  rfl

/-- An update that validation rejects ends there. -/
theorem updateRow_of_rejected {key verdict : Value} {session next : Session}
    (validates : record.validate model (.bool true) session = (.ok verdict, next))
    (rejects : verdict.truthy = false) :
    updateRow model true key ⟨record, session⟩ = (.ok .nothing, ⟨record, next⟩) := by
  rw [updateRow, bind_apply, checkIf_of_validate validates, rejects]
  rfl

end Record

/-! ## All operations -/

/-- An operation on the rows of a model or on one of its records. -/
inductive Operation where
  | save (record : Record) (validated : Bool)
  | update (record : Record) (validated : Bool)
  | remove (record : Record)
  | find (condition options : Value)
  | findOne (condition options : Value)
  | touch (key : Value)
  | count (condition options : Value)
  | removeWhere (condition : Value)
  | updateWhere (condition values : Value)
  | createTable
  | dropTable

/-- What an operation answers. -/
inductive Answer where
  | inserted (any : Bool)
  | updated (outcome : UpdateOutcome)
  | removed (any : Bool)
  | records (found : List Record)
  | record (found : Option Record)
  | counted (rows : Int)
  | executed (result : ExecutionResult)

/-- Whether an answer says that there are rows that an operation made, changed or removed. -/
def Answer.SpeaksOfRows : Answer → Prop
  | .inserted any | .removed any => any = true
  | .updated outcome => outcome.updated = true
  | .executed result => result.ReportsRows
  | .records _ | .record _ | .counted _ => False

/-- Whether an answer can rest on what the backend reported: an insertion takes a count that is no
number for a row as well, and nothing else does. -/
def Answer.RestsOn : Answer → ExecutionResult → Prop
  | .inserted _, execution => execution.ReportsInsertedRow
  | _, execution => execution.ReportsRows

namespace Operation

/-- A run on a session with its answer in another form. -/
def runAs {α : Type} (form : α → Answer) (act : Action α) (session : Session) :
    Except Fault Answer × Session :=
  ((act session).1.map form, (act session).2)

/-- A run on a record with its answer in another form. -/
def runOn {α : Type} (form : α → Answer) (record : Record) (act : RecordAction α)
    (session : Session) : Except Fault Answer × Session :=
  ((act ⟨record, session⟩).1.map form, (act ⟨record, session⟩).2.session)

/-- Run an operation. -/
def run (operation : Operation) (model : Model) : Session → Except Fault Answer × Session :=
  match operation with
  | .save record validated => runOn .inserted record (Record.save model validated)
  | .update record validated => runOn .updated record (Record.update model validated)
  | .remove record => runOn .removed record (Record.remove model)
  | .find condition options => runAs .records (model.find condition options)
  | .findOne condition options => runAs .record (model.findOne condition options)
  | .touch key => runAs .record (model.touch key)
  | .count condition options => runAs .counted (model.count condition options)
  | .removeWhere condition => runAs .executed (model.removeWhere condition)
  | .updateWhere condition values => runAs .updated (model.updateWhere condition values)
  | .createTable => runAs .executed model.createTable
  | .dropTable => runAs .executed model.dropTable

/-- How a run ends that gave the backend a request, or none: the backend's fault is the fault of
the run, what the run refuses was not asked, and rows are only spoken of where the answer rests on
what the backend reported. -/
structure EndsAfter (session : Session) (request : Option Request)
    (run : Except Fault Answer × Session) : Prop where
  asks : session.Asks request run.2
  passesOn : ∀ given fault, request = some given →
    (session.backend.take given).result = .error fault → run.1 = .error fault
  refused : ∀ fault, run.1 = .error fault → fault.isRefusal = true → request = none
  reported : ∀ answer, run.1 = .ok answer → answer.SpeaksOfRows →
    ∃ given execution, request = some given ∧
      (session.backend.take given).result = .ok (.execution execution) ∧ answer.RestsOn execution

theorem endsAfter_none {session : Session} {run : Except Fault Answer × Session}
    (asks : session.Asks none run.2)
    (silent : ∀ answer, run.1 = .ok answer → ¬ answer.SpeaksOfRows) :
    EndsAfter session none run where
  asks := asks
  passesOn := by
    intro given fault impossible
    cases impossible
  refused := by
    intro fault _ _
    rfl
  reported := by
    intro answer answered speaks
    exact absurd speaks (silent answer answered)

theorem endsAfter_some {session : Session} {request : Request}
    {run : Except Fault Answer × Session} (asks : session.Asks (some request) run.2)
    (follows : Follows Answer.SpeaksOfRows Answer.RestsOn (session.backend.take request).result
      run.1) :
    EndsAfter session (some request) run where
  asks := asks
  passesOn := by
    intro given fault same failed
    cases same
    exact follows.passesOn fault failed
  refused := by
    intro fault failed isRefusal
    rw [follows.notRefusal fault failed] at isRefusal
    cases isRefusal
  reported := by
    intro answer answered speaks
    obtain ⟨execution, replied, rows⟩ := follows.reports answer answered speaks
    exact ⟨request, execution, rfl, replied, rows⟩

section

variable {α σ : Type} {view : σ → Session} {first : σ} {act : ExceptT Fault (StateM σ) α}
  {alone : α → σ → Prop} {asked : Request → Except Fault Reply → Except Fault α → σ → Prop}
  {succeeds : α → Prop} {restsOn : α → ExecutionResult → Prop}

/-- What is known of a run that gives one statement at most, in terms of all operations. -/
theorem endsAfter_of_asksOnce (asks : AsksOnce view act first alone asked) (form : α → Answer)
    (onlyIf : ∀ answer, (form answer).SpeaksOfRows → succeeds answer)
    (rests : ∀ answer execution, restsOn answer execution → (form answer).RestsOn execution)
    (ofAlone : ∀ answer last, alone answer last → ¬ succeeds answer)
    (ofAsked : ∀ request reply result last, asked request reply result last →
      Follows succeeds restsOn reply result) :
    ∃ request, EndsAfter (view first) request ((act first).1.map form, view (act first).2) := by
  rcases asks with ⟨same, known⟩ | ⟨request, given, known⟩
  · refine ⟨none, endsAfter_none same ?_⟩
    intro answer answered speaks
    cases ran : (act first).1 with
    | error fault => rw [ran] at answered; cases answered
    | ok plain =>
        rw [ran] at answered
        cases answered
        exact ofAlone plain _ (known plain ran) (onlyIf plain speaks)
  · exact ⟨some request, endsAfter_some given ((ofAsked _ _ _ _ known).map form onlyIf rests)⟩

end

/-- Every operation gives the backend one statement at most. -/
theorem exists_endsAfter (operation : Operation) (model : Model) (session : Session) :
    ∃ request, EndsAfter session request (operation.run model session) := by
  have executes : ∀ {act : Action ExecutionResult},
      AsksOnce id act session (fun _ _ => False)
        (fun request reply result _ => Model.EndsExecution request reply result) →
      ∃ request, EndsAfter session request (runAs .executed act session) :=
    fun asks => endsAfter_of_asksOnce asks .executed (fun _ holds => holds) (fun _ _ rows => rows)
      (fun _ _ impossible => impossible.elim) fun _ _ _ _ ends => ends.2.2
  have queries : ∀ {α : Type} {act : Action α} (form : α → Answer),
      (∀ answer, ¬ (form answer).SpeaksOfRows) →
      (∀ answer execution, execution.ReportsRows → (form answer).RestsOn execution) →
      AsksOnce id act session (fun _ _ => False)
        (fun _ reply result _ => Model.EndsQuery reply result) →
      ∃ request, EndsAfter session request (runAs form act session) :=
    fun form silent rests asks => endsAfter_of_asksOnce asks form silent rests
      (fun _ _ impossible => impossible.elim) fun _ _ _ _ ends => ends
  cases operation with
  | save record validated =>
      exact endsAfter_of_asksOnce (record.asksOnce_save model validated session) .inserted
        (fun _ holds => holds) (fun _ _ rows => rows)
        (fun _ _ alone holds => by cases alone.symm.trans holds)
        fun _ _ _ _ ends => ends.2.2
  | update record validated =>
      exact endsAfter_of_asksOnce (record.asksOnce_update model validated session) .updated
        (fun _ holds => holds) (fun _ _ rows => rows)
        (fun _ _ alone holds => by cases alone.symm.trans holds)
        fun _ _ _ _ ends => ends.2.choose_spec.2.2
  | remove record =>
      exact endsAfter_of_asksOnce (record.asksOnce_remove model session) .removed
        (fun _ holds => holds) (fun _ _ rows => rows) (fun _ _ impossible => impossible.elim)
        fun _ _ _ _ ends => ends
  | find condition options =>
      exact queries .records (fun _ impossible => impossible) (fun _ _ rows => rows)
        (model.asksOnce_find condition options session)
  | findOne condition options =>
      exact queries .record (fun _ impossible => impossible) (fun _ _ rows => rows)
        (model.asksOnce_findOne condition options session)
  | touch key =>
      exact queries .record (fun _ impossible => impossible) (fun _ _ rows => rows)
        (model.asksOnce_touch key session)
  | count condition options =>
      exact queries .counted (fun _ impossible => impossible) (fun _ _ rows => rows)
        (model.asksOnce_count condition options session)
  | removeWhere condition => exact executes (model.asksOnce_removeWhere condition session)
  | updateWhere condition values =>
      exact endsAfter_of_asksOnce (model.asksOnce_updateWhere condition values session) .updated
        (fun _ holds => holds) (fun _ _ rows => rows)
        (fun _ _ alone holds => by cases alone.symm.trans holds)
        fun _ _ _ _ ends => ends.2.choose_spec.2.2
  | createTable => exact executes (model.asksOnce_createTable session)
  | dropTable =>
      exact executes (Model.asksOnce_executeStatement (Statement.drop model.table) session)

/-- One statement at most, and none where the operation is refused. Every operation gives the
backend one statement at most and passes on its fault; what it refuses, and what validation
rejects, was not asked; rows are only spoken of where the backend reported some, for which an
insertion also takes a count that is no number. Updates and removals of a record ask for its key
exactly where there is none. -/
theorem one_statement_at_most (model : Model) (session : Session) :
    (∀ operation : Operation,
      ∃ request, EndsAfter session request (operation.run model session)) ∧
    (∀ record verdict next,
      record.validate model (.bool false) session = (.ok verdict, next) →
      verdict.truthy = false →
        (Operation.save record true).run model session = (.ok (.inserted false), next) ∧
          session.Asks none next) ∧
    (∀ record key found verdict next,
      record.keyValue model .update session = (.ok key, found) →
      record.validate model (.bool true) found = (.ok verdict, next) →
      verdict.truthy = false →
        (Operation.update record true).run model session = (.ok (.updated .nothing), next) ∧
          session.Asks none next) ∧
    ∀ record : Record, record.FindsOwnKey →
      (∀ validated, (∃ operation name, ((Operation.update record validated).run model session).1 =
          .error (.missingPrimaryKey operation name)) ↔ record.LacksKey model.table) ∧
        ((∃ operation name, ((Operation.remove record).run model session).1 =
          .error (.missingPrimaryKey operation name)) ↔ record.LacksKey model.table) := by
  refine ⟨fun operation => operation.exists_endsAfter model session, ?_, ?_, ?_⟩
  · intro record verdict next validates rejects
    constructor
    · simp only [run, runOn, Record.save_of_rejected validates rejects]
      rfl
    · have quiet := record.quiet_validate model (.bool false) session
      rw [validates] at quiet
      exact quiet
  · intro record key found verdict next keyed validates rejects
    constructor
    · simp only [run, runOn, Record.update_apply, keyed,
        Record.updateRow_of_rejected validates rejects]
      rfl
    · have finds := record.quiet_keyValue model .update session
      have quiet := record.quiet_validate model (.bool true) found
      rw [keyed] at finds
      rw [validates] at quiet
      exact quiet.trans finds
  · intro record own
    have labelled : ∀ {α : Type} (form : α → Answer) (result : Except Fault α) (fault : Fault),
        result.map form = .error fault ↔ result = .error fault := by
      intro α form result fault
      cases result with
      | error cause => constructor <;> intro same <;> cases same <;> rfl
      | ok answer => constructor <;> intro impossible <;> cases impossible
    simp only [run, runOn, labelled]
    exact ⟨fun validated => Record.update_missingKey_iff own validated session,
      Record.remove_missingKey_iff own session⟩

/-- Records whose model does not let people be active, and people without a key. -/
theorem one_statement_at_most_people :
    let model : Model := ⟨people, some ⟨"active", .bool true⟩⟩
    let stranger : Record := ⟨"Person", [(.text "id", ⟨.unset, none⟩)], []⟩
    (Operation.save activePerson true).run model newSession = (.ok (.inserted false), newSession) ∧
      (Operation.update activePerson true).run model newSession =
        (.ok (.updated .nothing), newSession) ∧
      ∃ operation name, ((Operation.remove stranger).run model newSession).1 =
        .error (.missingPrimaryKey operation name) := by
  intro model stranger
  obtain ⟨_, saves, updates, keys⟩ := one_statement_at_most model newSession
  refine ⟨(saves activePerson (.bool false) newSession ?_ rfl).1,
    (updates activePerson (.int 7) newSession (.bool false) newSession ?_ ?_ rfl).1,
    (keys stranger ⟨?_, ?_⟩).2.mpr (.inr ⟨"id", ?_, ?_⟩)⟩
  · rfl
  · rfl
  · rfl
  · rfl
  · rfl
  · rfl
  · exact .inr (.inl rfl)

end Operation

end RowMapper
