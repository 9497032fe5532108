import RowMapper.Proofs.Request

/-!
# How the operations end

Every operation on a table or a record gives the backend one statement at most. For each of them it
is said how its result follows from what the backend answered, and for those that write a record
also from which row or assignments the statement came and what became of the record.
-/

namespace RowMapper

/-- Whether a fault refuses an operation before anything is asked of the backend: there is no key
where one is needed, or no condition. -/
def Fault.isRefusal : Fault → Bool
  | .missingPrimaryKey .. | .keylessModel _ | .keylessTouch _ | .unconditionalUpdate _
  | .unconditionalDelete _ => true
  | _ => false

theorem Fault.IsOperand.isRefusal_eq {fault : Fault} (operand : fault.IsOperand) :
    fault.isRefusal = false := by
  obtain ⟨cause, rfl⟩ := operand
  rfl

theorem nextScripted_eq_error {α : Type} {standard : α} {script : List (Scripted α)}
    {fault : Fault} (failed : nextScripted standard script = .error fault) :
    ∃ text, fault = .backend text := by
  simp only [nextScripted] at failed
  split at failed
  · cases failed
  · cases failed
    exact ⟨_, rfl⟩
  · cases failed

/-- What is made of a scripted answer fails with the scripted fault or over a value. -/
theorem isRefusal_of_nextScripted_bind {α β : Type} {standard : α} {script : List (Scripted α)}
    {form : α → Except ValueFault β} {fault : Fault}
    (failed : (nextScripted standard script >>= fun answer => (form answer).mapError .operand) =
      .error fault) : fault.isRefusal = false := by
  cases answered : nextScripted standard script with
  | error cause =>
      rw [answered] at failed
      cases failed
      obtain ⟨text, rfl⟩ := nextScripted_eq_error answered
      rfl
  | ok answer =>
      rw [answered] at failed
      exact (Fault.isOperand_of_mapError failed).isRefusal_eq

theorem Sql.BindFault.isRefusal_toFault (fault : BindFault) : fault.toFault.isRefusal = false := by
  cases fault with
  | operand cause => rfl
  | mismatch placeholders parameters => rfl

namespace Engine

variable {engine : Engine} {sql : String} {parameters : Value} {fault : Fault}

theorem isRefusal_of_execute (failed : (engine.execute sql parameters).result = .error fault) :
    fault.isRefusal = false := by
  simp only [execute] at failed
  split at failed
  next cause _ =>
    cases failed
    exact cause.isRefusal_toFault
  next => exact isRefusal_of_nextScripted_bind failed

theorem isRefusal_of_query (failed : (engine.query sql parameters).result = .error fault) :
    fault.isRefusal = false := by
  simp only [query] at failed
  split at failed
  next cause _ =>
    cases failed
    exact cause.isRefusal_toFault
  next => exact isRefusal_of_nextScripted_bind failed

end Engine

namespace Backend

variable {backend : Backend} {request : Request} {fault : Fault}

theorem result_of_map_eq_error {α β : Type} {exchange : Exchange α} {form : α → β}
    (failed : (exchange.map form).result = .error fault) : exchange.result = .error fault := by
  simp only [Exchange.map] at failed
  cases answered : exchange.result with
  | error cause => rw [answered] at failed; cases failed; rfl
  | ok answer => rw [answered] at failed; cases failed

/-- A backend refuses nothing for want of a key or a condition. -/
theorem isRefusal_of_take (failed : (backend.take request).result = .error fault) :
    fault.isRefusal = false := by
  simp only [take] at failed
  split at failed
  next =>
    have failed := result_of_map_eq_error failed
    cases backend with
    | engine state => exact Engine.isRefusal_of_execute failed
    | recorder state =>
        obtain ⟨text, rfl⟩ := nextScripted_eq_error failed
        rfl
  next =>
    have failed := result_of_map_eq_error failed
    cases backend with
    | engine state => exact Engine.isRefusal_of_query failed
    | recorder state =>
        obtain ⟨text, rfl⟩ := nextScripted_eq_error failed
        rfl

end Backend

/-! ## Results that follow from an answer -/

/-- Whether the backend reported that rows were affected: their count is above zero. -/
def ExecutionResult.ReportsRows (result : ExecutionResult) : Prop :=
  result.affectsRows = .ok true

/-- Whether an insertion takes the reported count for a row. It asks whether the count is zero or
less, and one that is no number stands in no order to zero. -/
def ExecutionResult.ReportsInsertedRow (result : ExecutionResult) : Prop :=
  result.ReportsRows ∨ ∃ mark, result.affectedRows = .float (.nan mark)

/-- How the result of an operation follows from the backend's answer: a fault of the backend is
passed on as it is, no other fault is a refusal, and there is success only where it rests on what
the backend reported. -/
structure Follows {α : Type} (succeeds : α → Prop) (restsOn : α → ExecutionResult → Prop)
    (reply : Except Fault Reply) (result : Except Fault α) : Prop where
  passesOn : ∀ fault, reply = .error fault → result = .error fault
  notRefusal : ∀ fault, result = .error fault → fault.isRefusal = false
  reports : ∀ answer, result = .ok answer → succeeds answer →
    ∃ execution, reply = .ok (.execution execution) ∧ restsOn answer execution

namespace Follows

variable {α : Type} {succeeds : α → Prop} {restsOn : α → ExecutionResult → Prop}

theorem of_error {fault : Fault} (notRefusal : fault.isRefusal = false) :
    Follows succeeds restsOn (.error fault) (.error fault) where
  passesOn := by
    intro other same
    cases same
    rfl
  notRefusal := by
    intro other same
    cases same
    exact notRefusal
  reports := by
    intro answer impossible
    cases impossible

theorem of_operand {reply : Reply} {cause : ValueFault} :
    Follows succeeds restsOn (.ok reply) (.error (.operand cause)) where
  passesOn := by
    intro other impossible
    cases impossible
  notRefusal := by
    intro other same
    cases same
    rfl
  reports := by
    intro answer impossible
    cases impossible

theorem of_ok {reply : Reply} {answer : α}
    (reports : succeeds answer → ∃ execution, reply = .execution execution ∧
      restsOn answer execution) :
    Follows succeeds restsOn (.ok reply) (.ok answer) where
  passesOn := by
    intro other impossible
    cases impossible
  notRefusal := by
    intro other impossible
    cases impossible
  reports := by
    intro other same holds
    cases same
    obtain ⟨execution, rfl, reported⟩ := reports holds
    exact ⟨execution, rfl, reported⟩

/-- What is made of the answer follows as well, if it succeeds only where the answer does and rests
on no more. -/
theorem map {β : Type} {succeedsAs : β → Prop} {restsOnAs : β → ExecutionResult → Prop}
    {reply : Except Fault Reply} {result : Except Fault α}
    (follows : Follows succeeds restsOn reply result) (form : α → β)
    (onlyIf : ∀ answer, succeedsAs (form answer) → succeeds answer)
    (rests : ∀ answer execution, restsOn answer execution → restsOnAs (form answer) execution) :
    Follows succeedsAs restsOnAs reply (result.map form) := by
  cases result with
  | error fault =>
      constructor
      · intro cause failed
        have same := follows.passesOn cause failed
        cases same
        rfl
      · intro cause same
        cases same
        exact follows.notRefusal fault rfl
      · intro answer impossible
        cases impossible
  | ok answer =>
      constructor
      · intro cause failed
        have impossible := follows.passesOn cause failed
        cases impossible
      · intro cause impossible
        cases impossible
      · intro formed same holds
        cases same
        obtain ⟨execution, replied, reported⟩ := follows.reports answer rfl (onlyIf answer holds)
        exact ⟨execution, replied, rests answer execution reported⟩

end Follows

/-! ## Counts of rows -/

namespace Value

variable {v : Value} {relation : OrderRelation} {n : Int}

/-- Numbers are ordered by what they stand for. -/
theorem ordered_of_number? {number : Number} (stands : v.number? = some number) :
    v.ordered relation (.int n) =
      .ok (((number.compare? (.finite n)).map relation.holds).getD false) := by
  cases v with
  | bool b => cases stands; rfl
  | int m => cases stands; rfl
  | float x => cases stands; rfl
  | _ => cases stands

/-- What stands in an order to an integer is a number. -/
theorem exists_number?_of_ordered {holds : Bool}
    (ordered : v.ordered relation (.int n) = .ok holds) :
    ∃ number, v.number? = some number := by
  cases v with
  | bool b => exact ⟨_, rfl⟩
  | int m => exact ⟨_, rfl⟩
  | float x => exact ⟨_, rfl⟩
  | _ => cases ordered

end Value

/-- Numbers other than the undefined one can be compared with integers. -/
theorem Number.exists_compare? {number : Number} (defined : number ≠ .undefined) (n : Int) :
    ∃ order, number.compare? (.finite n) = some order := by
  cases number with
  | undefined => exact absurd rfl defined
  | infinite negative => exact ⟨_, rfl⟩
  | finite value => exact ⟨_, rfl⟩

/-- A count that is not zero or less is above zero, unless it is no number. -/
theorem ExecutionResult.reportsInsertedRow_of_insertedRow {result : ExecutionResult}
    (inserted : Record.insertedRow result = .ok true) : result.ReportsInsertedRow := by
  have atMost : result.affectedRows.ordered .atMost (.int 0) = .ok false := by
    simp only [Record.insertedRow] at inserted
    cases compared : result.affectedRows.ordered .atMost (.int 0) with
    | error fault => rw [compared] at inserted; cases inserted
    | ok holds =>
        rw [compared] at inserted
        cases holds with
        | false => rfl
        | true => cases inserted
  obtain ⟨number, stands⟩ := Value.exists_number?_of_ordered atMost
  by_cases defined : number = .undefined
  · right
    cases count : result.affectedRows with
    | float x =>
        cases x with
        | nan mark => exact ⟨mark, rfl⟩
        | infinite negative => rw [count, defined] at stands; cases stands
        | finite negative mantissa exponent => rw [count, defined] at stands; cases stands
    | bool b => rw [count, defined] at stands; cases stands
    | int n => rw [count, defined] at stands; cases stands
    | _ => rw [count] at stands; cases stands
  · left
    obtain ⟨order, compared⟩ := number.exists_compare? defined 0
    rw [Value.ordered_of_number? stands, compared] at atMost
    rw [ReportsRows, affectsRows, Value.ordered_of_number? stands, compared]
    cases order with
    | lt => cases atMost
    | eq => cases atMost
    | gt => rfl

/-! ## Inserting a record -/

namespace Record

variable {record : Record} {model : Model} {session : Session}

theorem still_checkIf (wanted : Bool) (model : Model) (isUpdate : Bool) :
    (checkIf wanted model isUpdate).Still := by
  rw [checkIf]
  split
  · apply Leaves.bind RecordAction.still_current
    intro record
    apply Leaves.bind (RecordAction.still_ofAction (record.quiet_validate model _))
    intro verdict
    exact Leaves.pure _
  · exact Leaves.pure true

theorem quiet_stampUnset (model : Model) : (stampUnset model).Quiet := by
  rw [stampUnset]
  cases model.table.autoUpdate with
  | none => exact Leaves.pure ()
  | some column =>
      apply Leaves.bind (RecordAction.still_ofRecord _).quiet
      intro v
      split
      · apply Leaves.bind (RecordAction.still_ofAction (Action.quiet_inEnvironment _)).quiet
        intro time
        exact RecordAction.quiet_change _
      · exact Leaves.pure ()

/-- How a record is stamped before an insertion: with a value in the column kept current it stays
as it is, and where it is unset there it takes the default of that column. -/
def StampsAs (record : Record) (model : Model) (stamped : Record) : Prop :=
  (stamped = record ∧
      ∀ column, model.table.autoUpdate = some column → record.get column.name ≠ .ok .unset) ∨
    ∃ column time environment, model.table.autoUpdate = some column ∧
      record.get column.name = .ok .unset ∧ (column.resolveDefault environment).1 = .ok time ∧
      record.assign column.label time column.default.sourceMark? = .ok stamped

theorem stampsAs_of_stampUnset {work next : Work}
    (ran : stampUnset model work = (.ok (), next)) : work.record.StampsAs model next.record := by
  rw [stampUnset] at ran
  cases found : model.table.autoUpdate with
  | none =>
      rw [found] at ran
      cases ran
      refine .inl ⟨rfl, ?_⟩
      intro column impossible
      rw [found] at impossible
      cases impossible
  | some column =>
      rw [found] at ran
      obtain ⟨v, same, read, rest⟩ := bind_eq_ok ran
      obtain ⟨got, rfl⟩ := RecordAction.ofRecord_eq_ok read
      by_cases unset : v.isUnset = true
      · rw [if_pos unset] at rest
        rw [Value.isUnset_eq_true] at unset
        obtain ⟨time, later, resolved, changed⟩ := bind_eq_ok rest
        obtain ⟨timed, kept⟩ := RecordAction.ofAction_eq_ok resolved
        obtain ⟨assigned, _⟩ := RecordAction.change_eq_ok changed
        rw [kept] at assigned
        rw [unset] at got
        exact .inr ⟨column, time, _, found, got, Action.inEnvironment_eq_ok timed, assigned⟩
      · rw [if_neg unset] at rest
        cases rest
        refine .inl ⟨rfl, ?_⟩
        intro other same
        rw [found] at same
        cases same
        rw [got]
        intro equal
        cases equal
        exact unset rfl

theorem quiet_adoptKey (model : Model) (withKey : Bool) (insertId : Value) :
    (adoptKey model withKey insertId).Quiet := by
  rw [adoptKey]
  split
  · split
    · exact Leaves.pure ()
    · exact RecordAction.quiet_change _
  · exact Leaves.pure ()

theorem failsOnly_adoptKey (model : Model) (withKey : Bool) (insertId : Value) :
    FailsOnly Fault.IsOperand (adoptKey model withKey insertId) := by
  rw [adoptKey]
  split
  · split
    · exact .pure ()
    · exact RecordAction.failsOnly_change _
  · exact .pure ()

/-- What a record has become when a generated key was taken over, or could not be. -/
theorem keyedTo_adoptKey (model : Model) (insertId : Value) (work : Work) :
    work.record.KeyedTo model
      (adoptKey model (work.record.sendsKey model.table) insertId work).2.record := by
  rw [adoptKey]
  cases found : model.table.key with
  | none => exact .inl rfl
  | some column =>
      dsimp only
      split
      next => exact .inl rfl
      next taken =>
        simp only [Bool.or_eq_true, not_or, Bool.not_eq_true] at taken
        simp only [RecordAction.change]
        split
        next keyed assigned => exact .inr ⟨column, insertId, found, taken.1, taken.2, assigned⟩
        next => exact .inl rfl

/-- How an insertion of a record came to its statement, and what became of the record. -/
def InsertsAs (record : Record) (model : Model) (statement : Statement) (last : Record) : Prop :=
  ∃ stamped row, record.StampsAs model stamped ∧
    stamped.rowOf model.table (stamped.sendsKey model.table) model.table.columns = .ok row ∧
    Statement.insert model.table row = .ok statement ∧ stamped.KeyedTo model last

/-- What an insertion does once the backend has answered: where rows are reported, a generated key
is taken over. -/
def takeAnswer (model : Model) (withKey : Bool) (execution : ExecutionResult) :
    RecordAction Bool := do
  if ← RecordAction.ofOperand (insertedRow execution) then
    adoptKey model withKey execution.insertId
    return true
  else return false

section

variable {execution : ExecutionResult} (withKey : Bool) (work : Work)

theorem takeAnswer_of_error {cause : ValueFault} (failed : insertedRow execution = .error cause) :
    takeAnswer model withKey execution work = (.error (.operand cause), work) := by
  rw [takeAnswer, failed]
  rfl

theorem takeAnswer_of_false (none : insertedRow execution = .ok false) :
    takeAnswer model withKey execution work = (.ok false, work) := by
  rw [takeAnswer, none]
  rfl

theorem takeAnswer_of_true (inserted : insertedRow execution = .ok true) :
    takeAnswer model withKey execution work =
      (adoptKey model withKey execution.insertId >>= fun _ => pure true : RecordAction Bool)
        work := by
  have counted : RecordAction.ofOperand (insertedRow execution) work = (.ok true, work) := by
    rw [inserted]
    rfl
  rw [takeAnswer, bind_of_ok counted, if_pos rfl]

end

/-- How an insertion ends once the backend has answered. -/
theorem follows_takeAnswer (model : Model) (execution : ExecutionResult) (work : Work) :
    let run := takeAnswer model (work.record.sendsKey model.table) execution work
    work.record.KeyedTo model run.2.record ∧
      Follows (· = true) (fun _ execution => execution.ReportsInsertedRow)
        (.ok (.execution execution)) run.1 := by
  intro run
  cases inserted : insertedRow execution with
  | error cause =>
      have ends : run = _ := takeAnswer_of_error _ work inserted
      rw [ends]
      exact ⟨.inl rfl, .of_operand⟩
  | ok rows =>
      cases rows with
      | false =>
          have ends : run = _ := takeAnswer_of_false _ work inserted
          rw [ends]
          exact ⟨.inl rfl, .of_ok fun impossible => by cases impossible⟩
      | true =>
          have keyed := keyedTo_adoptKey model execution.insertId work
          have fails := failsOnly_adoptKey model (work.record.sendsKey model.table)
            execution.insertId work
          have ends : run = _ := takeAnswer_of_true _ work inserted
          rw [ends, bind_apply]
          rcases adopts : adoptKey model (work.record.sendsKey model.table) execution.insertId work
            with ⟨fault | _, last⟩
          · rw [adopts] at keyed fails
            obtain ⟨cause, rfl⟩ := fails fault rfl
            exact ⟨keyed, .of_operand⟩
          · rw [adopts] at keyed
            exact ⟨keyed, .of_ok fun _ =>
              ⟨execution, rfl, execution.reportsInsertedRow_of_insertedRow inserted⟩⟩

/-- How an insertion ends for which the backend was given a statement. -/
def EndsInsertion (record : Record) (model : Model) (request : Request)
    (reply : Except Fault Reply) (result : Except Fault Bool) (last : Work) : Prop :=
  request.use = .execute ∧ record.InsertsAs model request.statement last.record ∧
    Follows (· = true) (fun _ execution => execution.ReportsInsertedRow) reply result

theorem asksOnce_insertRow (stamped : Record) (model : Model) (session : Session)
    (becomes : record.StampsAs model stamped) :
    AsksOnce Work.session (insertRow model) ⟨stamped, session⟩ (fun answer _ => answer = false)
      (record.EndsInsertion model) := by
  apply AsksOnce.current
  apply AsksOnce.ofRecord
  intro row written
  apply AsksOnce.ofAction (Action.quiet_ofResult _)
  intro statement next built
  obtain ⟨built, _⟩ := Action.ofResult_eq_ok built
  apply AsksOnce.ofRecord
  intro _ _
  have inserts : ∀ last, stamped.KeyedTo model last → record.InsertsAs model statement last :=
    fun last keyed => ⟨stamped, row, becomes, written, built, keyed⟩
  apply AsksOnce.of_gives (RecordAction.gives_executeStatement statement _)
  · intro result
    apply Leaves.bind (RecordAction.still_ofOperand _).quiet
    intro inserted
    split
    · exact Leaves.bind (quiet_adoptKey model _ _) fun _ => Leaves.pure true
    · exact Leaves.pure false
  · intro fault last refused ran
    have kept := RecordAction.record_eq_of_ofAction ran
    exact ⟨rfl, inserts _ (.inl kept), .of_error (Backend.isRefusal_of_take refused)⟩
  · intro execution last ran
    have kept := RecordAction.record_eq_of_ofAction ran
    have ends := follows_takeAnswer model execution last
    dsimp only at kept
    rw [kept] at ends
    exact ⟨rfl, inserts _ ends.1, ends.2⟩

/-- An insertion gives the backend one statement at most, and answers that no row was made where it
gives none. -/
theorem asksOnce_save (record : Record) (model : Model) (validated : Bool) (session : Session) :
    AsksOnce Work.session (save model validated) ⟨record, session⟩ (fun answer _ => answer = false)
      (record.EndsInsertion model) := by
  apply AsksOnce.still (still_checkIf validated model false)
  intro valid next
  split
  · exact .pure rfl
  apply AsksOnce.ofRecord
  intro _ _
  apply AsksOnce.bind (quiet_stampUnset model)
  intro _ last ran
  have becomes := stampsAs_of_stampUnset ran
  split
  · apply AsksOnce.ofRecord
    intro _ _
    exact asksOnce_insertRow last.record model last.session becomes
  · exact asksOnce_insertRow last.record model last.session becomes

/-! ## Writing a record to its row -/

theorem quiet_adoptTime (model : Model) (time : Value) : (adoptTime model time).Quiet := by
  rw [adoptTime]
  split
  · split
    · exact Leaves.pure ()
    · exact RecordAction.quiet_change _
  · exact Leaves.pure ()

/-- How a record takes over the time of an update: it stays as it is where there is no time or no
column for it, and has the time in that column otherwise. -/
def AdoptsAs (record : Record) (model : Model) (time : Value) (adopted : Record) : Prop :=
  (adopted = record ∧ (time = .null ∨ model.table.autoUpdate = none)) ∨
    ∃ column, model.table.autoUpdate = some column ∧ time ≠ .null ∧
      record.assign column.label time column.default.sourceMark? = .ok adopted

theorem adoptsAs_of_adoptTime {time : Value} {work next : Work}
    (ran : adoptTime model time work = (.ok (), next)) :
    work.record.AdoptsAs model time next.record := by
  rw [adoptTime] at ran
  cases found : model.table.autoUpdate with
  | none =>
      rw [found] at ran
      cases ran
      exact .inl ⟨rfl, .inr found⟩
  | some column =>
      rw [found] at ran
      dsimp only at ran
      split at ran
      next isNull =>
        cases ran
        exact .inl ⟨rfl, .inl (Value.isNull_eq_true.mp isNull)⟩
      next notNull =>
        obtain ⟨assigned, _⟩ := RecordAction.change_eq_ok ran
        exact .inr ⟨column, found, fun isNull => notNull (Value.isNull_eq_true.mpr isNull),
          assigned⟩

/-- How an update of a record came to its time and its statement, and what became of the record. -/
def WritesAs (record : Record) (model : Model) (time : Value) (statement : Statement)
    (last : Record) : Prop :=
  ∃ values assignments predicate,
    record.updateValues model.table model.table.columns = .ok values ∧
      model.table.StampsTo values time assignments ∧ record.AdoptsAs model time last ∧
      model.updateStatement (last.refresh assignments) predicate = .ok statement

/-- How an update of a record ends for which the backend was given a statement: the outcome has the
time of the update where rows were changed, and no time where none were. -/
def EndsUpdate (record : Record) (model : Model) (request : Request)
    (reply : Except Fault Reply) (result : Except Fault UpdateOutcome) (last : Work) : Prop :=
  request.use = .execute ∧
    ∃ time, record.WritesAs model time request.statement last.record ∧
      (∀ outcome, result = .ok outcome →
        outcome.modifyTime = if outcome.updated then time else .null) ∧
      Follows (·.updated = true) (fun _ execution => execution.ReportsRows) reply result

end Record

namespace UpdateOutcome

variable {execution : ExecutionResult} {time : Value} {outcome : UpdateOutcome}

/-- An outcome has the time where rows were changed. -/
theorem modifyTime_of_ofResult (made : ofResult execution time = .ok outcome) :
    outcome.modifyTime = if outcome.updated then time else .null := by
  rw [ofResult] at made
  cases affected : execution.affectsRows with
  | error fault => rw [affected] at made; cases made
  | ok updated => rw [affected] at made; cases made; rfl

/-- An outcome speaks of changed rows only if the backend reported some. -/
theorem follows_ofResult (execution : ExecutionResult) (time : Value) :
    Follows (·.updated = true) (fun _ execution => execution.ReportsRows) (.ok (.execution execution))
      ((ofResult execution time).mapError .operand) := by
  rw [ofResult]
  cases affected : execution.affectsRows with
  | error fault => exact .of_operand
  | ok updated =>
      apply Follows.of_ok
      intro holds
      dsimp only at holds
      rw [holds] at affected
      exact ⟨execution, rfl, affected⟩

end UpdateOutcome

namespace Record

variable {record : Record} {model : Model} {session : Session}

theorem asksOnce_updateRow (record : Record) (model : Model) (validated : Bool) (key : Value)
    (session : Session) :
    AsksOnce Work.session (updateRow model validated key) ⟨record, session⟩
      (fun answer _ => answer.updated = false) (record.EndsUpdate model) := by
  apply AsksOnce.still (still_checkIf validated model true)
  intro valid next
  split
  · exact .pure rfl
  apply AsksOnce.ofRecord
  intro _ _
  apply AsksOnce.ofRecord
  intro values gathered
  apply AsksOnce.ofAction (Action.quiet_inEnvironment _)
  intro ⟨time, assignments⟩ stampedAt stamped
  have stamps : model.table.StampsTo values time assignments :=
    ⟨_, Action.inEnvironment_eq_ok stamped⟩
  dsimp only
  -- The record changes here, and everything behind it is about the changed record.
  apply AsksOnce.bind (quiet_adoptTime model time)
  intro _ adopted ran
  have adopts := adoptsAs_of_adoptTime ran
  apply AsksOnce.current
  split
  · exact .pure rfl
  apply AsksOnce.ofAction (Action.quiet_ofEvaluation _)
  intro predicate compiledAt _
  apply AsksOnce.ofAction (Action.quiet_ofResult _)
  intro statement builtAt built
  obtain ⟨built, _⟩ := Action.ofResult_eq_ok built
  apply AsksOnce.ofRecord
  intro _ _
  have writes : record.WritesAs model time statement adopted.record :=
    ⟨values, assignments, predicate, gathered, stamps, adopts, built⟩
  apply AsksOnce.of_gives (RecordAction.gives_executeStatement statement _)
  · intro execution
    exact (RecordAction.still_ofOperand _).quiet
  · intro fault last refused sent
    have kept := RecordAction.record_eq_of_ofAction sent
    refine ⟨rfl, time, ?_, ?_, .of_error (Backend.isRefusal_of_take refused)⟩
    · rw [kept]
      exact writes
    · intro outcome impossible
      cases impossible
  · intro execution last sent
    have kept := RecordAction.record_eq_of_ofAction sent
    refine ⟨rfl, time, ?_, ?_, UpdateOutcome.follows_ofResult execution time⟩
    · change record.WritesAs model time statement last.record
      rw [kept]
      exact writes
    · intro outcome made
      exact UpdateOutcome.modifyTime_of_ofResult (Except.eq_ok_of_mapError made)

/-- An update of a record gives the backend one statement at most, and speaks of no changed rows
where it gives none. -/
theorem asksOnce_update (record : Record) (model : Model) (validated : Bool) (session : Session) :
    AsksOnce Work.session (update model validated) ⟨record, session⟩
      (fun answer _ => answer.updated = false) (record.EndsUpdate model) := by
  apply AsksOnce.current
  apply AsksOnce.ofAction (record.quiet_keyValue model .update)
  intro key next _
  exact asksOnce_updateRow record model validated key next

end Record

end RowMapper
