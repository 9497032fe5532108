import RowMapper.Proofs.Writing

/-!
# One statement for the backend

An operation gives the backend one statement at most. `AsksOnce` says how such a run ends: `alone`
is about a run that gave none, and `asked` about a run that gave one, with the statement and what
the backend answered. Steps before the statement and after it are quiet, so a run is put together
from quiet steps around the step that `Gives` the statement. `FailsOnly` bounds the faults that the
steps can end with.
-/

namespace RowMapper

/-- A statement as it is given to a backend, to change data or to read it. -/
structure Request where
  use : StatementUse
  statement : Statement

/-- What a backend answers to a statement of either use. -/
inductive Reply where
  | execution (result : ExecutionResult)
  | rows (rows : List Value)

/-- An exchange with its answer in another form. -/
def Exchange.map {α β : Type} (form : α → β) (exchange : Exchange α) : Exchange β where
  result := exchange.result.map form
  backend := exchange.backend
  calls := exchange.calls
  events := exchange.events

/-- Take a statement of either use. -/
def Backend.take (backend : Backend) (request : Request) : Exchange Reply :=
  match request.use with
  | .execute =>
      (backend.execute request.statement.sql (.tuple request.statement.parameters)).map .execution
  | .query =>
      (backend.query request.statement.sql (.tuple request.statement.parameters)).map .rows

/-- Whether all that others can see between two sessions is that the backend was given a request,
or nothing at all where there is none. -/
def Session.Asks (first : Session) (request : Option Request) (last : Session) : Prop :=
  match request with
  | none => last.outward = first.outward
  | some request => last.outward = (first.after (first.backend.take request)).outward

theorem Session.Asks.of_outward_eq {first next last : Session} {request : Option Request}
    (same : next.outward = first.outward) (asks : next.Asks request last) :
    first.Asks request last := by
  cases request with
  | none => exact Eq.trans asks same
  | some request =>
      have backend : next.backend = first.backend := congrArg Prod.fst same
      have calls : next.calls = first.calls := congrArg Prod.snd same
      simp only [Asks, outward, after, backend, calls] at asks ⊢
      exact asks

/-- Whether the backend was given nothing between two sessions, or one statement of which something
is known. -/
def Session.AsksOnly (first last : Session) (known : Statement → Prop) : Prop :=
  first.Asks none last ∨ ∃ request, first.Asks (some request) last ∧ known request.statement

/-- A run that answers went through both of its parts. -/
theorem bind_eq_ok {ε σ α β : Type} {head : ExceptT ε (StateM σ) α}
    {rest : α → ExceptT ε (StateM σ) β} {state last : σ} {answer : β}
    (ran : (head >>= rest) state = (.ok answer, last)) :
    ∃ middle next, head state = (.ok middle, next) ∧ rest middle next = (.ok answer, last) := by
  rw [bind_apply] at ran
  rcases started : head state with ⟨fault | middle, next⟩
  · rw [started] at ran
    cases ran
  · rw [started] at ran
    exact ⟨middle, next, rfl, ran⟩

section

variable {σ α β γ : Type} {session : σ → Session} {first : σ}

/-- How a run ends that gives the backend one statement at most. -/
def AsksOnce (session : σ → Session) (act : ExceptT Fault (StateM σ) α) (first : σ)
    (alone : α → σ → Prop)
    (asked : Request → Except Fault Reply → Except Fault α → σ → Prop) : Prop :=
  ((session first).Asks none (session (act first).2) ∧
      ∀ answer, (act first).1 = .ok answer → alone answer (act first).2) ∨
    ∃ request, (session first).Asks (some request) (session (act first).2) ∧
      asked request ((session first).backend.take request).result (act first).1 (act first).2

/-- Whether a step gives a request to the backend and answers with what the backend answered. -/
def Gives (session : σ → Session) (act : ExceptT Fault (StateM σ) γ) (first : σ)
    (request : Request) (reply : γ → Reply) : Prop :=
  (session first).Asks (some request) (session (act first).2) ∧
    ((session first).backend.take request).result = (act first).1.map reply

namespace AsksOnce

variable {alone : α → σ → Prop}
  {asked : Request → Except Fault Reply → Except Fault α → σ → Prop}

/-- A quiet run gives nothing. -/
theorem of_quiet {act : ExceptT Fault (StateM σ) α}
    (quiet : Leaves (fun state => (session state).outward) act)
    (known : ∀ answer, (act first).1 = .ok answer → alone answer (act first).2) :
    AsksOnce session act first alone asked :=
  .inl ⟨quiet first, known⟩

theorem pure {answer : α} (known : alone answer first) :
    AsksOnce session (pure answer) first alone asked := by
  apply of_quiet (Leaves.pure answer)
  intro other same
  cases same
  exact known

theorem throw {fault : Fault} : AsksOnce session (throw fault) first alone asked := by
  apply of_quiet (Leaves.throw fault)
  intro other same
  cases same

/-- A quiet step in front of a run. -/
theorem bind {head : ExceptT Fault (StateM σ) β} {rest : β → ExceptT Fault (StateM σ) α}
    (quiet : Leaves (fun state => (session state).outward) head)
    (continues : ∀ answer next, head first = (.ok answer, next) →
      AsksOnce session (rest answer) next alone asked) :
    AsksOnce session (head >>= rest) first alone asked := by
  have same := quiet first
  rcases ran : head first with ⟨fault | answer, next⟩
  · have ends : (head >>= rest) first = (.error fault, next) := by rw [bind_apply, ran]
    rw [ran] at same
    rw [AsksOnce, ends]
    refine .inl ⟨same, ?_⟩
    intro answer impossible
    cases impossible
  · have ends : (head >>= rest) first = rest answer next := by rw [bind_apply, ran]
    rw [ran] at same
    have backend : (session next).backend = (session first).backend := congrArg Prod.fst same
    rw [AsksOnce, ends]
    rcases continues answer next ran with ⟨asks, known⟩ | ⟨request, asks, known⟩
    · exact .inl ⟨asks.of_outward_eq same, known⟩
    · rw [backend] at known
      exact .inr ⟨request, asks.of_outward_eq same, known⟩

/-- The step that gives the statement, with quiet steps behind it. -/
theorem of_gives {head : ExceptT Fault (StateM σ) γ} {rest : γ → ExceptT Fault (StateM σ) α}
    {request : Request} {reply : γ → Reply} (gives : Gives session head first request reply)
    (quiet : ∀ answer, Leaves (fun state => (session state).outward) (rest answer))
    (failed : ∀ fault next, ((session first).backend.take request).result = .error fault →
      head first = (.error fault, next) → asked request (.error fault) (.error fault) next)
    (continues : ∀ answer next, head first = (.ok answer, next) →
      asked request (.ok (reply answer)) (rest answer next).1 (rest answer next).2) :
    AsksOnce session (head >>= rest) first alone asked := by
  obtain ⟨asks, replied⟩ := gives
  right
  refine ⟨request, ?_⟩
  rcases ran : head first with ⟨fault | answer, next⟩
  · rw [ran] at asks replied
    rw [bind_apply, ran]
    have failing := failed fault next replied ran
    rw [replied]
    exact ⟨asks, failing⟩
  · have known := continues answer next ran
    have silent := quiet answer next
    rw [ran] at asks replied
    rw [bind_apply, ran, replied]
    exact ⟨silent.trans asks, known⟩

/-- Quiet steps behind a run. -/
theorem followed {head : ExceptT Fault (StateM σ) γ} {rest : γ → ExceptT Fault (StateM σ) α}
    {aloneFirst : γ → σ → Prop}
    {askedFirst : Request → Except Fault Reply → Except Fault γ → σ → Prop}
    (asks : AsksOnce session head first aloneFirst askedFirst)
    (quiet : ∀ answer, Leaves (fun state => (session state).outward) (rest answer))
    (ofAlone : ∀ answer next, aloneFirst answer next → ∀ final,
      (rest answer next).1 = .ok final → alone final (rest answer next).2)
    (failed : ∀ request reply fault next, askedFirst request reply (.error fault) next →
      asked request reply (.error fault) next)
    (continues : ∀ request reply answer next, askedFirst request reply (.ok answer) next →
      asked request reply (rest answer next).1 (rest answer next).2) :
    AsksOnce session (head >>= rest) first alone asked := by
  rw [AsksOnce] at asks ⊢
  rw [bind_apply]
  rcases ran : head first with ⟨fault | answer, next⟩
  · rw [ran] at asks
    rcases asks with ⟨same, _⟩ | ⟨request, given, known⟩
    · refine .inl ⟨same, ?_⟩
      intro final impossible
      cases impossible
    · exact .inr ⟨request, given, failed _ _ _ _ known⟩
  · have silent := quiet answer next
    rw [ran] at asks
    rcases asks with ⟨same, known⟩ | ⟨request, given, known⟩
    · exact .inl ⟨silent.trans same, ofAlone answer next (known answer rfl)⟩
    · exact .inr ⟨request, silent.trans given, continues _ _ _ _ known⟩

/-- What is known of the statement alone. -/
theorem asksOnly {act : ExceptT Fault (StateM σ) α} {known : Statement → Prop}
    (asks : AsksOnce session act first alone asked)
    (ofAsked : ∀ request reply result last, asked request reply result last →
      known request.statement) : (session first).AsksOnly (session (act first).2) known := by
  rcases asks with ⟨same, _⟩ | ⟨request, given, holds⟩
  · exact .inl same
  · exact .inr ⟨request, given, ofAsked _ _ _ _ holds⟩

end AsksOnce

end

/-! ## Quiet steps on a session -/

namespace Action

variable {α : Type}

theorem quiet_ofReport (outcome : Report α) : Quiet (ofReport outcome) :=
  Leaves.bind (quiet_report outcome.events) fun _ => quiet_ofResult outcome.result

theorem quiet_ofEvaluation (evaluation : Evaluation (Report α)) :
    Quiet (ofEvaluation evaluation) :=
  Leaves.bind (quiet_inEnvironment evaluation) fun _ => quiet_ofReport _

end Action

/-! ## The step that gives the statement -/

theorem Action.gives_executeStatement (statement : Statement) (first : Session) :
    Gives id (Action.executeStatement statement) first ⟨.execute, statement⟩ .execution :=
  ⟨rfl, rfl⟩

theorem Action.gives_queryStatement (statement : Statement) (first : Session) :
    Gives id (Action.queryStatement statement) first ⟨.query, statement⟩ .rows :=
  ⟨rfl, rfl⟩

theorem RecordAction.gives_executeStatement (statement : Statement) (work : Work) :
    Gives Work.session (ofAction (Action.executeStatement statement)) work ⟨.execute, statement⟩
      .execution :=
  ⟨rfl, rfl⟩

/-! ## Quiet steps on a record -/

namespace RecordAction

variable {α β : Type}

/-- Whether an operation on a record stays inside the session. It may change the record. -/
abbrev Quiet (act : RecordAction α) : Prop :=
  Leaves (fun work => work.session.outward) act

/-- Whether an operation stays inside the session and leaves the record as it is. -/
abbrev Still (act : RecordAction α) : Prop :=
  Leaves (fun work => (work.record, work.session.outward)) act

theorem Still.quiet {act : RecordAction α} (still : act.Still) : act.Quiet :=
  fun work => congrArg Prod.snd (still work)

theorem Still.record_eq {act : RecordAction α} (still : act.Still) {work next : Work}
    {result : Except Fault α} (ran : act work = (result, next)) : next.record = work.record := by
  have same := congrArg Prod.fst (still work)
  rw [ran] at same
  exact same

theorem still_ofAction {act : Action α} (quiet : act.Quiet) : (ofAction act).Still :=
  fun work => congrArg (Prod.mk work.record) (quiet work.session)

theorem still_ofOperand (result : Except ValueFault α) : (ofOperand result).Still :=
  still_ofAction (Action.quiet_ofOperand result)

theorem still_ofRecord (read : Record → Except ValueFault α) : (ofRecord read).Still :=
  fun _ => rfl

theorem still_current : current.Still :=
  fun _ => rfl

theorem quiet_change (act : Record → Except ValueFault Record) : (change act).Quiet := by
  intro work
  simp only [change]
  split
  · rfl
  · rfl

/-- An operation on the session alone leaves the record as it is. -/
theorem record_eq_of_ofAction {act : Action α} {work next : Work} {result : Except Fault α}
    (ran : ofAction act work = (result, next)) : next.record = work.record :=
  (congrArg (fun ends => ends.2.record) ran).symm

theorem ofAction_apply {act : Action α} {work : Work} {result : Except Fault α}
    {session : Session} (ran : act work.session = (result, session)) :
    ofAction act work = (result, { work with session }) := by
  rw [ofAction, ran]

theorem ofRecord_apply (read : Record → Except ValueFault α) (work : Work)
    {result : Except ValueFault α} (given : read work.record = result) :
    ofRecord read work = (result.mapError .operand, work) := by
  rw [ofRecord, given]

theorem ofAction_eq_ok {act : Action α} {work next : Work} {answer : α}
    (ran : ofAction act work = (.ok answer, next)) :
    act work.session = (.ok answer, next.session) ∧ next.record = work.record := by
  cases ran' : act work.session with
  | mk result later =>
      simp only [ofAction, ran'] at ran
      cases ran
      exact ⟨rfl, rfl⟩

theorem ofRecord_eq_ok {read : Record → Except ValueFault α} {work next : Work} {answer : α}
    (ran : ofRecord read work = (.ok answer, next)) :
    read work.record = .ok answer ∧ next = work := by
  exact ⟨Except.eq_ok_of_mapError (congrArg Prod.fst ran), (congrArg Prod.snd ran).symm⟩

theorem change_eq_ok {act : Record → Except ValueFault Record} {work next : Work}
    (ran : change act work = (.ok (), next)) :
    act work.record = .ok next.record ∧ next.session = work.session := by
  simp only [change] at ran
  cases changed : act work.record with
  | error fault => rw [changed] at ran; cases ran
  | ok record =>
      rw [changed] at ran
      cases ran
      exact ⟨rfl, rfl⟩

theorem current_apply (work : Work) : current work = (.ok work.record, work) := rfl

theorem current_eq_ok {work next : Work} {record : Record}
    (ran : current work = (.ok record, next)) : record = work.record ∧ next = work := by
  cases ran
  exact ⟨rfl, rfl⟩

end RecordAction

namespace Action

variable {α : Type}

theorem inEnvironment_apply {evaluation : Evaluation α} {session : Session}
    {result : Except ValueFault α} {environment : Environment}
    (ran : evaluation session.environment = (result, environment)) :
    inEnvironment evaluation session =
      (result.mapError .operand, { session with environment }) := by
  rw [inEnvironment, ran]

/-- Reporting no event leaves the session as it is. -/
theorem report_nil (session : Session) : report [] session = (.ok (), session) := by
  change (Except.ok (), { session with events := session.events ++ [] }) = _
  rw [List.append_nil]

theorem inEnvironment_eq_ok {evaluation : Evaluation α} {session next : Session} {answer : α}
    (ran : inEnvironment evaluation session = (.ok answer, next)) :
    (evaluation session.environment).1 = .ok answer := by
  exact Except.eq_ok_of_mapError (congrArg Prod.fst ran)

theorem ofResult_eq_ok {result : Except Fault α} {session next : Session} {answer : α}
    (ran : ofResult result session = (.ok answer, next)) :
    result = .ok answer ∧ next = session := by
  cases ran
  exact ⟨rfl, rfl⟩

theorem ofOperand_eq_ok {result : Except ValueFault α} {session next : Session} {answer : α}
    (ran : ofOperand result session = (.ok answer, next)) :
    result = .ok answer ∧ next = session := by
  exact ⟨Except.eq_ok_of_mapError (congrArg Prod.fst ran), (congrArg Prod.snd ran).symm⟩

end Action

/-! ## Runs that begin with a quiet step of one of these kinds -/

/-- What an operation on the session alone gives, it gives beside a record. -/
theorem AsksOnce.beside {α : Type} {act : Action α} {work : Work} {alone : α → Session → Prop}
    {asked : Request → Except Fault Reply → Except Fault α → Session → Prop}
    (asks : AsksOnce id act work.session alone asked) :
    AsksOnce Work.session (RecordAction.ofAction act) work
      (fun answer last => alone answer last.session)
      (fun request reply result last => asked request reply result last.session) :=
  asks

namespace AsksOnce

variable {α β : Type} {work : Work} {alone : α → Work → Prop}
  {asked : Request → Except Fault Reply → Except Fault α → Work → Prop}

theorem ofRecord {read : Record → Except ValueFault β} {rest : β → RecordAction α}
    (continues : ∀ answer, read work.record = .ok answer →
      AsksOnce Work.session (rest answer) work alone asked) :
    AsksOnce Work.session (RecordAction.ofRecord read >>= rest) work alone asked := by
  apply bind (RecordAction.still_ofRecord read).quiet
  intro answer next ran
  obtain ⟨found, same⟩ := RecordAction.ofRecord_eq_ok ran
  rw [same]
  exact continues answer found

theorem current {rest : Record → RecordAction α}
    (continues : AsksOnce Work.session (rest work.record) work alone asked) :
    AsksOnce Work.session (RecordAction.current >>= rest) work alone asked := by
  apply bind RecordAction.still_current.quiet
  intro record next ran
  obtain ⟨found, same⟩ := RecordAction.current_eq_ok ran
  rw [found, same]
  exact continues

theorem ofAction {act : Action β} {rest : β → RecordAction α} (quiet : act.Quiet)
    (continues : ∀ answer session, act work.session = (.ok answer, session) →
      AsksOnce Work.session (rest answer) ⟨work.record, session⟩ alone asked) :
    AsksOnce Work.session (RecordAction.ofAction act >>= rest) work alone asked := by
  apply bind (RecordAction.still_ofAction quiet).quiet
  intro answer next ran
  obtain ⟨found, kept⟩ := RecordAction.ofAction_eq_ok ran
  have same : next = ⟨work.record, next.session⟩ := by rw [← kept]
  rw [same]
  exact continues answer next.session found

/-- A step that leaves the record as it is. -/
theorem still {head : RecordAction β} {rest : β → RecordAction α} (still : head.Still)
    (continues : ∀ answer session,
      AsksOnce Work.session (rest answer) ⟨work.record, session⟩ alone asked) :
    AsksOnce Work.session (head >>= rest) work alone asked := by
  apply bind still.quiet
  intro answer next ran
  have same : next = ⟨work.record, next.session⟩ := by rw [← still.record_eq ran]
  rw [same]
  exact continues answer next.session

end AsksOnce

/-! ## Faults that steps can end with -/

section

variable {σ α β : Type}

/-- Whether every fault that an operation can end with is of a kind. -/
def FailsOnly (allowed : Fault → Prop) (act : ExceptT Fault (StateM σ) α) : Prop :=
  ∀ state fault, (act state).1 = .error fault → allowed fault

namespace FailsOnly

variable {allowed : Fault → Prop}

theorem pure (answer : α) : FailsOnly allowed (pure answer : ExceptT Fault (StateM σ) α) := by
  intro state fault failed
  cases failed

theorem bind {head : ExceptT Fault (StateM σ) β} {rest : β → ExceptT Fault (StateM σ) α}
    (first : FailsOnly allowed head) (later : ∀ answer, FailsOnly allowed (rest answer)) :
    FailsOnly allowed (head >>= rest) := by
  intro state fault failed
  rw [bind_apply] at failed
  rcases ran : head state with ⟨early | answer, next⟩
  · rw [ran] at failed
    cases failed
    exact first state fault (by rw [ran])
  · rw [ran] at failed
    exact later answer next fault failed

theorem weaken {wider : Fault → Prop} {act : ExceptT Fault (StateM σ) α}
    (fails : FailsOnly allowed act) (implies : ∀ fault, allowed fault → wider fault) :
    FailsOnly wider act :=
  fun state fault failed => implies fault (fails state fault failed)

end FailsOnly

end

/-- Whether a fault is one about values. -/
def Fault.IsOperand (fault : Fault) : Prop :=
  ∃ cause, fault = .operand cause

theorem Fault.isOperand_of_mapError {α : Type} {result : Except ValueFault α} {fault : Fault}
    (failed : result.mapError .operand = .error fault) : fault.IsOperand := by
  cases result with
  | error cause => cases failed; exact ⟨cause, rfl⟩
  | ok answer => cases failed

namespace Action

variable {α : Type}

theorem failsOnly_ofOperand (result : Except ValueFault α) :
    FailsOnly Fault.IsOperand (ofOperand result) :=
  fun _ _ failed => Fault.isOperand_of_mapError failed

theorem failsOnly_inEnvironment (evaluation : Evaluation α) :
    FailsOnly Fault.IsOperand (inEnvironment evaluation) :=
  fun _ _ failed => Fault.isOperand_of_mapError failed

end Action

namespace RecordAction

variable {α : Type} {allowed : Fault → Prop}

theorem failsOnly_ofAction {act : Action α} (fails : FailsOnly allowed act) :
    FailsOnly allowed (ofAction act) :=
  fun work fault failed => fails work.session fault failed

theorem failsOnly_ofOperand (result : Except ValueFault α) :
    FailsOnly Fault.IsOperand (ofOperand result) :=
  failsOnly_ofAction (Action.failsOnly_ofOperand result)

theorem failsOnly_ofRecord (read : Record → Except ValueFault α) :
    FailsOnly Fault.IsOperand (ofRecord read) :=
  fun _ _ failed => Fault.isOperand_of_mapError failed

theorem failsOnly_change (act : Record → Except ValueFault Record) :
    FailsOnly Fault.IsOperand (change act) := by
  intro work fault failed
  simp only [change] at failed
  split at failed
  · cases failed
  · cases failed
    exact ⟨_, rfl⟩

end RecordAction

end RowMapper
