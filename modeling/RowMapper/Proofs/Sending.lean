import RowMapper.Proofs.Run
import RowMapper.Record.Storing

/-!
# What reaches the backend

Most of what an operation does stays inside the session: it evaluates, validates and reports, and
neither the backend nor the note of its calls changes. Such steps are quiet. The backend changes in
one step only, which hands it a statement, and every call that comes of this carries that statement.
-/

namespace RowMapper

/-- The part of a session that others can see: the backend and what was called. -/
def Session.outward (session : Session) : Backend × List Call :=
  (session.backend, session.calls)

namespace Action

variable {α : Type}

/-- Whether an operation stays inside the session. -/
abbrev Quiet (act : Action α) : Prop :=
  Leaves Session.outward act

theorem quiet_ofResult (result : Except Fault α) : Quiet (ofResult result) := fun _ => rfl

theorem quiet_ofOperand (result : Except ValueFault α) : Quiet (ofOperand result) := fun _ => rfl

theorem quiet_report (events : List Event) : Quiet (report events) := fun _ => rfl

theorem quiet_inEnvironment (evaluation : Evaluation α) : Quiet (inEnvironment evaluation) :=
  fun _ => rfl

end Action

/-! ## Statements that are handed over -/

namespace Call

/-- Whether a call belongs to the execution of a statement: it hands the statement over, it sends
the text to which the statement was bound, or it only opens or ends the transaction. -/
def Carries (statement : Statement) : Call → Prop
  | .execute sql parameters => sql = statement.sql ∧ parameters = statement.parameters
  | .send text binds =>
      Sql.bindPositional statement.sql (.tuple statement.parameters) = .ok ⟨text, binds⟩
  | .begin | .commit | .rollback => True
  | .query _ _ | .connect | .close => False

end Call

/-- Whether calls were only added, and those added all belong to statements of a
kind. -/
def SendsOnly (allowed : Statement → Prop) (before after : List Call) : Prop :=
  ∃ sent, after = before ++ sent ∧
    ∀ call ∈ sent, ∃ statement, allowed statement ∧ call.Carries statement

namespace SendsOnly

variable {allowed : Statement → Prop} {first second third : List Call}

theorem refl (calls : List Call) : SendsOnly allowed calls calls :=
  ⟨[], (List.append_nil calls).symm, by simp⟩

theorem trans (front : SendsOnly allowed first second) (back : SendsOnly allowed second third) :
    SendsOnly allowed first third := by
  obtain ⟨early, rfl, earlyAllowed⟩ := front
  obtain ⟨late, rfl, lateAllowed⟩ := back
  refine ⟨early ++ late, List.append_assoc _ _ _, ?_⟩
  intro call member
  rcases List.mem_append.mp member with inEarly | inLate
  · exact earlyAllowed call inEarly
  · exact lateAllowed call inLate

theorem weaken {wider : Statement → Prop} (sends : SendsOnly allowed first second)
    (implies : ∀ statement, allowed statement → wider statement) :
    SendsOnly wider first second := by
  obtain ⟨sent, rfl, each⟩ := sends
  refine ⟨sent, rfl, ?_⟩
  intro call member
  obtain ⟨statement, isAllowed, carries⟩ := each call member
  exact ⟨statement, implies statement isAllowed, carries⟩

end SendsOnly

namespace Engine

theorem execute_carries (engine : Engine) (statement : Statement) :
    ∀ call ∈ (engine.execute statement.sql (.tuple statement.parameters)).calls,
      call.Carries statement := by
  intro call member
  simp only [execute] at member
  cases bound : Sql.bindPositional statement.sql (.tuple statement.parameters) with
  | error fault =>
      rw [bound] at member
      exact absurd member (by simp)
  | ok text =>
      rw [bound] at member
      simp only [List.mem_cons, List.not_mem_nil, or_false] at member
      rcases member with rfl | rfl | ending
      · trivial
      · exact bound
      · rw [ending]
        split <;> trivial

end Engine

namespace Backend

/-- All that comes of handing a statement to a backend are calls that carry it. -/
theorem execute_carries (backend : Backend) (statement : Statement) :
    ∀ call ∈ (backend.execute statement.sql (.tuple statement.parameters)).calls,
      call.Carries statement := by
  cases backend with
  | engine state => exact state.execute_carries statement
  | recorder state =>
      intro call member
      cases List.mem_singleton.mp member
      exact ⟨rfl, rfl⟩

end Backend

/-! ## Operations and what they send -/

namespace Action

variable {α β : Type} {allowed : Statement → Prop}

/-- Whether an operation sends only statements of a kind, and what is known of its answers. -/
def Sends (allowed : Statement → Prop) (act : Action α) (answers : α → Prop) : Prop :=
  ∀ calls, Establishes (fun session => SendsOnly allowed calls session.calls) act
    (fun answer session => answers answer ∧ SendsOnly allowed calls session.calls)
    (fun session => SendsOnly allowed calls session.calls)

/-- Handing over a statement of a kind sends only such statements. -/
theorem sends_executeStatement {statement : Statement} (isAllowed : allowed statement) :
    Sends allowed (executeStatement statement) fun _ => True := by
  intro calls session before
  have sent : SendsOnly allowed calls (executeStatement statement session).2.calls := by
    refine before.trans ⟨_, rfl, ?_⟩
    intro call member
    exact ⟨statement, isAllowed, session.backend.execute_carries statement call member⟩
  rcases ran : executeStatement statement session with ⟨fault | answer, next⟩
  · rw [ran] at sent
    exact sent
  · rw [ran] at sent
    exact ⟨trivial, sent⟩

namespace Sends

variable {answers : α → Prop}

theorem pure {answer : α} (known : answers answer) :
    Sends allowed (pure answer : Action α) answers :=
  fun _ => Establishes.pure fun _ before => ⟨known, before⟩

theorem bind {first : Action α} {second : α → Action β} {later : β → Prop}
    (head : Sends allowed first answers)
    (rest : ∀ answer, answers answer → Sends allowed (second answer) later) :
    Sends allowed (first >>= second) later :=
  fun calls => (head calls).bind fun answer =>
    .assuming fun known => rest answer known calls

theorem weaken {act : Action α} {weaker : α → Prop} (sends : Sends allowed act answers)
    (implies : ∀ answer, answers answer → weaker answer) : Sends allowed act weaker := by
  intro calls session before
  have ends := sends calls session before
  rcases ran : act session with ⟨fault | answer, next⟩
  · rw [ran] at ends
    exact ends
  · rw [ran] at ends
    exact ⟨implies answer ends.1, ends.2⟩

/-- A quiet operation sends nothing. -/
theorem of_quiet {act : Action α} (quiet : act.Quiet)
    (known : ∀ session answer, (act session).1 = .ok answer → answers answer) :
    Sends allowed act answers := by
  intro calls session before
  have same := congrArg Prod.snd (quiet session)
  have answered := known session
  change (act session).2.calls = session.calls at same
  rw [← same] at before
  rcases ran : act session with ⟨fault | answer, next⟩
  · rw [ran] at before
    exact before
  · rw [ran] at before answered
    exact ⟨answered answer rfl, before⟩

theorem ofResult (result : Except Fault α) :
    Sends allowed (.ofResult result) fun answer => result = .ok answer :=
  of_quiet (quiet_ofResult result) fun _ _ same => same

/-- What sends only statements of a kind sends only statements of a wider kind. -/
theorem allow {act : Action α} {wider : Statement → Prop} (sends : Sends allowed act answers)
    (implies : ∀ statement, allowed statement → wider statement) :
    Sends wider act answers := by
  intro calls session before
  have sent := sends session.calls session (.refl _)
  rcases ran : act session with ⟨fault | answer, next⟩
  · rw [ran] at sent
    exact before.trans (sent.weaken implies)
  · rw [ran] at sent
    exact ⟨sent.1, before.trans (sent.2.weaken implies)⟩

/-- What is sent in a run comes after what was sent before. -/
theorem sendsOnly {act : Action α} (sends : Sends allowed act fun _ => True)
    (session : Session) : SendsOnly allowed session.calls (act session).2.calls := by
  have ends := sends session.calls session (.refl _)
  rcases ran : act session with ⟨fault | answer, next⟩
  · rw [ran] at ends
    exact ends
  · rw [ran] at ends
    exact ends.2

end Sends

end Action

namespace RecordAction

variable {α β : Type} {allowed : Statement → Prop} {before failed : Record → Prop}

/-- Whether an operation on a record sends only statements of a kind, and what becomes of the
record: after a record that meets `before`, one that meets `after` together with the answer or, if
the operation fails, one that meets `failed`. -/
def Sends (allowed : Statement → Prop) (before : Record → Prop) (act : RecordAction α)
    (after : α → Record → Prop) (failed : Record → Prop) : Prop :=
  ∀ calls,
    Establishes (fun work => before work.record ∧ SendsOnly allowed calls work.session.calls) act
      (fun answer work =>
        after answer work.record ∧ SendsOnly allowed calls work.session.calls)
      (fun work => failed work.record ∧ SendsOnly allowed calls work.session.calls)

namespace Sends

variable {after : α → Record → Prop}

theorem pure {answer : α} (holds : ∀ record, before record → after answer record) :
    Sends allowed before (pure answer : RecordAction α) after failed :=
  fun _ => Establishes.pure fun _ both => ⟨holds _ both.1, both.2⟩

theorem throw {fault : Fault} (holds : ∀ record, before record → failed record) :
    Sends allowed before (throw fault : RecordAction α) after failed :=
  fun _ => Establishes.throw fun _ both => ⟨holds _ both.1, both.2⟩

theorem bind {first : RecordAction α} {second : α → RecordAction β} {later : β → Record → Prop}
    (head : Sends allowed before first after failed)
    (rest : ∀ answer, Sends allowed (after answer) (second answer) later failed) :
    Sends allowed before (first >>= second) later failed :=
  fun calls => (head calls).bind fun answer => rest answer calls

theorem weaken {act : RecordAction α} {weaker : α → Record → Prop}
    (sends : Sends allowed before act after failed)
    (implies : ∀ answer record, after answer record → weaker answer record) :
    Sends allowed before act weaker failed := by
  intro calls work start
  have ends := sends calls work start
  rcases ran : act work with ⟨fault | answer, next⟩
  · rw [ran] at ends
    exact ends
  · rw [ran] at ends
    exact ⟨implies answer next.record ends.1, ends.2⟩

theorem narrow {act : RecordAction α} {narrower : Record → Prop}
    (sends : Sends allowed before act after failed)
    (implies : ∀ record, narrower record → before record) :
    Sends allowed narrower act after failed :=
  fun calls work start => sends calls work ⟨implies _ start.1, start.2⟩

/-- What sends only statements of a kind sends only statements of a wider kind. -/
theorem allow {act : RecordAction α} {wider : Statement → Prop}
    (sends : Sends allowed before act after failed)
    (implies : ∀ statement, allowed statement → wider statement) :
    Sends wider before act after failed := by
  intro calls work start
  have sent := sends work.session.calls work ⟨start.1, .refl _⟩
  rcases ran : act work with ⟨fault | answer, next⟩
  · rw [ran] at sent
    exact ⟨sent.1, start.2.trans (sent.2.weaken implies)⟩
  · rw [ran] at sent
    exact ⟨sent.1, start.2.trans (sent.2.weaken implies)⟩

/-- Whatever record there is, its operation may be looked at for that record alone. -/
theorem of_each {act : RecordAction α}
    (each : ∀ record, before record → Sends allowed (· = record) act after failed) :
    Sends allowed before act after failed :=
  fun calls work start => each work.record start.1 calls work ⟨rfl, start.2⟩

/-- What an operation on the session sends is sent beside the record. -/
theorem ofAction {act : Action α} {answers : α → Prop} (sends : act.Sends allowed answers)
    (stays : ∀ record, before record → failed record) :
    Sends allowed before (.ofAction act) (fun answer record => answers answer ∧ before record)
      failed := by
  intro calls work start
  have ends := sends calls work.session start.2
  simp only [RecordAction.ofAction]
  rcases ran : act work.session with ⟨fault | answer, next⟩
  · rw [ran] at ends
    exact ⟨stays _ start.1, ends⟩
  · rw [ran] at ends
    exact ⟨⟨ends.1, start.1⟩, ends.2⟩

theorem ofRecord (read : Record → Except ValueFault α)
    (stays : ∀ record, before record → failed record) :
    Sends allowed before (.ofRecord read)
      (fun answer record => read record = .ok answer ∧ before record) failed := by
  intro calls work start
  simp only [RecordAction.ofRecord]
  cases found : read work.record with
  | error fault => exact ⟨stays _ start.1, start.2⟩
  | ok answer => exact ⟨⟨found, start.1⟩, start.2⟩

theorem current :
    Sends allowed before .current (fun answer record => answer = record ∧ before record) failed :=
  fun _ _ start => ⟨⟨rfl, start.1⟩, start.2⟩

theorem change {act : Record → Except ValueFault Record}
    (stays : ∀ record, before record → failed record) :
    Sends allowed before (.change act)
      (fun _ next => ∃ record, before record ∧ act record = .ok next) failed := by
  intro calls work start
  simp only [RecordAction.change]
  cases changed : act work.record with
  | error fault => exact ⟨stays _ start.1, start.2⟩
  | ok next => exact ⟨⟨work.record, start.1, changed⟩, start.2⟩

/-- What is sent in a run comes after what was sent before, and what becomes of the record. -/
theorem sendsOnly {act : RecordAction α} {reached : Record → Prop}
    (sends : Sends allowed before act (fun _ => reached) reached) (work : Work)
    (start : before work.record) :
    reached (act work).2.record ∧
      SendsOnly allowed work.session.calls (act work).2.session.calls :=
  (sends work.session.calls).of_run ⟨start, .refl _⟩

end Sends

end RecordAction

end RowMapper
