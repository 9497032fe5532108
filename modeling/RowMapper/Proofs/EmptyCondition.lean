import RowMapper.Proofs.Assignments
import RowMapper.Proofs.Operations

/-!
# Conditions without fragments

A condition that compiles to no fragment stands for every row. A removal with it is refused before
anything else is looked at. An update takes the values first: it goes through them, leaves out the
key and what names no column, adds the time, answers at once if nothing is left, and converts what
is left to its stored form. Only then is the condition looked at. So what an update without a
condition answers depends on its values, and `Model.answerUnconditional` says how.
-/

namespace RowMapper

/-! ## What is refused for want of a condition -/

/-- Whether a fault says that rows are not changed without a condition. -/
def Fault.isUnconditional : Fault → Bool
  | .unconditionalUpdate _ | .unconditionalDelete _ => true
  | _ => false

theorem Fault.isUnconditional_of_isRefusal {fault : Fault} (notRefusal : fault.isRefusal = false) :
    fault.isUnconditional = false := by
  cases fault with
  | unconditionalUpdate table => cases notRefusal
  | unconditionalDelete table => cases notRefusal
  | _ => rfl

theorem Fault.IsOperand.isUnconditional_eq {fault : Fault} (operand : fault.IsOperand) :
    fault.isUnconditional = false :=
  Fault.isUnconditional_of_isRefusal operand.isRefusal_eq

/-- Whether an operation is never refused for want of a condition. -/
abbrev NeverUnconditional {σ α : Type} (act : ExceptT Fault (StateM σ) α) : Prop :=
  FailsOnly (·.isUnconditional = false) act

theorem NeverUnconditional.of_operand {σ α : Type} {act : ExceptT Fault (StateM σ) α}
    (fails : FailsOnly Fault.IsOperand act) : NeverUnconditional act :=
  fails.weaken fun _ => Fault.IsOperand.isUnconditional_eq

theorem Action.neverUnconditional_executeStatement (statement : Statement) :
    NeverUnconditional (executeStatement statement) :=
  (failsOnly_executeStatement statement).weaken fun _ => Fault.isUnconditional_of_isRefusal

/-- How an operation runs that begins in the environment. -/
theorem Action.inEnvironment_bind {α β : Type} (evaluation : Evaluation α) (rest : α → Action β)
    (session : Session) :
    (inEnvironment evaluation >>= rest) session =
      match evaluation session.environment with
      | (.error fault, environment) => (.error (.operand fault), { session with environment })
      | (.ok answer, environment) => rest answer { session with environment } := by
  rw [bind_apply, inEnvironment]
  rcases evaluation session.environment with ⟨fault | answer, environment⟩
  · rfl
  · rfl

namespace Model

variable {predicate : Predicate}

/-! ## With a fragment at least -/

theorem neverUnconditional_updateMatching (model : Model) (asks : predicate.isEmpty = false)
    (values : Value) : NeverUnconditional (model.updateMatching predicate values) := by
  apply FailsOnly.bind (NeverUnconditional.of_operand (Action.failsOnly_inEnvironment _))
  intro walk
  apply FailsOnly.bind
  · intro session fault impossible
    cases impossible
  intro _
  apply FailsOnly.bind (NeverUnconditional.of_operand (Action.failsOnly_ofOperand _))
  intro entries
  apply FailsOnly.bind (NeverUnconditional.of_operand (Action.failsOnly_inEnvironment _))
  intro ⟨time, assignments⟩
  dsimp only
  split
  · exact .pure _
  apply FailsOnly.bind
  · intro session fault failed
    rcases updateStatement_eq_error failed with operand | rfl | ⟨_, empty⟩
    · exact operand.isUnconditional_eq
    · rfl
    · rw [asks] at empty
      cases empty
  intro statement
  apply FailsOnly.bind (Action.neverUnconditional_executeStatement statement)
  intro execution
  exact NeverUnconditional.of_operand (Action.failsOnly_ofOperand _)

/-! ## Without a fragment -/

/-- What an update would store of values. -/
def storedAssignments (model : Model) (values : Value) : Evaluation Entries := do
  let walk ← values.walkKeyed
  let entries ← .ofOperand (walk.finish walk.dictionary)
  let (_, assignments) ← model.table.stamp (model.table.assignments entries)
  .ofOperand (model.table.toStorage assignments)

/-- What an update without a condition answers, by what it would store: the fault of the values
comes first, nothing to store is no fault, and only something to store is refused. -/
def answerUnconditional (model : Model) :
    Except ValueFault Entries → Except Fault UpdateOutcome
  | .error fault => .error (.operand fault)
  | .ok [] => .ok .nothing
  | .ok (_ :: _) => .error (.unconditionalUpdate model.table.label)

/-- Without a fragment no update is built: the values are converted, and if that goes well the
update is refused. -/
theorem updateStatement_of_isEmpty (model : Model) (empty : predicate.isEmpty = true)
    (assignments : Entries) :
    model.updateStatement assignments predicate =
      match model.table.toStorage assignments with
      | .error cause => .error (.operand cause)
      | .ok _ => .error (.unconditionalUpdate model.table.label) := by
  rw [updateStatement]
  cases model.table.toStorage assignments with
  | error cause => rfl
  | ok stored =>
      change Statement.update model.table stored predicate = _
      rw [Statement.update, if_pos empty]
      rfl

theorem updateMatching_of_isEmpty (model : Model) (empty : predicate.isEmpty = true)
    (values : Value) (session : Session) :
    (model.updateMatching predicate values session).1 =
      model.answerUnconditional (model.storedAssignments values session.environment).1 := by
  rw [updateMatching, storedAssignments, Action.inEnvironment_bind, bind_apply]
  rcases values.walkKeyed session.environment with ⟨fault | walk, walkedAt⟩
  · rfl
  dsimp only
  cases walk.finish walk.dictionary with
  | error fault => rfl
  | ok entries =>
      change ((Action.inEnvironment (model.table.stamp (model.table.assignments entries)) >>= _)
        (Session.mk _ _ _ walkedAt _ _)).1 = model.answerUnconditional
          ((model.table.stamp (model.table.assignments entries) >>= _) walkedAt).1
      rw [Action.inEnvironment_bind, bind_apply]
      dsimp only
      rcases model.table.stamp (model.table.assignments entries) walkedAt with
        ⟨fault | ⟨time, assignments⟩, stampedAt⟩
      · rfl
      cases assignments with
      | nil => rfl
      | cons entry rest =>
          change ((Action.ofResult (model.updateStatement (entry :: rest) predicate) >>= _) _).1 =
            model.answerUnconditional (model.table.toStorage (entry :: rest))
          rw [model.updateStatement_of_isEmpty empty]
          cases converted : model.table.toStorage (entry :: rest) with
          | error cause => rfl
          | ok stored =>
              obtain ⟨first, others, rfl, _, _⟩ := Table.toStorage_cons_eq_ok converted
              rfl

theorem answerUnconditional_eq_nothing_iff (model : Model) (stored : Except ValueFault Entries) :
    model.answerUnconditional stored = .ok .nothing ↔ stored = .ok [] := by
  rcases stored with fault | ⟨_ | ⟨entry, rest⟩⟩ <;> simp [answerUnconditional]

theorem assignments_eq_nil_iff (table : Table) (entries : Entries) :
    table.assignments entries = [] ↔
      ∀ entry ∈ entries,
        table.isPrimaryKeyName entry.1 = true ∨ table.columnAt? entry.1 = none := by
  simp only [List.eq_nil_iff_forall_not_mem, Table.mem_assignments, not_and, Bool.not_eq_true,
    Option.isSome_eq_false_iff, Option.isNone_iff_eq_none]
  refine forall_congr' fun entry => imp_congr_right fun _ => ?_
  rw [← Bool.not_eq_true, imp_iff_not_or, not_not]

/-- Nothing is stored of values just when they set no column besides the key and no column is kept
current. -/
theorem storedAssignments_eq_nil_iff (model : Model) (entries : Entries)
    (environment : Environment) :
    (model.storedAssignments (.dict entries) environment).1 = .ok [] ↔
      model.table.autoUpdate = none ∧ ∀ entry ∈ entries,
        model.table.isPrimaryKeyName entry.1 = true ∨ model.table.columnAt? entry.1 = none := by
  rw [← assignments_eq_nil_iff]
  have opened : model.storedAssignments (.dict entries) environment =
      (model.table.stamp (model.table.assignments entries) >>= fun stamped =>
        .ofOperand (model.table.toStorage stamped.2)) environment := rfl
  rw [opened]
  constructor
  · intro nothing
    obtain ⟨⟨time, stamped⟩, stampedAt, ran, converted⟩ := bind_eq_ok (Prod.ext nothing rfl)
    have stamps : model.table.StampsTo (model.table.assignments entries) time stamped :=
      ⟨environment, by rw [ran]⟩
    have empty : stamped = [] := by
      have same := Table.keys_toStorage (congrArg Prod.fst converted)
      exact List.map_eq_nil_iff.mp same.symm
    subst empty
    cases keptCurrent : model.table.autoUpdate with
    | some column =>
        have sets := (stamps.sets column.name).mpr (.inr ⟨column, keptCurrent, rfl⟩)
        exact absurd sets (Entries.sets_nil column.name)
    | none =>
        rcases stamps.eq_or_insert with ⟨_, same, _⟩ | ⟨column, _, found, _⟩
        · exact ⟨rfl, same.symm⟩
        · rw [keptCurrent] at found
          cases found
  · rintro ⟨keptCurrent, empty⟩
    rw [empty, bind_apply]
    simp only [Table.stamp, keptCurrent]
    rfl

/-- What an operation by a condition answers, given the predicate that the condition compiles to.
Without a fragment a removal is refused, while an update is refused only if there is something that
it would store: it is without effect if the values set no column besides the key and no column is
kept current, and the fault of values that cannot be stored comes first. With a fragment neither is
refused for want of a condition. -/
theorem unconditional_update_answers (model : Model) (condition : Value) (session next : Session)
    (predicate : Predicate) (compiled : model.predicate condition session = (.ok predicate, next)) :
    (predicate.isEmpty = true →
      (model.removeWhere condition session).1 =
          .error (.unconditionalDelete model.table.label) ∧
        (∀ values, (model.updateWhere condition values session).1 =
          model.answerUnconditional (model.storedAssignments values next.environment).1) ∧
        ∀ entries : Entries,
          (model.updateWhere condition (.dict entries) session).1 = .ok .nothing ↔
            model.table.autoUpdate = none ∧ ∀ entry ∈ entries,
              model.table.isPrimaryKeyName entry.1 = true ∨
                model.table.columnAt? entry.1 = none) ∧
    (predicate.isEmpty = false →
      (∀ fault, (model.removeWhere condition session).1 = .error fault →
        fault.isUnconditional = false) ∧
        ∀ values fault, (model.updateWhere condition values session).1 = .error fault →
          fault.isUnconditional = false) := by
  have updated (values : Value) :
      model.updateWhere condition values session = model.updateMatching predicate values next :=
    bind_of_ok compiled
  constructor
  · intro empty
    refine ⟨?_, fun values => ?_, fun entries => ?_⟩
    · rw [removeWhere, bind_of_ok compiled, Statement.delete, if_pos empty]
      rfl
    · rw [updated, model.updateMatching_of_isEmpty empty]
    · rw [updated, model.updateMatching_of_isEmpty empty, answerUnconditional_eq_nothing_iff,
        storedAssignments_eq_nil_iff]
  · intro asks
    constructor
    · rw [removeWhere, bind_of_ok compiled, Statement.delete, asks]
      exact Action.neverUnconditional_executeStatement _ next
    · intro values
      rw [updated]
      exact model.neverUnconditional_updateMatching asks values next

/-- An update of nothing but the key and one of a further column, both without a condition, and one
with a condition. -/
theorem unconditional_update_answers_people :
    (person.updateWhere .null (.dict [(.text "id", .int 5)]) newSession).1 = .ok .nothing ∧
      (person.updateWhere .null (.dict [(.text "active", .bool true)]) newSession).1 =
        .error (.unconditionalUpdate people.label) ∧
      ∀ fault, (person.updateWhere (.int 5) (.dict [(.text "id", .int 5)]) newSession).1 =
        .error fault → fault.isUnconditional = false := by
  obtain ⟨answers, _⟩ :=
    unconditional_update_answers person .null newSession newSession .everything rfl
  obtain ⟨_, update, nothing⟩ := answers rfl
  obtain ⟨_, kept⟩ := unconditional_update_answers person (.int 5) newSession newSession
    ⟨[.equals "id" (.int 5)]⟩ rfl
  refine ⟨(nothing _).mpr ⟨rfl, ?_⟩, ?_, (kept rfl).2 _⟩
  · simp only [List.forall_mem_singleton]
    exact .inl rfl
  · rw [update]
    rfl

/-- A removal of every person is refused, and an update of the key of every person is not. -/
theorem person_update_without_condition_answers_nothing :
    (person.predicate .null newSession).1 = .ok .everything ∧
      (person.removeWhere .null newSession).1 = .error (.unconditionalDelete people.label) ∧
      (person.updateWhere .null (.dict [(.text "id", .int 5)]) newSession).1 = .ok .nothing :=
  ⟨rfl, rfl, rfl⟩

end Model

end RowMapper
