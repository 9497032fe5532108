import RowMapper.Proofs.SingleStatement
import RowMapper.Proofs.Value.SameItem

/-!
# What an engine opens and counts

An engine is given one statement after the other. Each either cannot be bound, and then nothing is
opened and nothing is counted, or is sent between an opening and a closing of its own and counts
once, under the label of its text. `Engine.AccountsFor` says this of one statement wherever a run
has come to, and the log and the counts of whole runs are put together from it.
-/

namespace RowMapper

/-! ## Counts -/

namespace Metrics

@[simp] theorem observations_observe (metrics : Metrics) (observation : Observation) :
    (metrics.observe observation).observations = metrics.observations ++ [observation] := rfl

theorem countOf_observe (metrics : Metrics) (observation : Observation) (sample : Sample) :
    (metrics.observe observation).countOf sample =
      metrics.countOf sample + if observation.countsFor sample then 1 else 0 := by
  rw [countOf, observations_observe, List.countP_append, List.countP_singleton, countOf]

/-- Whether the counts of successes and errors add up to the count of latencies, for every table and
kind of statement, and no other outcome counts. -/
structure Balanced (metrics : Metrics) : Prop where
  sum : ∀ table verb, metrics.countOf ⟨table, verb, some "success"⟩ +
    metrics.countOf ⟨table, verb, some "error"⟩ = metrics.countOf ⟨table, verb, none⟩
  others : ∀ table verb status, status ≠ "success" → status ≠ "error" →
    metrics.countOf ⟨table, verb, some status⟩ = 0

theorem balanced_empty : empty.Balanced where
  sum _ _ := rfl
  others _ _ _ _ _ := rfl

end Metrics

/-- A statement as it is given to an engine: what for, its text and its parameters. -/
structure Submission where
  use : StatementUse
  sql : String
  parameters : Value

namespace Submission

/-- How the outcome of a statement is called where it is counted. -/
def outcome (failed : Bool) : String :=
  if failed then "error" else "success"

/-- How the statement is counted. -/
def observation (given : Submission) (failed : Bool) : Observation :=
  ⟨(Sql.Label.ofSql given.sql).tableName, (Sql.Label.ofSql given.sql).verbName, outcome failed,
    true⟩

/-- Whether the statement is counted under a table and a kind. -/
def isAbout (given : Submission) (table verb : String) : Bool :=
  table = (Sql.Label.ofSql given.sql).tableName && verb = (Sql.Label.ofSql given.sql).verbName

theorem countsFor_outcome (given : Submission) (failed : Bool) (table verb status : String) :
    (given.observation failed).countsFor ⟨table, verb, some status⟩ =
      (given.isAbout table verb && status = outcome failed) := by
  rw [Bool.eq_iff_iff]
  simp [Observation.countsFor, Observation.samples, observation, isAbout, and_assoc]

theorem countsFor_latency (given : Submission) (failed : Bool) (table verb : String) :
    (given.observation failed).countsFor ⟨table, verb, none⟩ = given.isAbout table verb := by
  rw [Bool.eq_iff_iff]
  simp [Observation.countsFor, Observation.samples, observation, isAbout]

end Submission

/-- A statement counts once as a success or as an error, and once with its latency. -/
theorem Metrics.Balanced.observe {metrics : Metrics} (balanced : metrics.Balanced)
    (given : Submission) (failed : Bool) :
    (metrics.observe (given.observation failed)).Balanced := by
  constructor
  · intro table verb
    rw [countOf_observe, countOf_observe, countOf_observe, given.countsFor_outcome,
      given.countsFor_outcome, given.countsFor_latency, ← balanced.sum table verb]
    cases given.isAbout table verb with
    | false => simp
    | true => cases failed <;> simp [Submission.outcome] <;> omega
  · intro table verb status notSuccess notError
    rw [countOf_observe, balanced.others table verb status notSuccess notError,
      given.countsFor_outcome]
    cases failed <;> simp [Submission.outcome, notSuccess, notError]

/-! ## One statement -/

/-- Whether a value can be taken for a count: it is a number, or it does not count as true. -/
def Value.IsCount (v : Value) : Prop :=
  v.truthy = false ∨ v.number?.isSome = true

/-- A count that is above zero, and zero in place of any other. A count that is no number stands in
no order to zero and becomes zero. -/
def Value.countFromZero (v : Value) : Value :=
  match v.number? with
  | some number => if number.compare? (.finite (0 : Int)) = some .gt then v else .int 0
  | none => .int 0

/-- For an integer that is the greater of the two. -/
theorem Value.countFromZero_int (n : Int) : (Value.int n).countFromZero = .int (max n 0) := by
  simp only [countFromZero, number?, Number.compare?, Rat.intCast_inj, Rat.intCast_lt_intCast,
    Option.some.injEq]
  rcases Int.lt_trichotomy n 0 with below | rfl | above
  · rw [if_neg (Int.ne_of_lt below), if_pos below, Int.max_eq_right (Int.le_of_lt below)]
    rfl
  · rfl
  · rw [if_neg (Int.ne_of_gt above), if_neg (Int.not_lt.mpr (Int.le_of_lt above)),
      Int.max_eq_left (Int.le_of_lt above)]
    rfl

namespace StatementUse

/-- What is opened for a statement. -/
def opening : StatementUse → Call
  | .execute => .begin
  | .query => .connect

/-- How it is closed. -/
def closing (use : StatementUse) (failed : Bool) : Call :=
  match use with
  | .execute => if failed then .rollback else .commit
  | .query => .close

end StatementUse

namespace Engine

variable {engine : Engine} {given : Submission}

/-- What the engine does with a statement. -/
def submit (engine : Engine) (given : Submission) : Exchange Reply :=
  match given.use with
  | .execute => (engine.execute given.sql given.parameters).map .execution
  | .query => (engine.query given.sql given.parameters).map .rows

/-- The engine after a statement. -/
def next (engine : Engine) (given : Submission) : Engine :=
  match (engine.submit given).backend with
  | .engine next => next
  | .recorder _ => engine

/-- What the database answers next. -/
def nextAnswer (engine : Engine) : Except Fault DatabaseAnswer :=
  nextScripted standardAnswer engine.answers

/-- Whether a statement, or reading its result, fails. -/
def failsOn (engine : Engine) (use : StatementUse) : Bool :=
  match use with
  | .execute => !engine.nextAnswer.isOk
  | .query => !(engine.nextAnswer >>= fun answer =>
      (dictionaries answer.rows).mapError Fault.operand).isOk

/-- A count of rows is reported unless what the database gives is no count. -/
theorem countOfRows_eq_ok {v : Value} (isCount : v.IsCount) :
    countOfRows v = .ok v.countFromZero := by
  rw [countOfRows, Value.countFromZero]
  cases number : v.number? with
  | none =>
      cases isCount with
      | inl no => rw [no]; rfl
      | inr isNumber => rw [number] at isNumber; cases isNumber
  | some a =>
      split
      next counts =>
        rw [Value.ordered_of_number? number]
        dsimp only
        cases a.compare? (.finite (0 : Int)) with
        | none => rfl
        | some order => cases order <;> rfl
      next no =>
        have zero : a = .finite 0 := by
          by_contra other
          exact no ((Value.truthy_of_number? number).mpr other)
        rw [zero]
        rfl

theorem isCount_of_countOfRows {v counted : Value} (ok : countOfRows v = .ok counted) :
    v.IsCount := by
  rw [countOfRows] at ok
  cases counts : v.truthy with
  | false => exact .inl counts
  | true =>
      rw [counts, if_pos rfl] at ok
      cases compared : v.ordered .above (.int 0) with
      | error fault => rw [compared] at ok; cases ok
      | ok above =>
          obtain ⟨a, number⟩ := Value.exists_number?_of_ordered compared
          exact .inr (by rw [number]; rfl)

/-- A generated key is reported only for an insertion, and only if it is not zero. -/
theorem generatedKey_of_ne_null {label : Sql.Label} {v : Value}
    (given : generatedKey label v ≠ .null) :
    generatedKey label v = v ∧ v.truthy = true ∧ label.verb = some .insert := by
  rw [generatedKey] at given ⊢
  split at given
  next both =>
    rw [if_pos both]
    simp only [Bool.and_eq_true, decide_eq_true_eq] at both
    exact ⟨rfl, both.2, both.1⟩
  next => exact absurd rfl given

/-- What is reported of a changing statement, if the count of rows is one. -/
theorem resultOf_eq_ok_iff {label : Sql.Label} {answer : DatabaseAnswer}
    {result : ExecutionResult} :
    resultOf label answer = .ok result ↔ answer.rowCount.IsCount ∧
      result = ⟨answer.rowCount.countFromZero, generatedKey label answer.lastRowId⟩ := by
  constructor
  · intro ok
    cases counted : countOfRows answer.rowCount with
    | error fault => rw [resultOf, counted] at ok; cases ok
    | ok rows =>
        have isCount := isCount_of_countOfRows counted
        rw [resultOf, countOfRows_eq_ok isCount] at ok
        exact ⟨isCount, (Except.ok.inj ok).symm⟩
  · intro given
    rw [resultOf, countOfRows_eq_ok given.1, given.2]
    rfl

theorem isOk_reported_iff {label : Sql.Label} {answer : DatabaseAnswer} :
    (((resultOf label answer).mapError Fault.operand).map Reply.execution).isOk = false ↔
      ¬ answer.rowCount.IsCount := by
  cases reported : resultOf label answer with
  | ok result => exact iff_of_false (by simp [Except.map, Except.mapError, Except.isOk,
      Except.toBool]) (not_not_intro (resultOf_eq_ok_iff.mp reported).1)
  | error fault =>
      refine iff_of_true rfl ?_
      intro isCount
      have ok : resultOf label answer = .ok _ := resultOf_eq_ok_iff.mpr ⟨isCount, rfl⟩
      rw [reported] at ok
      cases ok

/-- A statement whose parameters cannot be bound reaches nothing. -/
theorem submit_of_unbound {fault : Sql.BindFault}
    (unbound : Sql.bindPositional given.sql given.parameters = .error fault) :
    engine.submit given = ⟨.error fault.toFault, .engine engine, [], []⟩ := by
  rw [submit]
  cases given.use with
  | execute => simp only [execute, unbound]; rfl
  | query => simp only [query, unbound]; rfl

/-- A statement whose parameters are bound is sent between an opening and a closing of its own, and
is counted. -/
theorem submit_of_bound (engine : Engine) {bound : Sql.BoundStatement}
    (isBound : Sql.bindPositional given.sql given.parameters = .ok bound) :
    (engine.submit given).calls =
        [given.use.opening, .send bound.text bound.binds,
          given.use.closing (engine.failsOn given.use)] ∧
      (engine.submit given).backend = .engine ⟨engine.answers.tail,
        engine.metrics.observe (given.observation (engine.failsOn given.use))⟩ := by
  obtain ⟨use, sql, parameters⟩ := given
  dsimp only at isBound
  have outcome (failed : Bool) :
      (if failed then "success" else "error") = Submission.outcome !failed := by
    cases failed <;> rfl
  have closing (succeeded : Bool) :
      (if succeeded then Call.commit else .rollback) =
        StatementUse.execute.closing !succeeded := by
    cases succeeded <;> rfl
  cases use with
  | execute =>
      simp only [submit, execute, isBound, Exchange.map, afterStatement, outcome, closing]
      exact ⟨rfl, rfl⟩
  | query =>
      simp only [submit, query, isBound, Exchange.map, afterStatement, outcome]
      exact ⟨rfl, rfl⟩

theorem backend_submit (engine : Engine) (given : Submission) :
    (engine.submit given).backend = .engine (engine.next given) := by
  rw [next]
  cases isBound : Sql.bindPositional given.sql given.parameters with
  | error fault => rw [submit_of_unbound isBound]
  | ok bound => rw [(submit_of_bound engine isBound).2]

/-- How a changing statement is answered. -/
theorem result_of_execute {bound : Sql.BoundStatement} (use : given.use = .execute)
    (isBound : Sql.bindPositional given.sql given.parameters = .ok bound) :
    (engine.submit given).result =
      match engine.nextAnswer with
      | .error fault => .error fault
      | .ok answer =>
          ((resultOf (Sql.Label.ofSql given.sql) answer).mapError .operand).map .execution := by
  simp only [submit, use, execute, isBound, Exchange.map, nextAnswer]
  cases nextScripted standardAnswer engine.answers with
  | error fault => rfl
  | ok answer => rfl

/-- A query fails just when it ends with a fault. -/
theorem isOk_result_of_query {bound : Sql.BoundStatement} (use : given.use = .query)
    (isBound : Sql.bindPositional given.sql given.parameters = .ok bound) :
    (engine.submit given).result.isOk = !engine.failsOn .query := by
  simp only [submit, use, query, isBound, Exchange.map, failsOn, nextAnswer, Bool.not_not]
  cases nextScripted standardAnswer engine.answers >>= fun answer =>
      (dictionaries answer.rows).mapError Fault.operand with
  | error fault => rfl
  | ok answer => rfl

/-- What the engine accounts for of one statement. -/
structure AccountsFor (engine : Engine) (given : Submission) : Prop where
  /-- Parameters that cannot be bound open nothing and are not counted. -/
  unbound : ∀ fault, Sql.bindPositional given.sql given.parameters = .error fault →
    (engine.submit given).result = .error fault.toFault ∧
      (engine.submit given).calls = [] ∧ engine.next given = engine
  /-- Any other number of parameters than there are placeholders is refused. -/
  mismatch : ∀ size, given.parameters.size = .ok size → Sql.placeholderCount given.sql ≠ size →
    (engine.submit given).result =
        .error (.placeholderCount (Sql.placeholderCount given.sql) size) ∧
      (engine.submit given).calls = [] ∧ engine.next given = engine
  /-- As many parameters as there are placeholders are bound. -/
  binds : given.parameters.size = .ok (Sql.placeholderCount given.sql) →
    ∃ bound, Sql.bindPositional given.sql given.parameters = .ok bound
  /-- What is opened is closed, the transaction by committing it unless the statement failed, and is
  counted once. -/
  bound : ∀ bound, Sql.bindPositional given.sql given.parameters = .ok bound →
    (engine.submit given).calls = [given.use.opening, .send bound.text bound.binds,
        given.use.closing (engine.failsOn given.use)] ∧
      (engine.next given).metrics.observations =
        engine.metrics.observations ++ [given.observation (engine.failsOn given.use)]
  /-- The statement ends with a fault if it is counted as an error, or its count of rows is none. -/
  fails : ∀ bound, Sql.bindPositional given.sql given.parameters = .ok bound →
    ((engine.submit given).result.isOk = false ↔ engine.failsOn given.use = true ∨
      given.use = .execute ∧ ∃ answer, engine.nextAnswer = .ok answer ∧ ¬ answer.rowCount.IsCount)
  /-- A changing statement reports its rows, as many as the database counted where that is an integer
  above zero, and a generated key only for an insertion. -/
  reports : ∀ result, (engine.submit given).result = .ok (.execution result) →
    ∃ answer, engine.nextAnswer = .ok answer ∧
      result.affectedRows = answer.rowCount.countFromZero ∧
      (∀ n, answer.rowCount = .int n → result.affectedRows = .int (max n 0)) ∧
      (result.insertId ≠ .null → result.insertId = answer.lastRowId ∧
        answer.lastRowId.truthy = true ∧ (Sql.Label.ofSql given.sql).verb = some .insert)

theorem accountsFor (engine : Engine) (given : Submission) : engine.AccountsFor given where
  unbound fault isUnbound := by
    rw [submit_of_unbound isUnbound, next, submit_of_unbound isUnbound]
    exact ⟨rfl, rfl, rfl⟩
  mismatch size sized differ := by
    have refused : Sql.bindPositional given.sql given.parameters =
        .error (.mismatch (Sql.placeholderCount given.sql) size) := by
      simp only [Sql.bindPositional, sized, if_neg differ]
    rw [submit_of_unbound refused, next, submit_of_unbound refused]
    exact ⟨rfl, rfl, rfl⟩
  binds sized := by
    simp only [Sql.bindPositional, sized, if_pos]
    exact ⟨_, rfl⟩
  bound bound isBound := by
    obtain ⟨calls, backend⟩ := submit_of_bound engine isBound
    rw [backend_submit] at backend
    rw [Backend.engine.inj backend]
    exact ⟨calls, rfl⟩
  fails bound isBound := by
    cases use : given.use with
    | execute =>
        rw [result_of_execute use isBound]
        cases answered : engine.nextAnswer with
        | error fault => exact iff_of_true rfl (.inl (by rw [failsOn, answered]; rfl))
        | ok answer =>
            have answers : engine.failsOn .execute = false := by
              rw [failsOn, answered]
              rfl
            rw [answers]
            dsimp only
            rw [isOk_reported_iff]
            simp
    | query => simp [isOk_result_of_query use isBound]
  reports result answered := by
    cases isBound : Sql.bindPositional given.sql given.parameters with
    | error fault =>
        rw [submit_of_unbound isBound] at answered
        cases answered
    | ok bound =>
        cases use : given.use with
        | query =>
            simp only [submit, use, Exchange.map] at answered
            cases rows : (engine.query given.sql given.parameters).result with
            | error fault => rw [rows] at answered; cases answered
            | ok found => rw [rows] at answered; cases answered
        | execute =>
            rw [result_of_execute use isBound] at answered
            cases next : engine.nextAnswer with
            | error fault => rw [next] at answered; cases answered
            | ok answer =>
                rw [next] at answered
                dsimp only at answered
                cases reported : resultOf (Sql.Label.ofSql given.sql) answer with
                | error fault => rw [reported] at answered; cases answered
                | ok found =>
                    rw [reported] at answered
                    cases answered
                    rw [(resultOf_eq_ok_iff.mp reported).2]
                    refine ⟨answer, rfl, rfl, ?_, generatedKey_of_ne_null⟩
                    intro n counted
                    dsimp only
                    rw [counted, Value.countFromZero_int]

/-! ## Runs of statements -/

/-- The engine after some statements. -/
def after (engine : Engine) : List Submission → Engine
  | [] => engine
  | given :: rest => (engine.next given).after rest

/-- What reaches the database for some statements. -/
def log (engine : Engine) : List Submission → List Call
  | [] => []
  | given :: rest => (engine.submit given).calls ++ (engine.next given).log rest

end Engine

/-- Whether a call opens a transaction or a connection. -/
def Call.opens : Call → Bool
  | .begin | .connect => true
  | _ => false

/-- Whether each transaction is ended, by committing it or rolling it back, and each connection is
closed, before the next one is opened, with one statement in each. -/
inductive IsBracketed : List Call → Prop where
  | nil : IsBracketed []
  | transaction (text : String) (binds : List (String × Value)) (failed : Bool) {rest : List Call}
      (bracketed : IsBracketed rest) :
      IsBracketed (.begin :: .send text binds :: (if failed then .rollback else .commit) :: rest)
  | connection (text : String) (binds : List (String × Value)) {rest : List Call}
      (bracketed : IsBracketed rest) : IsBracketed (.connect :: .send text binds :: .close :: rest)

namespace Engine

variable {engine : Engine} {given : Submission}

theorem AccountsFor.isBracketed (accounts : engine.AccountsFor given) {rest : List Call}
    (bracketed : IsBracketed rest) : IsBracketed ((engine.submit given).calls ++ rest) := by
  cases isBound : Sql.bindPositional given.sql given.parameters with
  | error fault =>
      rw [(accounts.unbound fault isBound).2.1]
      exact bracketed
  | ok bound =>
      rw [(accounts.bound bound isBound).1]
      cases given.use with
      | execute => exact .transaction _ _ _ bracketed
      | query => exact .connection _ _ bracketed

/-- A statement is counted as often as it opens something. -/
theorem AccountsFor.exists_observed (accounts : engine.AccountsFor given) :
    ∃ observed, (engine.next given).metrics.observations = engine.metrics.observations ++ observed ∧
      observed.length = (engine.submit given).calls.countP Call.opens := by
  cases isBound : Sql.bindPositional given.sql given.parameters with
  | error fault =>
      obtain ⟨_, calls, same⟩ := accounts.unbound fault isBound
      exact ⟨[], by rw [same, List.append_nil], by rw [calls]; rfl⟩
  | ok bound =>
      obtain ⟨calls, counted⟩ := accounts.bound bound isBound
      refine ⟨_, counted, ?_⟩
      rw [calls]
      cases given.use with
      | execute => cases engine.failsOn .execute <;> rfl
      | query => rfl

theorem AccountsFor.balanced (accounts : engine.AccountsFor given)
    (balanced : engine.metrics.Balanced) : (engine.next given).metrics.Balanced := by
  cases isBound : Sql.bindPositional given.sql given.parameters with
  | error fault => rwa [(accounts.unbound fault isBound).2.2]
  | ok bound =>
      have counted : (engine.next given).metrics =
          engine.metrics.observe (given.observation (engine.failsOn given.use)) :=
        congrArg Metrics.mk (accounts.bound bound isBound).2
      rw [counted]
      exact balanced.observe given _

/-- Over every run of statements each transaction and each connection is closed before the next one
is opened, and is counted once. If the counts of successes and errors added up to those of latencies
before, they do so at every moment. Every further statement is accounted for: what cannot be bound
opens nothing and is not counted, what is bound is committed just when neither it nor reading its
result failed and is counted under the label of its text, and it ends with a fault just when it is
counted as an error or the database gives no count of rows for it. -/
theorem accounts_for_every_statement (engine : Engine) (run : List Submission) :
    IsBracketed (engine.log run) ∧
      (∃ observed,
        (engine.after run).metrics.observations = engine.metrics.observations ++ observed ∧
          observed.length = (engine.log run).countP Call.opens) ∧
      (engine.metrics.Balanced → (engine.after run).metrics.Balanced) ∧
      ∀ given, (engine.after run).AccountsFor given := by
  induction run generalizing engine with
  | nil => exact ⟨.nil, ⟨[], (List.append_nil _).symm, rfl⟩, id, engine.accountsFor⟩
  | cons given rest ih =>
      have accounts := engine.accountsFor given
      obtain ⟨bracketed, ⟨later, counted, often⟩, balances, others⟩ := ih (engine.next given)
      refine ⟨accounts.isBracketed bracketed, ?_, fun balanced =>
        balances (accounts.balanced balanced), others⟩
      obtain ⟨first, countedFirst, once⟩ := accounts.exists_observed
      refine ⟨first ++ later, ?_, ?_⟩
      · rw [after, counted, countedFirst, List.append_assoc]
      · rw [List.length_append, once, often, log, List.countP_append]

end Engine

/-- A statement that changes orders, for examples. -/
def orderChange (sql : String) (parameters : List Value) : Submission :=
  ⟨.execute, sql, .tuple parameters⟩

/-- An engine whose database takes one statement and then fails, for examples. -/
def failingEngine : Engine :=
  ⟨[.ok ⟨.int 1, .int 7, []⟩, .error "gone away"], .empty⟩

/-- Two orders, of which the second one does not go through, for examples. -/
def orderRun : List Submission :=
  [orderChange "INSERT INTO `orders` (`note`) VALUES (?)" [.text "first"],
    orderChange "INSERT INTO `orders` (`note`) VALUES (?)" [.text "second"]]

/-- A success and an error are counted for the two orders, and a further statement without its
parameter is refused. -/
theorem accounts_for_every_statement_orders :
    IsBracketed (failingEngine.log orderRun) ∧ (failingEngine.after orderRun).metrics.Balanced ∧
      (failingEngine.after orderRun).metrics.countOf ⟨"orders", "insert", some "success"⟩ = 1 ∧
      (failingEngine.after orderRun).metrics.countOf ⟨"orders", "insert", some "error"⟩ = 1 ∧
      ((failingEngine.after orderRun).submit
        (orderChange "DELETE FROM `orders` WHERE `id`=?" [])).result =
          .error (.placeholderCount 1 0) := by
  obtain ⟨bracketed, _, balances, accounts⟩ :=
    failingEngine.accounts_for_every_statement orderRun
  refine ⟨bracketed, balances Metrics.balanced_empty, by decide +kernel, by decide +kernel, ?_⟩
  exact ((accounts _).mismatch 0 rfl (by decide)).1

/-- A statement that ends with a fault and is counted as a success: what the database gives for its
count of rows is none, which shows only when the transaction is over. -/
theorem uncountable_rows_counted_as_success :
    ¬ ∀ (engine : Engine) (given : Submission) (bound : Sql.BoundStatement),
      Sql.bindPositional given.sql given.parameters = .ok bound →
      ((engine.submit given).result.isOk = false ↔
        (engine.next given).metrics.observations =
          engine.metrics.observations ++ [given.observation true]) := by
  intro counted
  have both := counted ⟨[.ok ⟨.list [.int 1], .null, []⟩], .empty⟩
    (orderChange "DELETE FROM `orders`" []) _ rfl
  have observed := both.mp rfl
  revert observed
  decide +kernel

end RowMapper
