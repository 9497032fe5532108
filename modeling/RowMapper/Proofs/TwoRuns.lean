import RowMapper.Proofs.Run
import RowMapper.Session

/-!
# Two runs that cannot be told apart

Two operations run alike when, from states that look the same, they end with answers in a relation
or with the same fault, in states that look the same again. What a state looks like is given by a
view of it. Runs are put together step by step, each step taking related answers of the one before.

Sessions are looked at with their values masked: of every call that was noted, the text and the
count of its parameters remain, and everything else of the session does. A backend treats masked
parameters as it treats the others.
-/

namespace RowMapper

variable {ε ε' σ α β γ : Type}

/-- Whether two results are answers in a relation or the same fault. -/
inductive EndsAlike (related : α → β → Prop) : Except ε α → Except ε β → Prop
  | ok {answer : α} {other : β} (holds : related answer other) :
      EndsAlike related (.ok answer) (.ok other)
  | error (fault : ε) : EndsAlike related (.error fault) (.error fault)

namespace EndsAlike

theorem refl (result : Except ε α) : EndsAlike (· = ·) result result := by
  cases result with
  | error fault => exact .error fault
  | ok answer => exact .ok rfl

theorem mapError {related : α → β → Prop} {result : Except ε α} {other : Except ε β}
    (alike : EndsAlike related result other) (form : ε → ε') :
    EndsAlike related (result.mapError form) (other.mapError form) := by
  cases alike with
  | ok holds => exact .ok holds
  | error fault => exact .error (form fault)

theorem eq_iff {result other : Except ε α} : EndsAlike (· = ·) result other ↔ result = other := by
  constructor
  · intro alike
    cases alike with
    | ok same => rw [same]
    | error fault => rfl
  · rintro rfl
    exact refl result

/-- Results that are the same in some form. -/
theorem of_map_eq {form : α → γ} {result other : Except ε α}
    (same : result.map form = other.map form) :
    EndsAlike (fun answer another => form answer = form another) result other := by
  cases result with
  | error fault =>
      cases other with
      | error another => cases same; exact .error fault
      | ok answer => cases same
  | ok answer =>
      cases other with
      | error fault => cases same
      | ok another => exact .ok (Except.ok.inj same)

end EndsAlike

/-- Whether two operations, run from states that look the same, end alike in states that look the
same. -/
def RunsAlike (view : σ → γ) (related : α → β → Prop) (first : ExceptT ε (StateM σ) α)
    (second : ExceptT ε (StateM σ) β) : Prop :=
  ∀ state other, view state = view other →
    EndsAlike related (first state).1 (second other).1 ∧
      view (first state).2 = view (second other).2

namespace RunsAlike

variable {view : σ → γ} {related : α → β → Prop}

theorem pure {answer : α} {other : β} (holds : related answer other) :
    RunsAlike view related (pure answer : ExceptT ε (StateM σ) α) (pure other) :=
  fun _ _ same => ⟨.ok holds, same⟩

/-- An operation runs like itself where nothing of the state is hidden. -/
theorem refl (act : ExceptT ε (StateM σ) α) : RunsAlike id (· = ·) act act := by
  rintro state _ rfl
  exact ⟨.refl _, rfl⟩

theorem bind {α' β' : Type} {later : α' → β' → Prop} {first : ExceptT ε (StateM σ) α}
    {second : ExceptT ε (StateM σ) β} {next : α → ExceptT ε (StateM σ) α'}
    {next' : β → ExceptT ε (StateM σ) β'} (head : RunsAlike view related first second)
    (rest : ∀ answer other, related answer other →
      RunsAlike view later (next answer) (next' other)) :
    RunsAlike view later (first >>= next) (second >>= next') := by
  intro state other same
  obtain ⟨ends, look⟩ := head state other same
  rw [bind_apply, bind_apply]
  rcases ran : first state with ⟨result, middle⟩
  rcases ran' : second other with ⟨result', middle'⟩
  rw [ran, ran'] at ends look
  cases ends with
  | ok holds => exact rest _ _ holds middle middle' look
  | error fault => exact ⟨.error fault, look⟩

/-- Where nothing of the state is hidden, both runs end in one state. -/
theorem ends {first : ExceptT ε (StateM σ) α} {second : ExceptT ε (StateM σ) β}
    (alike : RunsAlike id related first second) (state : σ) :
    (∃ fault next, first state = (.error fault, next) ∧ second state = (.error fault, next)) ∨
      ∃ answer other next, first state = (.ok answer, next) ∧ second state = (.ok other, next) ∧
        related answer other := by
  obtain ⟨ends, look⟩ := alike state state rfl
  rcases ran : first state with ⟨result, next⟩
  rcases ran' : second state with ⟨result', next'⟩
  rw [ran, ran'] at ends look
  obtain rfl : next = next' := look
  cases ends with
  | error fault => exact .inl ⟨fault, next, rfl, rfl⟩
  | ok holds => exact .inr ⟨_, _, next, rfl, rfl, holds⟩

end RunsAlike

/-! ## Masked values -/

/-- As many nulls as there are values. -/
def maskValues (values : List Value) : List Value :=
  values.map fun _ => .null

theorem maskValues_eq_iff {values others : List Value} :
    maskValues values = maskValues others ↔ values.length = others.length := by
  simp [maskValues, List.map_const']

theorem length_maskValues (values : List Value) : (maskValues values).length = values.length :=
  List.length_map _

/-- Binds with null for the value of each. -/
def maskBinds (binds : List (String × Value)) : List (String × Value) :=
  binds.map fun bind => (bind.1, .null)

/-- The call with its values masked. -/
def Call.masked : Call → Call
  | .execute sql parameters => .execute sql (maskValues parameters)
  | .query sql parameters => .query sql (maskValues parameters)
  | .send text binds => .send text (maskBinds binds)
  | call => call

/-- The session with the values in its calls masked. -/
def Session.masked (session : Session) : Session :=
  { session with calls := session.calls.map Call.masked }

/-- The exchange with the values in its calls masked. -/
def Exchange.masked (exchange : Exchange α) : Exchange α :=
  { exchange with calls := exchange.calls.map Call.masked }

theorem Session.masked_after (session : Session) (exchange : Exchange α) :
    (session.after exchange).masked = session.masked.after exchange.masked := by
  simp [masked, after, Exchange.masked]

/-! ## Backends on masked parameters -/

namespace Sql

theorem nameParameters_maskValues (index : Nat) (values : List Value) :
    nameParameters index (maskValues values) = maskBinds (nameParameters index values) := by
  induction values generalizing index with
  | nil => rfl
  | cons v rest ih =>
      simp only [maskValues, maskBinds, List.map_cons, nameParameters] at ih ⊢
      rw [ih]

/-- Binding pays no regard to what is bound. -/
theorem bindPositional_maskValues (sql : String) (values : List Value) :
    bindPositional sql (.tuple (maskValues values)) =
      (bindPositional sql (.tuple values)).map fun bound =>
        { bound with binds := maskBinds bound.binds } := by
  simp only [bindPositional, Value.size, Value.items?, length_maskValues, Option.getD_some,
    nameParameters_maskValues]
  split
  · rfl
  · rfl

end Sql

namespace Engine

theorem execute_maskValues (engine : Engine) (sql : String) (values : List Value) :
    engine.execute sql (.tuple (maskValues values)) =
      (engine.execute sql (.tuple values)).masked := by
  simp only [execute, Sql.bindPositional_maskValues]
  cases Sql.bindPositional sql (.tuple values) with
  | error fault => rfl
  | ok bound =>
      cases (nextScripted standardAnswer engine.answers).isOk <;>
        simp [Except.map, Exchange.masked, Call.masked, maskBinds]

theorem query_maskValues (engine : Engine) (sql : String) (values : List Value) :
    engine.query sql (.tuple (maskValues values)) =
      (engine.query sql (.tuple values)).masked := by
  simp only [query, Sql.bindPositional_maskValues]
  cases Sql.bindPositional sql (.tuple values) with
  | error fault => rfl
  | ok bound => simp [Except.map, Exchange.masked, Call.masked, maskBinds]

end Engine

namespace Backend

/-- What a backend does with masked parameters is what it does with the others, masked. -/
theorem execute_maskValues (backend : Backend) (sql : String) (values : List Value) :
    backend.execute sql (.tuple (maskValues values)) =
      (backend.execute sql (.tuple values)).masked := by
  cases backend with
  | recorder state => rfl
  | engine state => exact state.execute_maskValues sql values

theorem query_maskValues (backend : Backend) (sql : String) (values : List Value) :
    backend.query sql (.tuple (maskValues values)) =
      (backend.query sql (.tuple values)).masked := by
  cases backend with
  | recorder state => rfl
  | engine state => exact state.query_maskValues sql values

end Backend

/-! ## Operations on sessions -/

namespace Action

variable {related : α → β → Prop}

/-- Whether two operations, run from sessions that look the same with their values masked, end
alike in sessions that look the same. -/
abbrev Alike (related : α → β → Prop) (first : Action α) (second : Action β) : Prop :=
  RunsAlike Session.masked related first second

theorem alike_ofResult {result : Except Fault α} {other : Except Fault β}
    (alike : EndsAlike related result other) : Alike related (ofResult result) (ofResult other) :=
  fun _ _ same => ⟨alike, same⟩

theorem alike_ofOperand (result : Except ValueFault α) :
    Alike (· = ·) (ofOperand result) (ofOperand result) :=
  alike_ofResult (.refl _)

theorem alike_report (events : List Event) : Alike (· = ·) (report events) (report events) := by
  intro session other same
  have reported := congrArg (fun session : Session =>
    { session with events := session.events ++ events }) same
  exact ⟨.ok rfl, reported⟩

/-- What runs in the environment sees the whole of it, and nothing else of the session. -/
theorem alike_inEnvironment {evaluation : Evaluation α} {other : Evaluation β}
    (alike : RunsAlike id related evaluation other) :
    Alike related (inEnvironment evaluation) (inEnvironment other) := by
  intro session another same
  obtain ⟨ends, look⟩ := alike _ _ (congrArg Session.environment same)
  refine ⟨ends.mapError _, ?_⟩
  change { session.masked with environment := (evaluation session.masked.environment).2 } =
    { another.masked with environment := (other another.masked.environment).2 }
  rw [id_eq, id_eq] at look
  rw [look, same]

theorem alike_ofEvaluation {evaluation : Evaluation (Report α)}
    {other : Evaluation (Report β)}
    (alike : RunsAlike id
      (fun report another => report.events = another.events ∧
        EndsAlike related report.result another.result) evaluation other) :
    Alike related (ofEvaluation evaluation) (ofEvaluation other) := by
  apply (alike_inEnvironment alike).bind
  intro report another same
  rw [ofReport, ofReport, same.1]
  exact (alike_report another.events).bind fun _ _ _ => alike_ofResult same.2

/-- Hand something to the backend and note what it did. -/
def exchanging (take : Backend → Exchange α) : Action α :=
  fun session => ((take session.backend).result, session.after (take session.backend))

/-- Exchanges that look the same are noted alike. -/
theorem alike_exchanging {take other : Backend → Exchange α}
    (same : ∀ backend, (take backend).masked = (other backend).masked) :
    Alike (· = ·) (exchanging take) (exchanging other) := by
  intro session another look
  have backend : session.masked.backend = another.masked.backend := congrArg _ look
  have exchange : (take session.backend).masked = (other another.backend).masked := by
    rw [same]
    exact congrArg (fun backend => (other backend).masked) backend
  have result : (take session.backend).masked.result = (other another.backend).masked.result :=
    congrArg _ exchange
  refine ⟨?_, ?_⟩
  · change EndsAlike _ (take session.backend).masked.result (other another.backend).masked.result
    rw [result]
    exact .refl _
  · change (session.after (take session.backend)).masked =
      (another.after (other another.backend)).masked
    rw [Session.masked_after, Session.masked_after, look, exchange]

/-- A statement is executed alike whatever the values of its parameters. -/
theorem alike_execute (sql : String) {values others : List Value}
    (same : values.length = others.length) :
    Alike (· = ·) (execute sql (.tuple values)) (execute sql (.tuple others)) := by
  change Alike _ (exchanging (·.execute sql (.tuple values)))
    (exchanging (·.execute sql (.tuple others)))
  apply alike_exchanging
  intro backend
  rw [← Backend.execute_maskValues, maskValues_eq_iff.mpr same, Backend.execute_maskValues]

theorem alike_query (sql : String) {values others : List Value}
    (same : values.length = others.length) :
    Alike (· = ·) (query sql (.tuple values)) (query sql (.tuple others)) := by
  change Alike _ (exchanging (·.query sql (.tuple values)))
    (exchanging (·.query sql (.tuple others)))
  apply alike_exchanging
  intro backend
  rw [← Backend.query_maskValues, maskValues_eq_iff.mpr same, Backend.query_maskValues]

/-- Of a session, everything but its calls is the same in another that looks the same. -/
theorem alike_get :
    Alike (fun session other => session.masked = other.masked) (getThe Session)
      (getThe Session) :=
  fun _ _ same => ⟨.ok same, same⟩

end Action

end RowMapper
