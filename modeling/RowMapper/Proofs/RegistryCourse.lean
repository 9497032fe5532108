import RowMapper.Manager
import RowMapper.Proofs.Defining
import RowMapper.Proofs.Schema.TableDefinition

/-!
# The models of a session over its course

Definitions and registrations add models to a session, each under a name of its own, and nothing
takes a model away. What a single call does is said once, and holds wherever the course of a session
has come to, whatever routines did to their state in between. The tables of the models are created
in the order of definition and dropped in the reverse one.
-/

namespace RowMapper

/-! ## Signatures -/

/-- Whether the validators of every column of a table can be gone through, as a signature has to. -/
def Table.HasSignature (table : Table) : Prop :=
  ∀ column ∈ table.columns, column.validators.items?.isSome = true

theorem Column.isOk_signature (column : Column) (environment : Environment) :
    (column.signature environment).isOk = column.validators.items?.isSome := by
  rw [signature, Value.items]
  cases column.validators.items? with
  | none => rfl
  | some items => rfl

theorem Column.isOk_signatures_iff (environment : Environment) {columns : List Column} :
    (signatures environment columns).isOk = true ↔
      ∀ column ∈ columns, column.validators.items?.isSome = true := by
  induction columns with
  | nil => exact iff_of_true rfl (by simp)
  | cons column rest ih =>
      rw [List.forall_mem_cons, ← isOk_signature column environment, ← ih, signatures]
      cases column.signature environment with
      | error fault => exact iff_of_false Bool.false_ne_true fun both => Bool.false_ne_true both.1
      | ok first =>
          cases signatures environment rest with
          | error fault =>
              exact iff_of_false Bool.false_ne_true fun both => Bool.false_ne_true both.2
          | ok others => exact iff_of_true rfl ⟨rfl, rfl⟩

/-- Two tables can be compared just when both have signatures. -/
theorem Table.isOk_sameSignature_iff (environment : Environment) {a b : Table} :
    (a.sameSignature b environment).isOk = true ↔ a.HasSignature ∧ b.HasSignature := by
  rw [HasSignature, HasSignature, ← Column.isOk_signatures_iff environment,
    ← Column.isOk_signatures_iff environment, sameSignature, signature, signature]
  cases Column.signatures environment a.columns with
  | error fault => exact iff_of_false Bool.false_ne_true fun both => Bool.false_ne_true both.1
  | ok first =>
      cases Column.signatures environment b.columns with
      | error fault => exact iff_of_false Bool.false_ne_true fun both => Bool.false_ne_true both.2
      | ok second => exact iff_of_true rfl ⟨rfl, rfl⟩

/-! ## One definition -/

namespace Registration

/-- The model that a registration holds. -/
def model? : Registration → Option Model
  | .accepted definition => some definition.model
  | .rejected _ => none

/-- The refusal that a registration holds. -/
def refusal? : Registration → Option DeclarationFault
  | .accepted _ => none
  | .rejected fault => some fault

end Registration

namespace Model

variable {check : StorageCheck} {name fields label : Value} {base : Base} {session : Session}

/-- What a definition does to the models of a session and answers. -/
structure DefinesAs (check : StorageCheck) (name fields label : Value) (base : Base)
    (session : Session) : Prop where
  /-- A definition that fails leaves the models as they are. -/
  failed : ∀ fault, (defineUnder check name fields label base session).1 = .error fault →
    (defineUnder check name fields label base session).2.models = session.models
  /-- A declaration that no table is built from is refused. -/
  refused : ∀ fault, (Table.build name fields check label).result = .error fault →
    (defineUnder check name fields label base session).1 = .error fault
  /-- A new name gets a model, behind all others. -/
  new : ∀ table, (Table.build name fields check label).result = .ok table →
    session.model? table.model = none → ∃ model, model.table = table ∧
      (defineUnder check name fields label base session).1 = .ok ⟨model, false⟩ ∧
      (defineUnder check name fields label base session).2.models = session.models ++ [model]
  /-- Under a known name the model that is there is the answer, if the signatures agree as things
  stand, and otherwise the definition is refused. -/
  known : ∀ table existing, (Table.build name fields check label).result = .ok table →
    session.model? table.model = some existing →
    existing.table.HasSignature → table.HasSignature →
    (defineUnder check name fields label base session).2.models = session.models ∧
      ∃ same, existing.table.sameSignature table session.environment = .ok same ∧
        (defineUnder check name fields label base session).1 =
          if same then .ok ⟨existing, true⟩
          else .error (.declaration (.alreadyDefined table.modelLabel))
  /-- Without a signature the definition ends with the fault of going through the validators. -/
  unsigned : ∀ table existing, (Table.build name fields check label).result = .ok table →
    session.model? table.model = some existing →
    ¬ (existing.table.HasSignature ∧ table.HasSignature) → ∃ fault,
      existing.table.sameSignature table session.environment = .error fault ∧
        (defineUnder check name fields label base session).1 = .error (.operand fault)

/-- How a definition ends whose table is built. -/
theorem defineUnder_of_built {guard : Option Guard} {table : Table}
    (allowed : base.guard? session = .ok guard)
    (built : (Table.build name fields check label).result = .ok table) :
    (defineUnder check name fields label base session).1 = settle session guard table ∧
      (defineUnder check name fields label base session).2.models =
        match settle session guard table with
        | .error _ => session.models
        | .ok definition =>
            session.models ++ if definition.existing then [] else [definition.model] := by
  rw [defineUnder_apply, allowed]
  dsimp only
  rw [built]
  dsimp only
  cases settle session guard table with
  | error fault => exact ⟨rfl, rfl⟩
  | ok definition => exact ⟨rfl, Session.models_keeping _ _⟩

theorem settle_of_new {guard : Option Guard} {table : Table}
    (new : session.model? table.model = none) :
    settle session guard table = .ok ⟨⟨table, guard⟩, false⟩ := by
  rw [settle, new]

theorem settle_of_signed {guard : Option Guard} {table : Table} {existing : Model} {same : Bool}
    (known : session.model? table.model = some existing)
    (compared : existing.table.sameSignature table session.environment = .ok same) :
    settle session guard table =
      if same then .ok ⟨existing, true⟩
      else .error (.declaration (.alreadyDefined table.modelLabel)) := by
  rw [settle, known]
  dsimp only
  rw [compared]
  cases same <;> rfl

theorem settle_of_unsigned {guard : Option Guard} {table : Table} {existing : Model}
    {fault : ValueFault} (known : session.model? table.model = some existing)
    (compared : existing.table.sameSignature table session.environment = .error fault) :
    settle session guard table = .error (.operand fault) := by
  rw [settle, known]
  dsimp only
  rw [compared]

theorem definesAs {guard : Option Guard} (allowed : base.guard? session = .ok guard) :
    DefinesAs check name fields label base session where
  failed fault failed := by
    cases built : (Table.build name fields check label).result with
    | error early =>
        rw [defineUnder_apply, allowed]
        dsimp only
        rw [built]
        rfl
    | ok table =>
        obtain ⟨result, models⟩ := defineUnder_of_built allowed built
        rw [failed] at result
        rw [models, ← result]
  refused fault failed := defineUnder_of_failed allowed failed
  new table built new := by
    obtain ⟨result, models⟩ := defineUnder_of_built allowed built
    rw [settle_of_new new] at result models
    exact ⟨⟨table, guard⟩, rfl, result, models⟩
  known table existing built known first second := by
    obtain ⟨result, models⟩ := defineUnder_of_built allowed built
    have signed := (Table.isOk_sameSignature_iff session.environment).mpr ⟨first, second⟩
    cases compared : existing.table.sameSignature table session.environment with
    | error fault => rw [compared] at signed; cases signed
    | ok same =>
        rw [settle_of_signed known compared] at result models
        refine ⟨?_, same, rfl, result⟩
        cases same with
        | true => exact models.trans (List.append_nil _)
        | false => exact models
  unsigned table existing built known lacking := by
    obtain ⟨result, _⟩ := defineUnder_of_built allowed built
    cases compared : existing.table.sameSignature table session.environment with
    | error fault => exact ⟨fault, rfl, result.trans (settle_of_unsigned known compared)⟩
    | ok same =>
        exact absurd ((Table.isOk_sameSignature_iff _).mp (by rw [compared]; rfl)) lacking

/-- What a registration does, compared with the definition. -/
structure RegistersAs (check : StorageCheck) (name fields label : Value) (base : Base)
    (session : Session) : Prop where
  models : (registerUnder check name fields label base session).2.models =
    (defineUnder check name fields label base session).2.models
  accepted : ∀ definition,
    (defineUnder check name fields label base session).1 = .ok definition →
      (registerUnder check name fields label base session).1 = .ok (.accepted definition)
  rejected : ∀ refused,
    (defineUnder check name fields label base session).1 = .error (.declaration refused) →
      (registerUnder check name fields label base session).1 = .ok (.rejected refused)
  passedOn : ∀ fault, fault.isRefusedDeclaration = false →
    (defineUnder check name fields label base session).1 = .error fault →
      (registerUnder check name fields label base session).1 = .error fault
  either : ∀ registration,
    (registerUnder check name fields label base session).1 = .ok registration →
      registration.refusal?.isSome = !registration.model?.isSome

theorem registersAs : RegistersAs check name fields label base session where
  models := by
    rw [registerUnder]
    rcases defineUnder check name fields label base session with ⟨fault | definition, next⟩
    · cases fault <;> rfl
    · rfl
  accepted definition answered := by
    rw [registerUnder]
    cases ran : defineUnder check name fields label base session with
    | mk result next =>
        rw [ran] at answered
        cases answered
        rfl
  rejected refused := registerUnder_of_refused
  passedOn fault other failed := registerUnder_of_other failed other
  either registration _ := by cases registration <;> rfl

end Model

/-! ## The course of a session -/

namespace Session

variable {check : StorageCheck} {first last next : Session}

theorem model?_eq_none_iff {name : String} :
    first.model? name = none ↔ name ∉ first.models.map Model.name := by
  simp [model?, List.find?_eq_none]

/-- What holds of the models of a session: each has a name of its own and comes from a
declaration. -/
structure HasRegistry (check : StorageCheck) (session : Session) : Prop where
  names_nodup : (session.models.map Model.name).Nodup
  declared : ∀ model ∈ session.models, ∃ name fields label,
    (Table.build name fields check label).result = .ok model.table

/-- Looking up a name finds the one model of that name. -/
theorem HasRegistry.model?_eq_some_iff (registry : first.HasRegistry check) {name : String}
    {model : Model} :
    first.model? name = some model ↔ model ∈ first.models ∧ model.name = name := by
  constructor
  · intro found
    exact ⟨List.mem_of_find?_eq_some found, by simpa using List.find?_some found⟩
  · intro registered
    obtain ⟨member, named⟩ := registered
    cases found : first.model? name with
    | none =>
        rw [model?_eq_none_iff, ← named] at found
        exact absurd (List.mem_map_of_mem member) found
    | some other =>
        have sameName : other.name = model.name := by
          rw [named]
          simpa using List.find?_some found
        rw [List.inj_on_of_nodup_map registry.names_nodup (List.mem_of_find?_eq_some found) member
          sameName]

/-- Whether a session has the models of another one, and perhaps one more behind them that comes
from a declaration and has a new name. -/
def Adds (check : StorageCheck) (first next : Session) : Prop :=
  next.models = first.models ∨ ∃ model, next.models = first.models ++ [model] ∧
    first.model? model.name = none ∧ ∃ name fields label,
      (Table.build name fields check label).result = .ok model.table

theorem Adds.isPrefix (adds : Adds check first next) : first.models <+: next.models := by
  cases adds with
  | inl same => exact ⟨[], by rw [same, List.append_nil]⟩
  | inr more =>
      obtain ⟨model, models, _⟩ := more
      exact ⟨[model], models.symm⟩

theorem Adds.hasRegistry (adds : Adds check first next) (registry : first.HasRegistry check) :
    next.HasRegistry check := by
  cases adds with
  | inl same =>
      constructor
      · rw [same]
        exact registry.names_nodup
      · rw [same]
        exact registry.declared
  | inr more =>
      obtain ⟨model, models, new, declared⟩ := more
      constructor
      · rw [models, List.map_append, List.map_singleton, ← List.concat_eq_append]
        exact registry.names_nodup.concat (model?_eq_none_iff.mp new)
      · rw [models, List.forall_mem_append, List.forall_mem_singleton]
        exact ⟨registry.declared, declared⟩

end Session

namespace Model

theorem adds_defineUnder (check : StorageCheck) (name fields label : Value) (base : Base)
    (session : Session) :
    session.Adds check (defineUnder check name fields label base session).2 := by
  cases allowed : base.guard? session with
  | error fault =>
      rw [defineUnder_apply, allowed]
      exact .inl rfl
  | ok guard =>
      cases built : (Table.build name fields check label).result with
      | error fault =>
          exact .inl ((definesAs allowed).failed fault ((definesAs allowed).refused fault built))
      | ok table =>
          cases found : session.model? table.model with
          | none =>
              obtain ⟨model, rfl, _, models⟩ := (definesAs allowed).new table built found
              exact .inr ⟨model, models, found, name, fields, label, built⟩
          | some existing =>
              by_cases both : existing.table.HasSignature ∧ table.HasSignature
              · exact .inl ((definesAs allowed).known table existing built found both.1 both.2).1
              · obtain ⟨fault, _, failed⟩ :=
                  (definesAs allowed).unsigned table existing built found both
                exact .inl ((definesAs allowed).failed _ failed)

theorem adds_registerUnder (check : StorageCheck) (name fields label : Value) (base : Base)
    (session : Session) :
    session.Adds check (registerUnder check name fields label base session).2 := by
  have adds := adds_defineUnder check name fields label base session
  rw [Session.Adds, ← registersAs.models] at adds
  exact adds

end Model

namespace Session

variable {check : StorageCheck} {first last next : Session}

/-- The course of a session through definitions, registrations and whatever else keeps its
models. -/
inductive Course (check : StorageCheck) (first : Session) : Session → Prop where
  | start : Course check first first
  | define {last : Session} (course : Course check first last) (name fields label : Value)
      (base : Base) : Course check first (Model.defineUnder check name fields label base last).2
  | register {last : Session} (course : Course check first last) (name fields label : Value)
      (base : Base) : Course check first (Model.registerUnder check name fields label base last).2
  | between {last next : Session} (course : Course check first last)
      (same : next.models = last.models) : Course check first next

theorem Course.hasRegistry (course : Course check first last) (registry : first.HasRegistry check) :
    last.HasRegistry check := by
  induction course with
  | start => exact registry
  | define _ name fields label base ih =>
      exact (Model.adds_defineUnder check name fields label base _).hasRegistry ih
  | register _ name fields label base ih =>
      exact (Model.adds_registerUnder check name fields label base _).hasRegistry ih
  | between _ same ih => exact Adds.hasRegistry (.inl same) ih

/-- Models stay where they are. -/
theorem Course.isPrefix (course : Course check first last) : first.models <+: last.models := by
  induction course with
  | start => exact List.prefix_rfl
  | define _ name fields label base ih =>
      exact ih.trans (Model.adds_defineUnder check name fields label base _).isPrefix
  | register _ name fields label base ih =>
      exact ih.trans (Model.adds_registerUnder check name fields label base _).isPrefix
  | between _ same ih =>
      rw [same]
      exact ih

end Session

/-! ## The tables of all models -/

/-- The text of the statement that a call gives to a backend or to the database below it. -/
def Call.text? : Call → Option String
  | .execute sql _ | .query sql _ => some sql
  | .send text _ => some text
  | _ => none

/-- Whether a statement has no parameters and no placeholders for any. -/
def Statement.IsFixed (statement : Statement) : Prop :=
  statement.parameters = [] ∧ Sql.HasNoPlaceholder .plain statement.sql.toList

namespace Backend

/-- What a backend does with statements one after the other, up to the first that fails. -/
def takeAll (backend : Backend) : List Statement → Exchange Unit
  | [] => ⟨.ok (), backend, [], []⟩
  | statement :: rest =>
      let taken := backend.execute statement.sql (.tuple statement.parameters)
      match taken.result with
      | .error fault => ⟨.error fault, taken.backend, taken.calls, taken.events⟩
      | .ok _ =>
          let later := taken.backend.takeAll rest
          ⟨later.result, later.backend, taken.calls ++ later.calls, taken.events ++ later.events⟩

/-- The form in which the text of a statement is noted among the calls. -/
def form (backend : Backend) (sql : String) : String :=
  match backend with
  | .recorder _ => sql
  | .engine _ => Sql.boundText sql

theorem execute_of_isFixed (backend : Backend) {statement : Statement} (fixed : statement.IsFixed) :
    let taken := backend.execute statement.sql (.tuple statement.parameters)
    taken.calls.filterMap Call.text? = [backend.form statement.sql] ∧
      taken.backend.form = backend.form := by
  obtain ⟨none, without⟩ := fixed
  rw [none]
  cases backend with
  | recorder state => exact ⟨rfl, rfl⟩
  | engine state =>
      simp only [execute, Engine.execute, Sql.bindPositional_of_hasNoPlaceholder without]
      refine ⟨?_, rfl⟩
      cases (nextScripted Engine.standardAnswer state.answers).isOk <;> rfl

/-- The statements that a backend is given are the first ones, and all of them if none fails. -/
theorem texts_takeAll (backend : Backend) {statements : List Statement}
    (fixed : ∀ statement ∈ statements, statement.IsFixed) :
    ∃ given, given <+: statements ∧
      ((backend.takeAll statements).result = .ok () → given = statements) ∧
      (backend.takeAll statements).calls.filterMap Call.text? =
        given.map fun statement => backend.form statement.sql := by
  induction statements generalizing backend with
  | nil => exact ⟨[], List.prefix_rfl, fun _ => rfl, rfl⟩
  | cons statement rest ih =>
      rw [List.forall_mem_cons] at fixed
      obtain ⟨texts, form⟩ := backend.execute_of_isFixed fixed.1
      obtain ⟨given, isPrefix, all, later⟩ :=
        ih (backend.execute statement.sql (.tuple statement.parameters)).backend fixed.2
      rw [takeAll]
      dsimp only
      cases answered : (backend.execute statement.sql (.tuple statement.parameters)).result with
      | error fault =>
          refine ⟨[statement], ⟨rest, rfl⟩, ?_, texts⟩
          intro impossible
          cases impossible
      | ok result =>
          refine ⟨statement :: given, List.prefix_cons_inj statement |>.mpr isPrefix, ?_, ?_⟩
          · intro answers
            rw [all answers]
          · dsimp only
            rw [List.filterMap_append, texts, later, form]
            rfl

end Backend

/-- Whether an operation gives the backend statements one after the other, up to the first that
fails. -/
def Session.TakesInOrder (session : Session) (act : Action Unit) (statements : List Statement) :
    Prop :=
  act session = ((session.backend.takeAll statements).result,
      session.after (session.backend.takeAll statements)) ∧
    ∃ given, given <+: statements ∧ ((act session).1 = .ok () → given = statements) ∧
      (session.backend.takeAll statements).calls.filterMap Call.text? =
        given.map fun statement => session.backend.form statement.sql

namespace Model

variable {act : Model → Action ExecutionResult} {models : List Model} {statements : List Statement}

theorem forEach_apply
    (each : List.Forall₂ (fun model statement => act model = Action.executeStatement statement)
      models statements) (session : Session) :
    forEach act models session = ((session.backend.takeAll statements).result,
      session.after (session.backend.takeAll statements)) := by
  induction each generalizing session with
  | nil => simp [forEach, Backend.takeAll, Session.after]; rfl
  | @cons model statement models statements head _ ih =>
      have first : Action.executeStatement statement session =
          ((session.backend.execute statement.sql (.tuple statement.parameters)).result,
            session.after
              (session.backend.execute statement.sql (.tuple statement.parameters))) := rfl
      rw [forEach, bind_apply, head, first, Backend.takeAll]
      dsimp only
      cases (session.backend.execute statement.sql (.tuple statement.parameters)).result with
      | error fault => rfl
      | ok result =>
          dsimp only
          rw [ih]
          simp only [Session.after, List.append_assoc]

theorem takesInOrder_forEach
    (each : List.Forall₂ (fun model statement => act model = Action.executeStatement statement)
      models statements) (fixed : ∀ statement ∈ statements, statement.IsFixed) (session : Session) :
    session.TakesInOrder (forEach act models) statements := by
  obtain ⟨given, isPrefix, all, texts⟩ := session.backend.texts_takeAll fixed
  refine ⟨forEach_apply each session, given, isPrefix, ?_, texts⟩
  rw [forEach_apply each session]
  exact all

theorem isFixed_drop (table : Table) : (Statement.drop table).IsFixed := by
  have front : Sql.IsClosed "DROP TABLE IF EXISTS ".toList := (Sql.IsPlain.of_text rfl).isClosed
  refine ⟨rfl, ?_⟩
  change Sql.HasNoPlaceholder .plain ("DROP TABLE IF EXISTS " ++ Sql.quoteName table.name).toList
  rw [String.toList_append]
  exact (front.append (Sql.isClosed_quoteName table.name)).noPlaceholder

theorem takesInOrder_dropAll (session : Session) :
    session.TakesInOrder dropAll (session.models.reverse.map fun model => .drop model.table) := by
  have each : List.Forall₂
      (fun model statement => dropTable model = Action.executeStatement statement)
      session.models.reverse (session.models.reverse.map fun model => .drop model.table) := by
    rw [List.forall₂_map_right_iff, List.forall₂_same]
    exact fun _ _ => rfl
  have fixed : ∀ statement ∈ session.models.reverse.map fun model => Statement.drop model.table,
      statement.IsFixed := by
    rw [List.forall_mem_map]
    exact fun model _ => isFixed_drop model.table
  exact takesInOrder_forEach each fixed session

/-- The statement that creates the table of a model. -/
def Creates (model : Model) (statement : Statement) : Prop :=
  Statement.create model.table = .ok statement

theorem Creates.createTable_eq {model : Model} {statement : Statement}
    (creates : model.Creates statement) :
    model.createTable = Action.executeStatement statement := by
  rw [createTable, creates]
  rfl

theorem exists_creates {model : Model} (coherent : model.table.Coherent .standard)
    (commented : ∀ column ∈ model.table.columns, column.HasTextComment) :
    ∃ statement, model.Creates statement ∧ statement.IsFixed := by
  obtain ⟨sql, rest, created, closed, _⟩ := Table.exists_createSql coherent commented
  refine ⟨⟨sql, [], .create, model.table.name⟩, ?_, rfl, closed.noPlaceholder⟩
  rw [Creates, Statement.create, created]
  rfl

theorem exists_forall₂_creates (each : ∀ model ∈ models, ∃ statement, model.Creates statement ∧
    statement.IsFixed) :
    ∃ statements, List.Forall₂ Creates models statements ∧
      ∀ statement ∈ statements, statement.IsFixed := by
  induction models with
  | nil => exact ⟨[], .nil, by simp⟩
  | cons model rest ih =>
      rw [List.forall_mem_cons] at each
      obtain ⟨statement, creates, fixed⟩ := each.1
      obtain ⟨statements, others, othersFixed⟩ := ih each.2
      exact ⟨statement :: statements, .cons creates others,
        List.forall_mem_cons.mpr ⟨fixed, othersFixed⟩⟩

end Model

namespace Session

variable {check : StorageCheck} {first last : Session}

theorem HasRegistry.exists_takesInOrder_createAll (registry : last.HasRegistry .standard)
    (commented : ∀ model ∈ last.models, ∀ column ∈ model.table.columns, column.HasTextComment) :
    ∃ statements, List.Forall₂ Model.Creates last.models statements ∧
      last.TakesInOrder Model.createAll statements := by
  have each : ∀ model ∈ last.models, ∃ statement, model.Creates statement ∧ statement.IsFixed := by
    intro model member
    obtain ⟨name, fields, label, built⟩ := registry.declared model member
    exact Model.exists_creates (Table.coherent_of_build built) (commented model member)
  obtain ⟨statements, creates, fixed⟩ := Model.exists_forall₂_creates each
  exact ⟨statements, creates, Model.takesInOrder_forEach
    (creates.imp fun _ _ => Model.Creates.createTable_eq) fixed last⟩

/-- Wherever the course of a session has come to that began without models, each model has a name
of its own, by which it is found, and comes from a declaration; no further course takes a model away
or puts another one in front of it; every definition and every registration does to the models what
is said of a single one; and the tables of all models are created in the order of definition and
dropped in the reverse one, up to the first statement that fails. -/
theorem Course.keeps_registry (course : Course check first last) (fresh : first.models = []) :
    last.HasRegistry check ∧
      (∀ name model, last.model? name = some model ↔ model ∈ last.models ∧ model.name = name) ∧
      (∀ further, Course check last further → last.models <+: further.models) ∧
      (∀ name fields label base guard, Base.guard? base last = .ok guard →
        Model.DefinesAs check name fields label base last ∧
          Model.RegistersAs check name fields label base last) ∧
      (check = .standard →
        (∀ model ∈ last.models, ∀ column ∈ model.table.columns, column.HasTextComment) →
        ∃ statements, List.Forall₂ Model.Creates last.models statements ∧
          last.TakesInOrder Model.createAll statements) ∧
      last.TakesInOrder Model.dropAll (last.models.reverse.map fun model => .drop model.table) := by
  have registry : last.HasRegistry check := course.hasRegistry {
    names_nodup := by rw [fresh]; exact List.nodup_nil
    declared := by rw [fresh]; simp }
  refine ⟨registry, fun _ _ => registry.model?_eq_some_iff, fun _ further => further.isPrefix, ?_,
    ?_, Model.takesInOrder_dropAll last⟩
  · intro name fields label base guard allowed
    exact ⟨Model.definesAs allowed, Model.registersAs⟩
  · intro standard commented
    subst standard
    exact registry.exists_takesInOrder_createAll commented

end Session

/-- A column of labels, for examples. -/
def labelColumn (type : FieldType) : Column :=
  { ColumnTraits.standard with label := .text "label", type }

/-- A table of tags, for examples. -/
def tags : Table :=
  ⟨.text "Tag", .text "tag", [labelColumn .string], none, none⟩

/-- The declaration of the columns of tags, for examples. -/
def tagFields (type : FieldType) : Value :=
  .list [(labelColumn type).toValue]

/-- A session in which tags were defined, and then other tags were to be registered, for
examples. -/
def tagSession : Session :=
  (Model.registerUnder .standard (.text "Tag") (tagFields .text) .null .plain
    (Model.defineUnder .standard (.text "Tag") (tagFields .string) .null .plain
      (.start [] (.recorder .fresh) ⟨0, 0⟩)).2).2

/-- Only the first tags are there, defining them again gives them, and their table is created. -/
theorem keeps_registry_tags :
    tagSession.models = [⟨tags, none⟩] ∧
      (Model.defineUnder .standard (.text "Tag") (tagFields .string) .null .plain tagSession).1 =
        .ok ⟨⟨tags, none⟩, true⟩ ∧
      ∃ statement, Model.Creates ⟨tags, none⟩ statement ∧
        tagSession.TakesInOrder Model.createAll [statement] := by
  have course : Session.Course .standard (.start [] (.recorder .fresh) ⟨0, 0⟩) tagSession :=
    (Session.Course.start.define _ _ _ _).register _ _ _ _
  have models : tagSession.models = [⟨tags, none⟩] := rfl
  have signed : tags.HasSignature := by
    intro column member
    rw [List.mem_singleton.mp member]
    rfl
  have commented : ∀ model ∈ tagSession.models, ∀ column ∈ model.table.columns,
      column.HasTextComment := by
    rw [models, List.forall_mem_singleton]
    intro column member
    rw [List.mem_singleton.mp member]
    exact .inl rfl
  obtain ⟨_, _, _, calls, creation, _⟩ := course.keeps_registry rfl
  refine ⟨models, ?_, ?_⟩
  · obtain ⟨_, same, compared, answered⟩ := (calls (.text "Tag") (tagFields .string) .null .plain
      none rfl).1.known tags ⟨tags, none⟩ rfl rfl signed signed
    cases compared
    exact answered
  · obtain ⟨statements, creates, given⟩ := creation rfl commented
    cases creates with
    | cons head rest =>
        cases rest
        exact ⟨_, head, given⟩

/-- A column that is handed in ready made with a number for its validators, for examples. -/
def unlistedColumn : Column :=
  { labelColumn .string with validators := .int 5 }

/-- A table with that column, for examples. -/
def unlistedTags : Table :=
  ⟨.text "Tag", .text "tag", [unlistedColumn], none, none⟩

/-- A session in which that table was defined, for examples. -/
def unlistedSession : Session :=
  (Model.defineUnder .standard (.text "Tag") (.list [unlistedColumn.toValue]) .null .plain
    (.start [] (.recorder .fresh) ⟨0, 0⟩)).2

/-- A second declaration under a known name that is refused with another fault: the validators of
the registered column, which was handed in ready made, cannot be gone through. -/
theorem unsigned_not_already_defined :
    ¬ ∀ (name fields label : Value) (base : Base) (session : Session) (guard : Option Guard)
      (table : Table) (existing : Model), base.guard? session = .ok guard →
      (Table.build name fields .standard label).result = .ok table →
      session.model? table.model = some existing →
      existing.table.sameSignature table session.environment ≠ .ok true →
      (Model.defineUnder .standard name fields label base session).1 =
        .error (.declaration (.alreadyDefined table.modelLabel)) := by
  intro refused
  have fails : (Model.defineUnder .standard (.text "Tag") (tagFields .string) .null .plain
      unlistedSession).1 = .error (.operand (.notIterable "int")) := rfl
  have unsigned : unlistedTags.sameSignature tags unlistedSession.environment ≠ .ok true := by
    have fault : unlistedTags.sameSignature tags unlistedSession.environment =
        .error (.notIterable "int") := rfl
    rw [fault]
    intro same
    cases same
  have other := refused (.text "Tag") (tagFields .string) .null .plain unlistedSession none tags
    ⟨unlistedTags, none⟩ rfl rfl rfl unsigned
  rw [fails] at other
  cases other

end RowMapper
