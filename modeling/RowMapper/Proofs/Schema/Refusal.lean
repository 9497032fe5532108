import RowMapper.Proofs.Defining
import RowMapper.Proofs.Schema.DeclaredTable

/-!
# What declarations are refused with

A declaration that breaks a rule is refused, and registering answers with the refusal. Two values
of a declaration are gone through without a look at whether they can be: the fields of the model,
and the validators of a field that is described by a mapping. `Strays` is about results that are
faults of another kind than refusals. It is followed from the single field to the whole list, and
what is left in the end are just these two places.
-/

namespace RowMapper

/-- Whether a result is a fault that is no refused declaration. -/
def Strays {α : Type} (result : Except Fault α) (fault : Fault) : Prop :=
  result = .error fault ∧ fault.isRefusedDeclaration = false

section

variable {α β : Type} {fault : Fault}

theorem not_strays_ok (answer : α) : ¬ Strays (.ok answer) fault := by
  intro strays
  cases strays.1

theorem not_strays_refused (refused : DeclarationFault) :
    ¬ Strays (.error (.declaration refused) : Except Fault α) fault := by
  intro strays
  obtain ⟨same, other⟩ := strays
  cases same
  cases other

theorem not_strays_mapError (result : Except DeclarationFault α) :
    ¬ Strays (result.mapError .declaration) fault := by
  cases result with
  | ok answer => exact not_strays_ok answer
  | error refused => exact not_strays_refused refused

theorem strays_bind {first : Except Fault α} {second : α → Except Fault β} :
    Strays (first >>= second) fault ↔
      Strays first fault ∨ ∃ answer, first = .ok answer ∧ Strays (second answer) fault := by
  cases first with
  | ok answer =>
      change Strays (second answer) fault ↔ _
      simp [not_strays_ok]
  | error early =>
      change Strays (Except.error early) fault ↔ _
      simp [Strays]

/-- A step that never strays in front of another one. -/
theorem strays_bind_of_not {first : Except Fault α} {second : α → Except Fault β}
    (kept : ¬ Strays first fault) :
    Strays (first >>= second) fault ↔ ∃ answer, first = .ok answer ∧ Strays (second answer) fault :=
  strays_bind.trans (or_iff_right kept)

/-- A step in front of one that never strays. -/
theorem strays_bind_of_quiet {first : Except Fault α} {second : α → Except Fault β}
    (kept : ∀ answer, ¬ Strays (second answer) fault) :
    Strays (first >>= second) fault ↔ Strays first fault := by
  rw [strays_bind]
  constructor
  · intro strays
    cases strays with
    | inl early => exact early
    | inr later =>
        obtain ⟨answer, _, late⟩ := later
        exact absurd late (kept answer)
  · exact Or.inl

end

theorem Value.strays_items {v : Value} {fault : Fault} :
    Strays (v.items.mapError Fault.operand) fault ↔ v.HasNoItems fault := by
  rw [items, HasNoItems]
  cases v.items? with
  | some items => simp [Except.mapError, not_strays_ok]
  | none =>
      change Strays (Except.error (.operand _)) fault ↔ _
      simp only [Strays, Except.error.injEq, true_and]
      constructor
      · intro strays
        exact strays.1.symm
      · intro same
        rw [same]
        exact ⟨rfl, rfl⟩

/-! ## One field -/

namespace Column

/-- Whether a field is described by a mapping that has a valid name and type and that gives a value
for its validators. -/
def GivesValidators (declaration validators : Value) : Prop :=
  ∃ entries parts head, declaration = .dict entries ∧
    DeclaredParts.ofEntries ((Entries.find? entries (.text "name")).getD .null) [] entries =
      .ok parts ∧
    declaredHead parts = .ok head ∧ parts.find? .validators = some validators

/-- Whether the validators of a field can neither be called nor be gone through, with the fault that
this ends with. -/
def HasBadValidators (declaration : Value) (fault : Fault) : Prop :=
  ∃ validators, GivesValidators declaration validators ∧ validators.isCallable = false ∧
    validators.HasNoItems fault

variable {fault : Fault}

theorem strays_declaredValidators {name : Name} {v : Value} :
    Strays (declaredValidators name v) fault ↔ v.isCallable = false ∧ v.HasNoItems fault := by
  have checked : ∀ validators : List Value,
      ¬ Strays (if validators.all Value.isCallable then pure (Value.tuple validators)
        else throw (Fault.declaration (.badValidators name)) : Except Fault Value) fault := by
    intro validators
    split
    · exact not_strays_ok _
    · exact not_strays_refused _
  rw [declaredValidators]
  cases callable : v.isCallable with
  | true => exact iff_of_false (checked [v]) (by simp)
  | false =>
      simp only [Bool.false_eq_true, if_false, true_and]
      rw [strays_bind_of_quiet checked]
      exact v.strays_items

theorem strays_ofParts {parts : DeclaredParts} :
    Strays (ofParts parts) fault ↔
      ∃ head, declaredHead parts = .ok head ∧ ∃ validators,
        parts.find? .validators = some validators ∧ validators.isCallable = false ∧
          validators.HasNoItems fault := by
  change Strays ((declaredHead parts).mapError Fault.declaration >>= fun head =>
    declaredValidators head.1 ((parts.find? .validators).getD (.tuple [])) >>= fun validators =>
      pure (withParts head.1 head.2 validators parts)) fault ↔ _
  rw [strays_bind_of_not (not_strays_mapError _)]
  apply exists_congr
  intro head
  have finished : ∀ validators,
      ¬ Strays (pure (withParts head.1 head.2 validators parts)) fault :=
    fun _ => not_strays_ok _
  rw [strays_bind_of_quiet finished, strays_declaredValidators]
  apply and_congr
  · constructor
    · exact Except.eq_ok_of_mapError
    · intro found
      rw [found]
      rfl
  · cases parts.find? .validators with
    | none => simp [Value.HasNoItems, Value.items?]
    | some validators => simp

/-- Reading a field strays just over validators that cannot be gone through. A column that is handed
in ready made keeps the validators that it has. -/
theorem strays_ofValue {declaration : Value} :
    Strays (ofValue declaration) fault ↔ HasBadValidators declaration fault := by
  have others (notMapping : ∀ entries, declaration ≠ .dict entries) :
      ¬ HasBadValidators declaration fault := by
    intro bad
    obtain ⟨_, ⟨entries, _, _, mapping, _⟩, _⟩ := bad
    exact notMapping entries mapping
  simp only [ofValue]
  split
  next entries =>
    change Strays ((DeclaredParts.ofEntries _ [] entries).mapError Fault.declaration >>=
      ofParts) fault ↔ _
    rw [strays_bind_of_not (not_strays_mapError _)]
    constructor
    · intro strays
      obtain ⟨parts, read, strays⟩ := strays
      obtain ⟨head, named, validators, given, bad⟩ := strays_ofParts.mp strays
      exact ⟨validators,
        ⟨entries, parts, head, rfl, Except.eq_ok_of_mapError read, named, given⟩, bad⟩
    · intro bad
      obtain ⟨validators, ⟨_, parts, head, mapping, read, named, given⟩, bad⟩ := bad
      cases mapping
      refine ⟨parts, by rw [read]; rfl, ?_⟩
      exact strays_ofParts.mpr ⟨head, named, validators, given, bad⟩
  next =>
    refine iff_of_false ?_ (others (by simp))
    split
    · exact not_strays_mapError _
    · exact not_strays_refused _
  next notMapping _ => exact iff_of_false (not_strays_refused _) (others notMapping)

end Column

/-! ## A list of fields -/

namespace TableDraft

variable {fault : Fault} {model : Name}

/-- The rules of this library have a verdict on every column. -/
theorem not_strays_checkCode (column : Column) :
    ¬ Strays (checkCode model column (StorageCheck.standard column)) fault := by
  rw [checkCode, StorageCheck.standard]
  cases column.verdict with
  | ok => exact not_strays_ok ()
  | _ => exact not_strays_refused _

theorem strays_add {draft : TableDraft} {declaration : Value} :
    Strays (draft.add model .standard declaration) fault ↔
      Column.HasBadValidators declaration fault := by
  rw [add, strays_bind_of_quiet, Column.strays_ofValue]
  intro column
  rw [addColumn]
  split
  · exact not_strays_refused _
  · change ¬ Strays (checkCode model column (StorageCheck.standard column) >>= fun _ =>
      (draft.nextKey model column).mapError Fault.declaration >>= fun key => pure _) fault
    rw [strays_bind_of_not (not_strays_checkCode column)]
    intro strays
    obtain ⟨_, _, strays⟩ := strays
    rw [strays_bind_of_not (not_strays_mapError _)] at strays
    obtain ⟨key, _, strays⟩ := strays
    exact not_strays_ok _ strays

/-- The fault that fields end with is that of the first refused one. -/
theorem addAll_eq_some {check : StorageCheck} {draft : TableDraft} {fields : List Value} :
    (draft.addAll model check fields).2 = some fault ↔
      ∃ done declaration rest, fields = done ++ declaration :: rest ∧
        (draft.addAll model check done).2 = none ∧
        (draft.addAll model check done).1.add model check declaration = .error fault := by
  induction fields generalizing draft with
  | nil => simp [addAll]
  | cons first others ih =>
      rw [addAll]
      cases added : draft.add model check first with
      | error early =>
          constructor
          · intro same
            cases same
            exact ⟨[], first, others, rfl, rfl, added⟩
          · intro refused
            obtain ⟨done, declaration, rest, split, accepted, failed⟩ := refused
            cases done with
            | nil =>
                cases split
                rw [addAll, added] at failed
                cases failed
                rfl
            | cons head tail =>
                cases split
                rw [addAll, added] at accepted
                cases accepted
      | ok next =>
          dsimp only
          rw [ih]
          constructor
          · intro refused
            obtain ⟨done, declaration, rest, split, accepted, failed⟩ := refused
            refine ⟨first :: done, declaration, rest, by rw [split]; rfl, ?_, ?_⟩
            · rw [addAll, added]
              exact accepted
            · rw [addAll, added]
              exact failed
          · intro refused
            obtain ⟨done, declaration, rest, split, accepted, failed⟩ := refused
            cases done with
            | nil =>
                cases split
                rw [addAll, added] at failed
                cases failed
            | cons head tail =>
                cases split
                rw [addAll, added] at accepted failed
                exact ⟨tail, declaration, rest, rfl, accepted, failed⟩

end TableDraft

/-! ## A whole model -/

namespace Table

variable {fault : Fault}

/-- Whether the first refused field among some is refused for its validators, which cannot be gone
through. -/
def StopsAtValidators (model : Name) (fields : List Value) (fault : Fault) : Prop :=
  ∃ done declaration rest, fields = done ++ declaration :: rest ∧
    (TableDraft.empty.addAll model .standard done).2 = none ∧
    Column.HasBadValidators declaration fault

/-- Whether a model is declared under valid names with fields that cannot be gone through, or with a
field whose validators cannot, where every field before that one is accepted. -/
def StopsAtItems (name fields label : Value) (fault : Fault) : Prop :=
  ∃ model tableLabel, checkNames name label = .ok (model, tableLabel) ∧
    ((fields.isNull = false ∧ fields.HasNoItems fault) ∨
      ∃ items, declarations model fields = .ok items ∧ StopsAtValidators model items fault)

theorem strays_declarations {model : Name} {fields : Value} :
    Strays (declarations model fields) fault ↔ fields.isNull = false ∧ fields.HasNoItems fault := by
  simp only [declarations]
  split
  case h_6 notNull _ _ _ _ =>
    have present : fields.isNull = false := by
      cases fields with
      | null => exact absurd rfl notNull
      | _ => rfl
    rw [← Value.strays_items]
    split
    next failed => simp [failed, Except.mapError, present]
    next empty => simp [empty, Except.mapError, not_strays_ok, not_strays_refused]
    next found => simp [found, Except.mapError, not_strays_ok]
  all_goals
    refine iff_of_false (not_strays_refused _) ?_
    simp [Value.isNull, Value.HasNoItems, Value.items?]

theorem strays_ofDeclarations {model label : Name} {fields : List Value} :
    Strays (ofDeclarations model label .standard fields).result fault ↔
      StopsAtValidators model fields fault := by
  have ends : Strays (ofDeclarations model label .standard fields).result fault ↔
      (TableDraft.empty.addAll model .standard fields).2 = some fault ∧
        fault.isRefusedDeclaration = false := by
    simp only [ofDeclarations]
    cases (TableDraft.empty.addAll model .standard fields).2 with
    | none => simp [not_strays_ok]
    | some first => simp [Strays]
  rw [ends, TableDraft.addAll_eq_some, StopsAtValidators]
  constructor
  · intro refused
    obtain ⟨⟨done, declaration, rest, split, accepted, failed⟩, other⟩ := refused
    exact ⟨done, declaration, rest, split, accepted, TableDraft.strays_add.mp ⟨failed, other⟩⟩
  · intro stops
    obtain ⟨done, declaration, rest, split, accepted, bad⟩ := stops
    obtain ⟨failed, other⟩ := TableDraft.strays_add.mpr bad
    exact ⟨⟨done, declaration, rest, split, accepted, failed⟩, other⟩

/-- Building a table strays just where it stops over items. -/
theorem strays_build {name fields label : Value} :
    Strays (build name fields .standard label).result fault ↔
      StopsAtItems name fields label fault := by
  rw [build]
  cases named : checkNames name label with
  | error refused =>
      refine iff_of_false (not_strays_refused _) ?_
      intro stops
      obtain ⟨_, _, accepted, _⟩ := stops
      rw [named] at accepted
      cases accepted
  | ok names =>
      obtain ⟨model, tableLabel⟩ := names
      dsimp only
      have stops : StopsAtItems name fields label fault ↔
          (fields.isNull = false ∧ fields.HasNoItems fault) ∨
            ∃ items, declarations model fields = .ok items ∧
              StopsAtValidators model items fault := by
        constructor
        · intro stops
          obtain ⟨_, _, accepted, either⟩ := stops
          rw [named] at accepted
          cases accepted
          exact either
        · intro either
          exact ⟨model, tableLabel, named, either⟩
      have collected : Strays (declarations model fields) fault ↔
          fields.isNull = false ∧ fields.HasNoItems fault := strays_declarations
      rw [stops]
      cases declared : declarations model fields with
      | error failed =>
          rw [declared] at collected
          rw [← collected]
          simp [Strays]
      | ok items =>
          rw [declared] at collected
          rw [or_iff_right (collected.not.mp (not_strays_ok items))]
          simp [strays_ofDeclarations]

/-- A model's declaration is accepted, or refused as a declaration, unless its fields cannot be gone
through, or the first refused field has validators that cannot: then it ends with the fault of
going through that value. Registering a model answers with each refusal, and passes on the fault in
the other case. -/
theorem refused_unless_stopsAtItems (name fields label : Value) :
    (((∃ table, (build name fields .standard label).result = .ok table) ∨
        ∃ refused, (build name fields .standard label).result = .error (.declaration refused)) ↔
      ∀ fault, ¬ StopsAtItems name fields label fault) ∧
    (∀ fault, StopsAtItems name fields label fault →
      (build name fields .standard label).result = .error fault) ∧
    ∀ base session guard, Base.guard? base session = .ok guard →
      (∀ refused, (build name fields .standard label).result = .error (.declaration refused) →
        (Model.register name fields label base session).1 = .ok (.rejected refused)) ∧
      ∀ fault, StopsAtItems name fields label fault →
        (Model.register name fields label base session).1 = .error fault := by
  have fails : ∀ fault, StopsAtItems name fields label fault →
      (build name fields .standard label).result = .error fault :=
    fun fault stops => (strays_build.mpr stops).1
  refine ⟨?_, fails, ?_⟩
  · simp only [← strays_build]
    cases (build name fields .standard label).result with
    | ok table => simp [not_strays_ok]
    | error fault =>
        cases fault with
        | declaration refused => simp [not_strays_refused]
        | _ => simp [Strays, Fault.isRefusedDeclaration]
  · intro base session guard allowed
    constructor
    · intro refused failed
      exact Model.registerUnder_of_refused (Model.defineUnder_of_failed allowed failed)
    · intro fault stops
      exact Model.registerUnder_of_other (Model.defineUnder_of_failed allowed (fails fault stops))
        (strays_build.mpr stops).2

end Table

/-- The declaration of a text field, for examples. -/
def bodyField : Value :=
  .dict [(.text "name", .text "body"), (.text "type", .text "text")]

/-- The declaration of a text field with nothing for its validators, for examples. -/
def unvalidatedField : Value :=
  .dict [(.text "name", .text "body"), (.text "type", .text "text"),
    (.text "validators", .null)]

/-- A session in which nothing has been defined, for examples. -/
def freshSession : Session :=
  .start [] (.recorder .fresh) ⟨0, 0⟩

/-- Notes are accepted, a second field of the same name is refused, and without anything for the
validators registering ends with the fault of going through that. -/
theorem refused_unless_stopsAtItems_notes :
    (∀ fault, ¬ Table.StopsAtItems (.text "Note") (.list [bodyField]) .null fault) ∧
      (Model.register (.text "Note") (.list [bodyField, bodyField]) .null .plain freshSession).1 =
        .ok (.rejected (.duplicateField (.text "body") (.text "Note"))) ∧
      (Model.register (.text "Note") (.list [unvalidatedField]) .null .plain freshSession).1 =
        .error (.operand (.notIterable "NoneType")) := by
  have stops : Table.StopsAtItems (.text "Note") (.list [unvalidatedField]) .null
      (.operand (.notIterable "NoneType")) :=
    Table.strays_build.mp ⟨rfl, rfl⟩
  obtain ⟨accepted, _, _⟩ :=
    Table.refused_unless_stopsAtItems (.text "Note") (.list [bodyField]) .null
  obtain ⟨_, _, twice⟩ :=
    Table.refused_unless_stopsAtItems (.text "Note") (.list [bodyField, bodyField]) .null
  obtain ⟨_, _, unvalidated⟩ :=
    Table.refused_unless_stopsAtItems (.text "Note") (.list [unvalidatedField]) .null
  exact ⟨accepted.mp (.inl ⟨_, rfl⟩), (twice .plain freshSession none rfl).1 _ rfl,
    (unvalidated .plain freshSession none rfl).2 _ stops⟩

/-- A malformed field whose declaration is not refused as one: its validators are gone through
before they are looked at. -/
theorem unvalidated_not_refused :
    ¬ ∀ name fields label,
      (∃ table, (Table.build name fields .standard label).result = .ok table) ∨
        ∃ refused, (Table.build name fields .standard label).result =
          .error (.declaration refused) := by
  intro reported
  have fails : (Table.build (.text "Note") (.list [unvalidatedField]) .standard .null).result =
      .error (.operand (.notIterable "NoneType")) := rfl
  cases reported (.text "Note") (.list [unvalidatedField]) .null with
  | inl accepted =>
      obtain ⟨table, accepted⟩ := accepted
      rw [fails] at accepted
      cases accepted
  | inr refused =>
      obtain ⟨refused, given⟩ := refused
      rw [fails] at given
      cases given

end RowMapper
