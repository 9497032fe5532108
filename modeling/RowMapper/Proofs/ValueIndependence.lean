import Mathlib.Data.List.Forall2
import RowMapper.Proofs.Assignments
import RowMapper.Proofs.TableSafety
import RowMapper.Proofs.TwoRuns

/-!
# Values stay out of statements and reports

Which statement an operation sends and what it reports depend on the shape of its condition and on
the keys of its values, and on no value. Conditions of one shape compile to predicates that are the
same with their values masked, these give statements that are the same with their values masked,
and then two runs of an operation cannot be told apart but by the parameters in its calls.
-/

namespace RowMapper

/-! ## Predicates and statements with masked values -/

/-- The fragment with its values masked. -/
def Fragment.masked (fragment : Fragment) : Fragment :=
  { fragment with parameters := maskValues fragment.parameters }

/-- The predicate with its values masked. -/
def Predicate.masked (predicate : Predicate) : Predicate :=
  ⟨predicate.fragments.map Fragment.masked⟩

/-- The statement with its values masked. -/
def Statement.masked (statement : Statement) : Statement :=
  { statement with parameters := maskValues statement.parameters }

/-- Entries with null for the value of each. -/
def Entries.masked (entries : Entries) : Entries :=
  entries.map fun entry => (entry.1, .null)

namespace Entries

@[simp] theorem keys_masked (entries : Entries) : entries.masked.keys = entries.keys := by
  simp [masked, keys]

@[simp] theorem values_masked (entries : Entries) :
    entries.masked.values = maskValues entries.values := by
  simp [masked, values, maskValues]

@[simp] theorem isEmpty_masked (entries : Entries) : entries.masked.isEmpty = entries.isEmpty :=
  List.isEmpty_map

/-- Masked entries have their keys and nothing else. -/
theorem masked_eq_iff {entries others : Entries} :
    entries.masked = others.masked ↔ entries.keys = others.keys := by
  constructor
  · intro same
    rw [← keys_masked, same, keys_masked]
  · intro same
    have ofKeys (entries : Entries) :
        entries.masked = entries.keys.map fun key => (key, .null) := by
      simp [masked, keys]
    rw [ofKeys, ofKeys, same]

end Entries

namespace Predicate

@[simp] theorem isEmpty_masked (predicate : Predicate) :
    predicate.masked.isEmpty = predicate.isEmpty := by
  simp [masked, isEmpty]

@[simp] theorem whereClause_masked (predicate : Predicate) :
    predicate.masked.whereClause = predicate.whereClause := by
  have texts : predicate.masked.fragments.map (·.text) = predicate.fragments.map (·.text) := by
    simp [masked, Fragment.masked, Function.comp_def]
  rw [whereClause, whereClause, isEmpty_masked, texts]

@[simp] theorem parameters_masked (predicate : Predicate) :
    predicate.masked.parameters = maskValues predicate.parameters := by
  simp [parameters, masked, maskValues, Fragment.masked, List.flatMap_map, List.map_flatMap]

end Predicate

namespace Statement

/-- Statements that are the same with their values masked have one text and as many parameters. -/
theorem of_masked_eq {statement other : Statement} (same : statement.masked = other.masked) :
    statement.sql = other.sql ∧ statement.parameters.length = other.parameters.length := by
  simp only [masked, mk.injEq] at same
  exact ⟨same.1, maskValues_eq_iff.mp same.2.1⟩

theorem select_masked (table : Table) (predicate : Predicate) (options : ReadOptions) :
    select table predicate.masked options = (select table predicate options).map masked := by
  simp only [select, readSql, Predicate.whereClause_masked, Predicate.parameters_masked]
  cases projection options.fields with
  | error fault => rfl
  | ok columns => cases orderClause options.orderBy <;> rfl

theorem count_masked (table : Table) (predicate : Predicate) (options : ReadOptions) :
    count table predicate.masked options = (count table predicate options).map masked := by
  simp only [count, readSql, Predicate.whereClause_masked, Predicate.parameters_masked]
  cases orderClause options.orderBy <;> rfl

theorem delete_masked (table : Table) (predicate : Predicate) :
    delete table predicate.masked = (delete table predicate).map masked := by
  simp only [delete, Predicate.isEmpty_masked, Predicate.whereClause_masked,
    Predicate.parameters_masked]
  split <;> rfl

theorem update_masked (table : Table) (assignments : Entries) (predicate : Predicate) :
    update table assignments.masked predicate.masked =
      (update table assignments predicate).map masked := by
  simp only [update, updateSql, Entries.keys_masked, Entries.values_masked,
    Entries.isEmpty_masked, Predicate.isEmpty_masked, Predicate.whereClause_masked,
    Predicate.parameters_masked]
  cases predicate.isEmpty with
  | true => rfl
  | false =>
      cases assignments.isEmpty with
      | true => rfl
      | false =>
          cases quotedNames assignments.keys with
          | error fault => rfl
          | ok names =>
              simp only [maskValues, ← List.map_append]
              rfl

end Statement

/-! ## Conditions of one shape -/

/-- Whether two values are sequences of one length or both no sequences. -/
def Value.SequencesAlike (v w : Value) : Prop :=
  (∃ items others, v.sequence? = some items ∧ w.sequence? = some others ∧
      items.length = others.length) ∨
    (v.sequence? = none ∧ w.sequence? = none)

namespace Condition

/-- Whether two conditions have one shape: both compare the key with a value, or with as many
values, or they are about the same fields in the same order, each of them with as many values. -/
inductive SameShape : Condition → Condition → Prop
  | scalar (v w : Value) : SameShape (.scalar v) (.scalar w)
  | inSet {items others : List Value} (count : items.length = others.length) :
      SameShape (.inSet items) (.inSet others)
  | fieldMap {entries others : Entries}
      (alike : List.Forall₂ (fun entry other => entry.1 = other.1 ∧
        entry.2.SequencesAlike other.2) entries others) :
      SameShape (.fieldMap (.dict entries)) (.fieldMap (.dict others))

theorem memberOf_masked (column : String) {items others : List Value}
    (count : items.length = others.length) :
    (Fragment.memberOf column items).masked = (Fragment.memberOf column others).masked := by
  have empty : items.isEmpty = others.isEmpty := by
    rw [Bool.eq_iff_iff, List.isEmpty_iff_length_eq_zero, List.isEmpty_iff_length_eq_zero, count]
  have marks : items.map (fun _ => "?") = others.map (fun _ => "?") := by
    rw [List.map_const', List.map_const', count]
  simp only [Fragment.memberOf, empty, marks]
  split
  · rfl
  · simp only [Fragment.masked, maskValues_eq_iff.mpr count]

theorem sequencesAlike_conditionValue (type : FieldType) {v w : Value}
    (alike : v.SequencesAlike w) :
    (type.conditionValue v).SequencesAlike (type.conditionValue w) := by
  cases type with
  | boolean =>
      rcases alike with ⟨items, others, sequence, sequence', count⟩ | ⟨plain, plain'⟩
      · left
        simp only [FieldType.conditionValue, sequence, sequence']
        exact ⟨_, _, rfl, rfl, by simp [count]⟩
      · right
        simp only [FieldType.conditionValue, plain, plain']
        exact ⟨rfl, rfl⟩
  | _ => exact alike

/-- The fragments for one field with values that are alike are the same but for the values. -/
theorem fieldFragment_masked (column : Column) {v w : Value} (alike : v.SequencesAlike w) :
    (fieldFragment column v).masked = (fieldFragment column w).masked := by
  rcases sequencesAlike_conditionValue column.type alike with
    ⟨items, others, sequence, sequence', count⟩ | ⟨plain, plain'⟩
  · simp only [fieldFragment, sequence, sequence']
    exact memberOf_masked column.name count
  · simp only [fieldFragment, plain, plain']
    rfl

section

variable {entries others : Entries}
  (alike : List.Forall₂ (fun entry other => entry.1 = other.1 ∧
    entry.2.SequencesAlike other.2) entries others)

include alike

theorem fieldFragments_masked (table : Table) :
    (fieldFragments table entries).map Fragment.masked =
      (fieldFragments table others).map Fragment.masked := by
  induction alike with
  | nil => rfl
  | @cons entry other rest rest' first _ ih =>
      obtain ⟨key, v⟩ := entry
      obtain ⟨key', w⟩ := other
      obtain ⟨rfl, values⟩ := first
      simp only [fieldFragments]
      split
      next column _ => rw [List.map_cons, List.map_cons, fieldFragment_masked column values, ih]
      next => exact ih

theorem fieldEvents_eq (table : Table) : fieldEvents table entries = fieldEvents table others := by
  induction alike with
  | nil => rfl
  | @cons entry other rest rest' first _ ih =>
      obtain ⟨key, v⟩ := entry
      obtain ⟨key', w⟩ := other
      obtain ⟨rfl, _⟩ := first
      simp only [fieldEvents, ih]

end

/-- Conditions of one shape compile alike: with the same reports to the same predicate but for its
values, or to the same fault. -/
theorem SameShape.compile {condition other : Condition} (shape : condition.SameShape other)
    (table : Table) :
    RunsAlike id
      (fun report another => report.events = another.events ∧
        EndsAlike (fun predicate another => predicate.masked = another.masked) report.result
          another.result)
      (Condition.compile table (some condition)) (Condition.compile table (some other)) := by
  have byKey {fragment fragment' : String → Fragment}
      (same : ∀ name, (fragment name).masked = (fragment' name).masked) :
      EndsAlike (fun predicate another => predicate.masked = another.masked)
        ((requirePrimaryKey table).map fun name => (⟨[fragment name]⟩ : Predicate))
        ((requirePrimaryKey table).map fun name => (⟨[fragment' name]⟩ : Predicate)) := by
    cases requirePrimaryKey table with
    | error fault => exact .error fault
    | ok name => exact .ok (by simp [Predicate.masked, same name])
  cases shape with
  | scalar v w => exact RunsAlike.pure ⟨rfl, byKey fun _ => rfl⟩
  | inSet count => exact RunsAlike.pure ⟨rfl, byKey fun name => memberOf_masked name count⟩
  | fieldMap alike =>
      refine RunsAlike.pure ⟨fieldEvents_eq alike table, .ok ?_⟩
      exact congrArg Predicate.mk (fieldFragments_masked alike table)

end Condition

/-! ## Assignments with the same keys -/

namespace Entries

theorem isEmpty_congr {entries others : Entries} (same : entries.keys = others.keys) :
    entries.isEmpty = others.isEmpty := by
  rw [← isEmpty_masked, masked_eq_iff.mpr same, isEmpty_masked]

theorem has_congr {entries others : Entries} (same : entries.keys = others.keys) (key : Value) :
    entries.has key = others.has key := by
  have byKeys (entries : Entries) : entries.has key = entries.keys.any (·.sameItem key) := by
    simp [has, keys, Function.comp_def]
  rw [byKeys, byKeys, same]

end Entries

namespace Table

theorem keys_assignments (table : Table) (entries : Entries) :
    (table.assignments entries).keys = entries.keys.filter fun key =>
      !(table.isPrimaryKeyName key || (table.columnAt? key).isNone) := by
  induction entries with
  | nil => rfl
  | cons entry rest ih =>
      obtain ⟨key, v⟩ := entry
      simp only [assignments, Entries.keys, List.map_cons, List.filter_cons] at ih ⊢
      by_cases dropped : (table.isPrimaryKeyName key || (table.columnAt? key).isNone) = true
      · simp [dropped, ih]
      · simp [dropped, ih]

theorem assignmentEvents_eq (table : Table) (entries : Entries) :
    table.assignmentEvents entries =
      (entries.keys.filter fun key =>
        !(table.isPrimaryKeyName key || (table.columnAt? key).isSome)).map
          (.updateKeyIgnored table.modelLabel) := by
  induction entries with
  | nil => rfl
  | cons entry rest ih =>
      obtain ⟨key, v⟩ := entry
      simp only [assignmentEvents, Entries.keys, List.map_cons, List.filter_cons] at ih ⊢
      by_cases known : (table.isPrimaryKeyName key || (table.columnAt? key).isSome) = true
      · simp [known, ih]
      · simp [known, ih]

/-- The first entry is converted by itself, whatever comes behind it. -/
theorem exists_toStorage_cons (table : Table) (key v : Value) :
    ∃ head : Except ValueFault Value, ∀ rest, table.toStorage ((key, v) :: rest) =
      head.bind fun first => (table.toStorage rest).map ((key, first) :: ·) := by
  cases found : table.columnAt? key with
  | none =>
      refine ⟨.ok v, fun rest => ?_⟩
      simp only [toStorage, found]
      rfl
  | some column =>
      refine ⟨column.toStorage v, fun rest => ?_⟩
      simp only [toStorage, found]
      rfl

/-- Assignments are converted one after the other. -/
theorem toStorage_append (table : Table) (front back : Entries) :
    table.toStorage (front ++ back) =
      (table.toStorage front).bind fun first => (table.toStorage back).map (first ++ ·) := by
  induction front with
  | nil =>
      rw [List.nil_append]
      cases table.toStorage back with
      | error fault => rfl
      | ok last => rfl
  | cons entry rest ih =>
      obtain ⟨key, v⟩ := entry
      obtain ⟨head, opened⟩ := table.exists_toStorage_cons key v
      rw [List.cons_append, opened, opened, ih]
      cases head with
      | error fault => rfl
      | ok value =>
          cases table.toStorage rest with
          | error fault => rfl
          | ok others =>
              cases table.toStorage back with
              | error fault => rfl
              | ok last => rfl

/-- Whether assignments have the same keys and are converted alike. -/
def AssignsAlike (table : Table) (assignments others : Entries) : Prop :=
  assignments.keys = others.keys ∧
    EndsAlike (fun stored another => stored.keys = another.keys) (table.toStorage assignments)
      (table.toStorage others)

section

variable {table : Table} {assignments others stored another : Entries}
  (same : assignments.keys = others.keys)
  (converts : table.toStorage assignments = .ok stored)
  (converts' : table.toStorage others = .ok another)

include same converts converts'

theorem assignsAlike_append (more : Entries) :
    table.AssignsAlike (assignments ++ more) (others ++ more) := by
  have keys : stored.keys = another.keys := by
    rw [keys_toStorage converts, keys_toStorage converts', same]
  refine ⟨by simp only [Entries.keys, List.map_append] at same ⊢; rw [same], ?_⟩
  rw [toStorage_append, toStorage_append, converts, converts']
  cases table.toStorage more with
  | error fault => exact .error fault
  | ok last =>
      refine .ok ?_
      simp only [Entries.keys, List.map_append] at keys ⊢
      rw [keys]

/-- Assignments with the same keys get the same time, if they get one. -/
theorem alike_stamp :
    RunsAlike id
      (fun stamped another => stamped.1 = another.1 ∧ table.AssignsAlike stamped.2 another.2)
      (table.stamp assignments) (table.stamp others) := by
  have asGiven : table.AssignsAlike assignments others := by
    simpa using assignsAlike_append same converts converts' []
  simp only [stamp]
  cases table.autoUpdate with
  | none => exact .pure ⟨rfl, asGiven⟩
  | some column =>
      dsimp only
      rw [Entries.has_congr same]
      split
      next => exact .pure ⟨rfl, asGiven⟩
      next absent =>
        have notSet : ¬ others.Sets column.name :=
          fun sets => absent ((Entries.has_eq_true rfl).mpr sets)
        have notSet' : ¬ assignments.Sets column.name :=
          fun sets => notSet ((Entries.sets_congr same column.name).mp sets)
        -- The default may read the clock or call a routine, and it does so once in each run.
        apply (RunsAlike.refl column.resolveDefault).bind
        rintro time _ rfl
        rw [Entries.insert_of_not_sets time column.label.text?_toValue notSet,
          Entries.insert_of_not_sets time column.label.text?_toValue notSet']
        exact .pure ⟨rfl, assignsAlike_append same converts converts' _⟩

end

end Table

/-! ## Operations -/

namespace Action

variable {statement other : Statement}

theorem alike_executeStatement (same : statement.masked = other.masked) :
    Alike (· = ·) (executeStatement statement) (executeStatement other) := by
  obtain ⟨sql, count⟩ := Statement.of_masked_eq same
  rw [executeStatement, executeStatement, sql]
  exact alike_execute other.sql count

theorem alike_queryStatement (same : statement.masked = other.masked) :
    Alike (· = ·) (queryStatement statement) (queryStatement other) := by
  obtain ⟨sql, count⟩ := Statement.of_masked_eq same
  rw [queryStatement, queryStatement, sql]
  exact alike_query other.sql count

/-- A statement that comes of a predicate by a rule which pays no regard to values. -/
theorem alike_statement {build : Predicate → Except Fault Statement}
    (masks : ∀ predicate, build predicate.masked = (build predicate).map Statement.masked)
    {predicate another : Predicate} (same : predicate.masked = another.masked) :
    Alike (fun statement other => statement.masked = other.masked) (ofResult (build predicate))
      (ofResult (build another)) := by
  apply alike_ofResult
  apply EndsAlike.of_map_eq
  rw [← masks, same, masks]

end Action

namespace Model

theorem alike_load (model : Model) (rows : List Value) :
    Action.Alike (· = ·) (model.load rows) (model.load rows) := by
  induction rows with
  | nil => exact .pure rfl
  | cons row rest ih =>
      have one : Action.Alike (· = ·) (Record.ofRow model row) (Record.ofRow model row) := by
        apply (Action.alike_ofOperand _).bind
        rintro entries _ rfl
        apply (Action.alike_ofOperand _).bind
        rintro given _ rfl
        apply Action.alike_get.bind
        intro session other same
        have inherited := congrArg Session.inherited same
        change session.inherited = other.inherited at inherited
        rw [inherited]
        exact Action.alike_inEnvironment (.refl _)
      apply one.bind
      rintro record _ rfl
      apply ih.bind
      rintro records _ rfl
      exact .pure rfl

section

variable (model : Model) {condition other : Value} {read readOther : Condition}
  (reads : Condition.ofValue? condition = some read)
  (readsOther : Condition.ofValue? other = some readOther) (shape : read.SameShape readOther)

include reads readsOther shape

theorem alike_predicate :
    Action.Alike (fun predicate another => predicate.masked = another.masked)
      (model.predicate condition) (model.predicate other) := by
  rw [predicate, predicate, reads, readsOther]
  exact Action.alike_ofEvaluation (shape.compile model.table)

theorem alike_find (options : Value) :
    Action.Alike (· = ·) (model.find condition options) (model.find other options) := by
  apply (Action.alike_ofResult (.refl _)).bind
  rintro options _ rfl
  apply (model.alike_predicate reads readsOther shape).bind
  intro predicate another same
  apply (Action.alike_statement (fun predicate => Statement.select_masked model.table predicate
    options) same).bind
  intro statement another same
  apply (Action.alike_queryStatement same).bind
  rintro rows _ rfl
  exact model.alike_load rows

theorem alike_count (options : Value) :
    Action.Alike (· = ·) (model.count condition options) (model.count other options) := by
  apply (Action.alike_ofResult (.refl _)).bind
  rintro options _ rfl
  apply (model.alike_predicate reads readsOther shape).bind
  intro predicate another same
  apply (Action.alike_statement (fun predicate => Statement.count_masked model.table predicate
    options) same).bind
  intro statement another same
  apply (Action.alike_queryStatement same).bind
  rintro rows _ rfl
  exact Action.alike_ofOperand _

theorem alike_removeWhere :
    Action.Alike (· = ·) (model.removeWhere condition) (model.removeWhere other) := by
  apply (model.alike_predicate reads readsOther shape).bind
  intro predicate another same
  apply (Action.alike_statement (Statement.delete_masked model.table) same).bind
  intro statement another same
  exact Action.alike_executeStatement same

end

theorem alike_updateStatement (model : Model) {predicate predicate' : Predicate}
    (masked : predicate.masked = predicate'.masked) {assignments assignments' : Entries}
    (alike : model.table.AssignsAlike assignments assignments') :
    EndsAlike (fun statement other => statement.masked = other.masked)
      (model.updateStatement assignments predicate)
      (model.updateStatement assignments' predicate') := by
  obtain ⟨_, conversions⟩ := alike
  rw [updateStatement, updateStatement]
  generalize model.table.toStorage assignments = stored at conversions ⊢
  generalize model.table.toStorage assignments' = stored' at conversions ⊢
  cases conversions with
  | error fault => exact .error _
  | @ok stored stored' keys =>
      have same := Statement.update_masked model.table stored predicate
      rw [Entries.masked_eq_iff.mpr keys, masked, Statement.update_masked] at same
      exact .of_map_eq same.symm

section

variable (model : Model) {entries others stored another : Entries}
  (same : entries.keys = others.keys)
  (converts : model.table.toStorage (model.table.assignments entries) = .ok stored)
  (converts' : model.table.toStorage (model.table.assignments others) = .ok another)

include same converts converts'

theorem alike_updateMatching {predicate predicate' : Predicate}
    (masked : predicate.masked = predicate'.masked) :
    Action.Alike (· = ·) (model.updateMatching predicate (.dict entries))
      (model.updateMatching predicate' (.dict others)) := by
  have assigned : (model.table.assignments entries).keys =
      (model.table.assignments others).keys := by
    rw [Table.keys_assignments, Table.keys_assignments, same]
  have events : model.table.assignmentEvents entries = model.table.assignmentEvents others := by
    rw [Table.assignmentEvents_eq, Table.assignmentEvents_eq, same]
  have walks : RunsAlike id
      (fun walk another => walk = .ofEntries entries ∧ another = .ofEntries others)
      (Value.dict entries).walkKeyed (Value.dict others).walkKeyed := RunsAlike.pure ⟨rfl, rfl⟩
  apply (Action.alike_inEnvironment walks).bind
  rintro _ _ ⟨rfl, rfl⟩
  change Action.Alike _ (Action.report (model.table.assignmentEvents entries) >>= _)
    (Action.report (model.table.assignmentEvents others) >>= _)
  rw [events]
  apply (Action.alike_report _).bind
  rintro _ _ _
  -- The values differ from here on, so what both runs take up is named and not equated.
  rw [EntryWalk.finish_ofEntries, EntryWalk.finish_ofEntries]
  have finished : Action.Alike (fun given another => given = entries ∧ another = others)
      (Action.ofOperand (.ok entries)) (Action.ofOperand (.ok others)) :=
    Action.alike_ofResult (.ok ⟨rfl, rfl⟩)
  apply finished.bind
  rintro _ _ ⟨rfl, rfl⟩
  apply (Action.alike_inEnvironment (Table.alike_stamp assigned converts converts')).bind
  rintro ⟨time, assignments⟩ ⟨_, assignments'⟩ ⟨rfl, alike⟩
  dsimp only
  rw [Entries.isEmpty_congr alike.1]
  split
  next => exact .pure rfl
  next =>
    apply (Action.alike_ofResult (model.alike_updateStatement masked alike)).bind
    intro statement other same
    apply (Action.alike_executeStatement same).bind
    rintro result _ rfl
    exact Action.alike_ofOperand _

end

/-- Whether two operations, run in any one session, cannot be told apart but by the parameters in
their calls: they answer the same or fail with the same fault, and afterwards the sessions are the
same with the values in their calls masked. -/
def SameButForValues {α : Type} (first second : Action α) : Prop :=
  ∀ session, (first session).1 = (second session).1 ∧
    (first session).2.masked = (second session).2.masked

theorem sameButForValues_of_alike {α : Type} {first second : Action α}
    (alike : Action.Alike (· = ·) first second) : SameButForValues first second := by
  intro session
  obtain ⟨ends, look⟩ := alike session session rfl
  exact ⟨EndsAlike.eq_iff.mp ends, look⟩

/-- Values never show in the text of a statement, in the count of its parameters or in what is
reported. Operations under conditions of one shape, and updates with values under the same keys that
can be converted, cannot be told apart but by their parameters, whatever the backend is. -/
theorem sameButForValues_of_sameShape (model : Model) {condition other : Value}
    {read readOther : Condition} (reads : Condition.ofValue? condition = some read)
    (readsOther : Condition.ofValue? other = some readOther) (shape : read.SameShape readOther) :
    (∀ options,
      SameButForValues (model.find condition options) (model.find other options)) ∧
    (∀ options,
      SameButForValues (model.count condition options) (model.count other options)) ∧
    SameButForValues (model.removeWhere condition) (model.removeWhere other) ∧
    ∀ entries others stored another : Entries, entries.keys = others.keys →
      model.table.toStorage (model.table.assignments entries) = .ok stored →
      model.table.toStorage (model.table.assignments others) = .ok another →
      SameButForValues (model.updateWhere condition (.dict entries))
        (model.updateWhere other (.dict others)) := by
  refine ⟨?_, ?_, ?_, ?_⟩
  · intro options
    exact sameButForValues_of_alike (model.alike_find reads readsOther shape options)
  · intro options
    exact sameButForValues_of_alike (model.alike_count reads readsOther shape options)
  · exact sameButForValues_of_alike (model.alike_removeWhere reads readsOther shape)
  · intro entries others stored another same converts converts'
    apply sameButForValues_of_alike
    apply (model.alike_predicate reads readsOther shape).bind
    intro predicate predicate' masked
    exact model.alike_updateMatching same converts converts' masked

end Model

/-- A condition on people and another one of its shape, for examples. -/
def activeAmong (active first second : Value) : Value :=
  .dict [(.text "active", active), (.text "id", .list [first, second])]

/-- The texts of two updates of people do not tell a number from what looks like a statement. -/
theorem sameButForValues_people :
    (person.updateWhere (activeAmong (.bool true) (.int 7) (.int 8))
        (.dict [(.text "active", .null)]) newSession).2.calls =
      [.execute "UPDATE `people` SET `active`=? WHERE `active`=? AND `id` IN (?,?)"
        [.null, .int 1, .int 7, .int 8]] ∧
    (person.updateWhere (activeAmong (.text "") (.text "`; --") .null)
        (.dict [(.text "active", .text "?")]) newSession).2.calls =
      [.execute "UPDATE `people` SET `active`=? WHERE `active`=? AND `id` IN (?,?)"
        [.int 1, .int 0, .text "`; --", .null]] ∧
    Model.SameButForValues
      (person.updateWhere (activeAmong (.bool true) (.int 7) (.int 8))
        (.dict [(.text "active", .null)]))
      (person.updateWhere (activeAmong (.text "") (.text "`; --") .null)
        (.dict [(.text "active", .text "?")])) := by
  refine ⟨rfl, rfl, ?_⟩
  have shape : Condition.SameShape
      (.fieldMap (activeAmong (.bool true) (.int 7) (.int 8)))
      (.fieldMap (activeAmong (.text "") (.text "`; --") .null)) :=
    .fieldMap (.cons ⟨rfl, .inr ⟨rfl, rfl⟩⟩
      (.cons ⟨rfl, .inl ⟨_, _, rfl, rfl, rfl⟩⟩ .nil))
  exact (person.sameButForValues_of_sameShape rfl rfl shape).2.2.2 _ _ _ _ rfl rfl rfl

end RowMapper
