import Mathlib.Data.List.Forall2
import RowMapper.Proofs.Assignments
import RowMapper.Proofs.Request

/-!
# Records from given values and from rows

A new record gets one attribute for each field, one after the other, so that a field keeps what it
was given when the later ones follow. That takes fields whose names differ and do not belong to the
machinery of records, which begins with an underscore. A record is loaded in the same way from what
its columns make of a row, and a query loads its rows in order.
-/

namespace RowMapper

/-- Whether a name is one that fields may have: it does not begin with an underscore. -/
def IsPublic (name : String) : Prop :=
  name.toList.head? ≠ some '_'

/-- Whether all columns of a table have such names. -/
def Table.HasPublicNames (table : Table) : Prop :=
  ∀ column ∈ table.columns, IsPublic column.name

instance (name : String) : Decidable (IsPublic name) :=
  inferInstanceAs (Decidable (name.toList.head? ≠ some '_'))

instance (table : Table) : Decidable table.HasPublicNames :=
  inferInstanceAs (Decidable (∀ column ∈ table.columns, IsPublic column.name))

namespace IsPublic

variable {name : String}

theorem ne_of_private (isPublic : IsPublic name) {other : String}
    (isPrivate : other.toList.head? = some '_') : name ≠ other := by
  intro same
  rw [← same] at isPrivate
  exact isPublic isPrivate

theorem ne_dictionary (isPublic : IsPublic name) : name ≠ "__dict__" :=
  isPublic.ne_of_private (by decide)

theorem ne_references (isPublic : IsPublic name) : name ≠ "__weakref__" :=
  isPublic.ne_of_private (by decide)

theorem ne_class (isPublic : IsPublic name) : name ≠ "__class__" :=
  isPublic.ne_of_private (by decide)

end IsPublic

namespace Record

variable {record made : Record} {given : Entries} {withDefaults : Bool}

/-- An attribute under a public name can always be set. -/
theorem assign_of_isPublic (record : Record) {label : Name} (isPublic : IsPublic label.toText)
    (v : Value) (source : Option Nat) :
    record.assign label v source = .ok (record.put label v source) := by
  simp only [assign, if_neg isPublic.ne_class, if_neg isPublic.ne_references,
    if_neg isPublic.ne_dictionary]

theorem value?_put_of_isPublic (record : Record) {label : Name} (isPublic : IsPublic label.toText)
    (v : Value) (source : Option Nat) :
    (record.put label v source).value? label.toText = some v :=
  record.value?_put_self label v source isPublic.ne_dictionary isPublic.ne_references

theorem get_of_assign_self {label : Name} {v : Value} {source : Option Nat}
    (isPublic : IsPublic label.toText) (assigned : record.assign label v source = .ok made) :
    made.get label.toText = .ok v := by
  rw [record.assign_of_isPublic isPublic] at assigned
  cases assigned
  exact get_eq_ok.mpr (record.value?_put_of_isPublic isPublic v source)

theorem get_of_assign_of_ne {label : Name} {v : Value} {source : Option Nat}
    (isPublic : IsPublic label.toText) (assigned : record.assign label v source = .ok made)
    {name : String} (different : name ≠ label.toText) (notDictionary : name ≠ "__dict__") :
    made.get name = record.get name := by
  rw [record.assign_of_isPublic isPublic] at assigned
  cases assigned
  rw [get, record.value?_put_of_ne v source different notDictionary]
  rfl

/-- Giving fields their starting values goes field by field. -/
theorem fillFields_cons_eq_ok {column : Column} {rest : List Column}
    {environment last : Environment}
    (filled : fillFields given withDefaults record (column :: rest) environment =
      (.ok made, last)) :
    ∃ start next later,
      initialAttribute column given withDefaults environment = (.ok start, later) ∧
      record.assign column.label start.value start.source = .ok next ∧
      fillFields given withDefaults next rest later = (.ok made, last) := by
  rw [fillFields] at filled
  obtain ⟨start, later, started, continued⟩ := bind_eq_ok filled
  obtain ⟨next, same, assigned, ended⟩ := bind_eq_ok continued
  have unchanged : later = same := congrArg Prod.snd assigned
  rw [← unchanged] at ended
  exact ⟨start, next, later, started, congrArg Prod.fst assigned, ended⟩

/-- A record that was given its starting values has for each field what the field starts with, and
what it had under other names. -/
theorem value?_of_fillFields {columns : List Column} (distinct : (columns.map (·.name)).Nodup)
    (isPublic : ∀ column ∈ columns, IsPublic column.name) {environment last : Environment}
    (filled : fillFields given withDefaults record columns environment = (.ok made, last)) :
    (∀ column ∈ columns, ∃ start before after,
      initialAttribute column given withDefaults before = (.ok start, after) ∧
        made.value? column.name = some start.value) ∧
    ∀ name, name ≠ "__dict__" → name ∉ columns.map (·.name) →
      made.value? name = record.value? name := by
  induction columns generalizing record environment with
  | nil =>
      cases filled
      constructor
      · intro column member
        cases member
      · intro name _ _
        rfl
  | cons column rest ih =>
      rw [List.map_cons, List.nodup_cons] at distinct
      have firstIsPublic := isPublic column List.mem_cons_self
      obtain ⟨start, next, later, started, assigned, continued⟩ := fillFields_cons_eq_ok filled
      rw [record.assign_of_isPublic firstIsPublic] at assigned
      cases assigned
      obtain ⟨others, untouched⟩ := ih distinct.2
        (fun other member => isPublic other (List.mem_cons_of_mem column member)) continued
      constructor
      · intro other member
        rcases List.mem_cons.mp member with rfl | inRest
        · refine ⟨start, environment, later, started, ?_⟩
          rw [untouched other.name firstIsPublic.ne_dictionary distinct.1]
          exact record.value?_put_of_isPublic firstIsPublic start.value start.source
        · exact others other inRest
      · intro name notDictionary fresh
        rw [List.map_cons, List.mem_cons, not_or] at fresh
        rw [untouched name notDictionary fresh.2]
        exact record.value?_put_of_ne start.value start.source fresh.1 notDictionary

/-- Without defaults a field starts with what was given for it, or unset. -/
theorem initialAttribute_without_defaults (column : Column) (given : Entries)
    (environment : Environment) :
    initialAttribute column given false environment =
      (.ok ⟨(given.find? (.text column.name)).getD .unset, none⟩, environment) := by
  rw [initialAttribute]
  cases given.find? (.text column.name) with
  | none => rfl
  | some v => rfl

/-- Fields with public names can always be given values. -/
theorem exists_fillFields {columns : List Column}
    (isPublic : ∀ column ∈ columns, IsPublic column.name) (given : Entries) (record : Record)
    (environment : Environment) :
    ∃ made, fillFields given false record columns environment = (.ok made, environment) := by
  induction columns generalizing record with
  | nil => exact ⟨record, rfl⟩
  | cons column rest ih =>
      obtain ⟨made, filled⟩ := ih
        (fun other member => isPublic other (List.mem_cons_of_mem column member))
        (record.put column.label ((given.find? (.text column.name)).getD .unset) none)
      refine ⟨made, ?_⟩
      rw [fillFields, bind_apply, initialAttribute_without_defaults]
      simp only [record.assign_of_isPublic (isPublic column List.mem_cons_self)]
      exact filled

/-! ## One row -/

end Record

/-- What a column makes of its entry in a row: the value that was stored, and nothing where there
is no entry. -/
def Column.valueIn (column : Column) (row : Entries) : Except ValueFault Value :=
  match Entries.find? row (.text column.name) with
  | some stored => column.fromStorage stored
  | none => .ok .unset

namespace Record

theorem contains_label (row : Entries) (label : Name) :
    (Value.dict row).contains label.toValue = .ok (row.has label.toValue) := by
  cases label <;> rfl

/-- A column of the row contributes the value that was stored. -/
theorem rowValues_cons_of_find? {row values : Entries} {column : Column} {rest : List Column}
    {stored w : Value} (found : row.find? (.text column.name) = some stored)
    (converted : column.fromStorage stored = .ok w)
    (read : rowValues (.dict row) rest = .ok values) :
    rowValues (.dict row) (column :: rest) = .ok ((.text column.name, w) :: values) := by
  have text := column.label.text?_toValue
  have has : row.has column.label.toValue = true := by
    obtain ⟨key, member, named⟩ := Entries.exists_mem_of_find? found
    exact (Entries.has_eq_true text).mpr ⟨(key, stored), member, named⟩
  have foundByLabel : row.find? column.label.toValue = some stored :=
    (Entries.find?_of_text? text row).trans found
  simp only [rowValues, contains_label, has, Value.atName, foundByLabel, read, bind, Except.bind,
    converted, if_true]
  rfl

/-- A column that is not in the row contributes nothing. -/
theorem rowValues_cons_of_not_sets {row : Entries} {column : Column}
    (absent : ¬ row.Sets column.name) (rest : List Column) :
    rowValues (.dict row) (column :: rest) = rowValues (.dict row) rest := by
  have hasNot : row.has column.label.toValue = false := by
    rw [Bool.eq_false_iff]
    exact fun has => absent ((Entries.has_eq_true column.label.text?_toValue).mp has)
  rw [rowValues, contains_label, hasNot]
  rfl

/-- Whether values are those that columns make of a row. -/
structure ReadsAs (row values : Entries) (columns : List Column) : Prop where
  read : rowValues (.dict row) columns = .ok values
  declared : ∀ name, values.Sets name → name ∈ columns.map (·.name)
  valueOf : ∀ column ∈ columns,
    column.valueIn row = .ok ((values.find? (.text column.name)).getD .unset)

namespace ReadsAs

variable {row values : Entries} {column : Column} {columns : List Column}

theorem nil (row : Entries) : ReadsAs row [] [] where
  read := rfl
  declared := by
    intro name sets
    exact absurd sets (Entries.sets_nil name)
  valueOf := by
    intro column member
    cases member

theorem not_sets (reads : ReadsAs row values columns)
    (fresh : column.name ∉ columns.map (·.name)) : ¬ values.Sets column.name :=
  fun sets => fresh (reads.declared column.name sets)

theorem cons_of_find? (reads : ReadsAs row values columns)
    (fresh : column.name ∉ columns.map (·.name)) {stored w : Value}
    (found : row.find? (.text column.name) = some stored)
    (converted : column.fromStorage stored = .ok w) :
    ReadsAs row ((.text column.name, w) :: values) (column :: columns) where
  read := rowValues_cons_of_find? found converted reads.read
  declared := by
    intro name sets
    rcases (Entries.sets_cons _ _ _).mp sets with first | later
    · cases first
      exact List.mem_cons_self
    · exact List.mem_cons_of_mem _ (reads.declared name later)
  valueOf := by
    intro other member
    rw [Entries.find?_text_cons, Value.text?]
    rcases List.mem_cons.mp member with rfl | inRest
    · rw [if_pos rfl, Column.valueIn, found]
      exact converted
    · have different : ¬ some column.name = some other.name := by
        intro same
        apply fresh
        rw [Option.some.inj same]
        exact List.mem_map_of_mem inRest
      rw [if_neg different]
      exact reads.valueOf other inRest

theorem cons_of_not_sets (reads : ReadsAs row values columns)
    (fresh : column.name ∉ columns.map (·.name)) (absent : ¬ row.Sets column.name) :
    ReadsAs row values (column :: columns) where
  read := (rowValues_cons_of_not_sets absent columns).trans reads.read
  declared := by
    intro name sets
    exact List.mem_cons_of_mem _ (reads.declared name sets)
  valueOf := by
    intro other member
    rcases List.mem_cons.mp member with rfl | inRest
    · rw [Column.valueIn, Entries.find?_of_not_sets absent,
        Entries.find?_of_not_sets (reads.not_sets fresh)]
      rfl
    · exact reads.valueOf other inRest

end ReadsAs

/-- A row gives every column what the column makes of it. -/
theorem exists_readsAs {row : Entries} {columns : List Column}
    (distinct : (columns.map (·.name)).Nodup)
    (loads : ∀ column ∈ columns, ∃ w, column.valueIn row = .ok w) :
    ∃ values, ReadsAs row values columns := by
  induction columns with
  | nil => exact ⟨[], .nil row⟩
  | cons column rest ih =>
      rw [List.map_cons, List.nodup_cons] at distinct
      obtain ⟨values, reads⟩ := ih distinct.2
        fun other member => loads other (List.mem_cons_of_mem column member)
      by_cases present : row.Sets column.name
      · obtain ⟨stored, found⟩ := Entries.exists_find?_of_sets present
        obtain ⟨w, loaded⟩ := loads column List.mem_cons_self
        rw [Column.valueIn, found] at loaded
        exact ⟨(.text column.name, w) :: values, reads.cons_of_find? distinct.1 found loaded⟩
      · exact ⟨values, reads.cons_of_not_sets distinct.1 present⟩

/-- A record can be made from the values of any row. -/
theorem exists_ofRow {model : Model} (isPublic : model.table.HasPublicNames) {row : Value}
    {values : Entries} (read : rowValues row model.table.columns = .ok values)
    (session : Session) : ∃ loaded, ofRow model row session = (.ok loaded, session) ∧
      fillFields values false (blank model.name session.inherited) model.table.columns
        session.environment = (.ok loaded, session.environment) := by
  obtain ⟨loaded, filled⟩ := exists_fillFields isPublic values
    (blank model.name session.inherited) session.environment
  refine ⟨loaded, ?_, filled⟩
  have given : givenValues (.dict values) [] = .ok values := by
    cases values <;> rfl
  have runs : Action.inEnvironment (fillFields values false
      (blank model.name session.inherited) model.table.columns) session =
        (.ok loaded, session) := by
    simp only [Action.inEnvironment, filled]
    rfl
  have made : make model (.dict values) [] false session = (.ok loaded, session) := by
    rw [make, given]
    exact runs
  rw [ofRow, read]
  exact made

/-- A record that is loaded from a row has what the columns make of the row. -/
theorem exists_ofRow_of_valueIn {model : Model} (isPublic : model.table.HasPublicNames)
    (distinct : model.table.columnNames.Nodup) {row : Entries}
    (loads : ∀ column ∈ model.table.columns, ∃ w, column.valueIn row = .ok w)
    (session : Session) : ∃ loaded, ofRow model (.dict row) session = (.ok loaded, session) ∧
      ∀ column ∈ model.table.columns, loaded.get column.name = column.valueIn row := by
  obtain ⟨values, reads⟩ := exists_readsAs distinct loads
  obtain ⟨loaded, made, filled⟩ := exists_ofRow isPublic reads.read session
  refine ⟨loaded, made, ?_⟩
  intro column member
  obtain ⟨start, before, after, started, got⟩ :=
    (value?_of_fillFields distinct isPublic filled).1 column member
  rw [initialAttribute_without_defaults] at started
  cases started
  rw [reads.valueOf column member]
  exact get_eq_ok.mpr got

end Record

/-! ## Queries -/

namespace Model

variable {model : Model}

/-- Whether a record can be loaded from a row. -/
def Loads (model : Model) (row : Value) : Prop :=
  ∃ values, Record.rowValues row model.table.columns = .ok values

/-- The rows that meet a condition, under options that were understood. -/
def readRows (model : Model) (condition : Value) (options : ReadOptions) :
    Action (List Value) := do
  let predicate ← model.predicate condition
  let statement ← Action.ofResult (Statement.select model.table predicate options)
  Action.queryStatement statement

/-- Records are found by reading rows and loading them. -/
theorem findWith_eq (model : Model) (condition : Value) (options : ReadOptions) :
    model.findWith condition options = model.readRows condition options >>= load model := by
  simp only [findWith, readRows, bind_assoc]

/-- Whether a row is loaded as a record, in a session that stays as it is. -/
def LoadsAs (model : Model) (session : Session) (row : Value) (record : Record) : Prop :=
  Record.ofRow model row session = (.ok record, session)

/-- Rows are loaded one after the other, in order. -/
theorem load_of_forall₂ {session : Session} {rows : List Value} {records : List Record}
    (each : List.Forall₂ (model.LoadsAs session) rows records) :
    load model rows session = (.ok records, session) := by
  induction each with
  | nil => rfl
  | cons first _ ih =>
      rw [load, bind_apply, first]
      simp only [bind_apply, ih]
      rfl

/-- Each row that can be loaded is loaded as a record. -/
theorem exists_forall₂_loadsAs (isPublic : model.table.HasPublicNames) {rows : List Value}
    (each : ∀ row ∈ rows, model.Loads row) (session : Session) :
    ∃ records, List.Forall₂ (model.LoadsAs session) rows records := by
  induction rows with
  | nil => exact ⟨[], .nil⟩
  | cons row rest ih =>
      obtain ⟨values, read⟩ := each row List.mem_cons_self
      obtain ⟨record, made, _⟩ := Record.exists_ofRow isPublic read session
      obtain ⟨records, others⟩ := ih
        fun other member => each other (List.mem_cons_of_mem row member)
      exact ⟨record :: records, .cons made others⟩

/-- A row among others is loaded in its place. -/
theorem exists_load_append (isPublic : model.table.HasPublicNames) {front back : List Value}
    (others : ∀ other ∈ front ++ back, model.Loads other) {session : Session} {row : Value}
    {loaded : Record} (made : model.LoadsAs session row loaded) :
    ∃ before after, before.length = front.length ∧
      load model (front ++ row :: back) session = (.ok (before ++ loaded :: after), session) := by
  obtain ⟨before, first⟩ := exists_forall₂_loadsAs isPublic
    (fun other member => others other (List.mem_append_left back member)) session
  obtain ⟨after, last⟩ := exists_forall₂_loadsAs isPublic
    (fun other member => others other (List.mem_append_right front member)) session
  refine ⟨before, after, first.length_eq.symm, ?_⟩
  exact load_of_forall₂ (List.rel_append first (.cons made last))

/-- The rows that a query gets for a condition and options given as values. What it asks for beyond
them depends on the kind of query. -/
def answers (model : Model) (condition options : Value) (adjust : ReadOptions → ReadOptions) :
    Action (List Value) := do
  model.readRows condition (adjust (← Action.ofResult (ReadOptions.ofValue options)))

/-- Whether every query that returns a row, with others around it that can be loaded, finds a record
of some kind in its place. -/
structure Finds (model : Model) (row : Value) (known : Record → Prop) : Prop where
  find : ∀ condition options first last front back,
    (∀ other ∈ front ++ back, model.Loads other) →
      model.answers condition options id first = (.ok (front ++ row :: back), last) →
        ∃ before loaded after, before.length = front.length ∧ known loaded ∧
          model.find condition options first = (.ok (before ++ loaded :: after), last)
  findOne : ∀ condition options first last back,
    (∀ other ∈ back, model.Loads other) →
      model.answers condition options firstOnly first = (.ok (row :: back), last) →
        ∃ loaded, known loaded ∧ model.findOne condition options first = (.ok (some loaded), last)

/-- A row that is loaded as a record of some kind in every session is found as one. -/
theorem finds_of_loadsAs (isPublic : model.table.HasPublicNames) {row : Value}
    {known : Record → Prop}
    (loads : ∀ session, ∃ loaded, model.LoadsAs session row loaded ∧ known loaded) :
    model.Finds row known where
  find := by
    intro condition options first last front back others answered
    obtain ⟨loaded, made, isKnown⟩ := loads last
    obtain ⟨before, after, count, ran⟩ := exists_load_append isPublic others made
    refine ⟨before, loaded, after, count, isKnown, ?_⟩
    obtain ⟨read, middle, understood, rows⟩ := bind_eq_ok answered
    rw [Model.find, bind_apply, understood]
    simp only [findWith_eq, bind_apply]
    rw [id] at rows
    rw [rows]
    exact ran
  findOne := by
    intro condition options first last back others answered
    obtain ⟨loaded, made, isKnown⟩ := loads last
    obtain ⟨before, after, count, ran⟩ :=
      @exists_load_append model isPublic [] back others _ _ _ made
    have isFirst : before = [] := List.eq_nil_of_length_eq_zero count
    rw [isFirst, List.nil_append, List.nil_append] at ran
    refine ⟨loaded, isKnown, ?_⟩
    obtain ⟨read, middle, understood, rows⟩ := bind_eq_ok answered
    rw [Model.findOne, bind_apply, understood]
    simp only [findFirst, findWith_eq, bind_apply, rows, ran]
    rfl

end Model

end RowMapper
