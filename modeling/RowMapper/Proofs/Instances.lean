import RowMapper.Proofs.KeyAssignment
import RowMapper.Proofs.Schema.DeclaredTable
import RowMapper.Proofs.WrittenFields

/-!
# Instances and the names that are looked up on them

The operations on a record look up some names on it: their own, the way to the table of its model
and the way to its backend. An attribute under such a name takes the place of what its class has
there. The instances of a model are made by it and then have fields set, so what they hold under a
name that is looked up is the value of a field of that name, unless a field stands for the
dictionary of all attributes.
-/

namespace RowMapper

namespace Record

/-- The names that the operations on a record look up on it to do their work. -/
def consultedNames : List String :=
  ["save", "update", "remove", "validate", "to_dict", "is_set", "objects", "_meta", "_registry",
    "_primary_key_value"]

/-- Whether a record leaves all these names to its class. -/
def LeavesToClass (record : Record) : Prop :=
  ∀ name ∈ consultedNames, record.value? name = none

theorem ne_of_consulted : ∀ name ∈ consultedNames, name ≠ "__dict__" ∧ name ≠ "__weakref__" := by
  decide

/-- The instances of a model: those that it makes, in a session whose records have nothing else
under a name that is looked up, and those that come of them when a field is set. -/
inductive IsInstance (model : Model) : Record → Prop
  | made {values : Value} {named : List (String × Value)} {withDefaults : Bool}
      {session last : Session} {record : Record}
      (plain : ∀ name ∈ consultedNames, session.inherited.lookup name = none)
      (makes : make model values named withDefaults session = (.ok record, last)) :
      IsInstance model record
  | assigned {record next : Record} {column : Column} {v : Value} {source : Option Nat}
      (before : IsInstance model record) (member : column ∈ model.table.columns)
      (sets : record.assign column.label v source = .ok next) : IsInstance model next

/-- Among the names that are looked up, only two can be names of fields of an accepted table. -/
theorem eq_of_consulted_columnName {name fields label : Value} {table : Table}
    (built : (Table.build name fields .standard label).result = .ok table) {n : String}
    (consulted : n ∈ consultedNames) (declared : n ∈ table.columnNames) :
    n = "_registry" ∨ n = "_primary_key_value" := by
  have unreserved : ∀ n ∈ consultedNames, n ∉ Column.reservedNames →
      n = "_registry" ∨ n = "_primary_key_value" := by
    decide
  obtain ⟨items, _, declaredBy, _⟩ := Table.isDeclaredBy_of_build built
  obtain ⟨column, member, rfl⟩ := List.mem_map.mp declared
  exact unreserved column.name consulted (declaredBy.names_free column member)

/-! ## Setting an attribute -/

section

variable {record next : Record} {label : Name} {v : Value} {source : Option Nat}

theorem inherited_of_assign (sets : record.assign label v source = .ok next) :
    next.inherited = record.inherited := by
  simp only [assign] at sets
  split at sets
  · cases sets
  split at sets
  · cases sets
  split at sets
  · split at sets
    · cases sets
      rfl
    · cases sets
  · cases sets
    rfl

theorem value?_of_assign_self (sets : record.assign label v source = .ok next)
    (notDictionary : label.toText ≠ "__dict__") : next.value? label.toText = some v := by
  obtain ⟨rfl, notReferences⟩ := assign_eq_ok sets notDictionary
  exact record.value?_put_self label v source notDictionary notReferences

theorem value?_of_assign_of_ne (sets : record.assign label v source = .ok next)
    (notDictionary : label.toText ≠ "__dict__") {name : String} (other : name ≠ label.toText)
    (plain : name ≠ "__dict__") : next.value? name = record.value? name := by
  obtain ⟨rfl, _⟩ := assign_eq_ok sets notDictionary
  exact record.value?_put_of_ne v source other plain

/-- What a record holds under a name is replaced at most. -/
theorem isSome_value?_of_assign (sets : record.assign label v source = .ok next)
    (notDictionary : label.toText ≠ "__dict__") {name : String}
    (holds : (record.value? name).isSome = true) : (next.value? name).isSome = true := by
  by_cases isDictionary : name = "__dict__"
  · rw [isDictionary]
    rfl
  by_cases same : name = label.toText
  · rw [same, value?_of_assign_self sets notDictionary]
    rfl
  · rw [value?_of_assign_of_ne sets notDictionary same isDictionary]
    exact holds

/-- A record whose dictionary was replaced holds the entries of the new one. -/
theorem value?_of_assign_dictionary {entries : Entries}
    (sets : record.assign label (.dict entries) source = .ok next)
    (isDictionary : label.toText = "__dict__") {name : String}
    (inherits : record.inherited.lookup name = none) (plain : name ≠ "__dict__")
    (notReferences : name ≠ "__weakref__") :
    (next.value? name).isSome = true ↔ ∃ entry ∈ entries, entry.1.text? = some name := by
  simp only [assign, isDictionary] at sets
  cases sets
  simp only [value?, if_neg plain, if_neg notReferences, inherits, Option.or_none,
    Option.isSome_map, attribute?, List.find?_isSome, attributesOfEntries, List.mem_map,
    isUnder, decide_eq_true_eq]
  constructor
  · rintro ⟨_, ⟨entry, member, rfl⟩, text⟩
    exact ⟨entry, member, text⟩
  · rintro ⟨entry, member, text⟩
    exact ⟨_, ⟨entry, member, rfl⟩, text⟩

end

/-! ## Making a record -/

section

variable {given : Entries} {withDefaults : Bool} {record made : Record} {columns : List Column}
  {environment last : Environment}

/-- What holds of a record and is kept by setting a field holds of the record with its starting
values. -/
theorem fillFields_induction (property : Record → Prop)
    (keeps : ∀ column ∈ columns, ∀ {before next : Record} {v : Value} {source : Option Nat},
      property before → before.assign column.label v source = .ok next → property next)
    (start : property record)
    (filled : fillFields given withDefaults record columns environment = (.ok made, last)) :
    property made := by
  induction columns generalizing record environment with
  | nil =>
      cases filled
      exact start
  | cons column rest ih =>
      obtain ⟨first, next, later, _, sets, continued⟩ := fillFields_cons_eq_ok filled
      exact ih (fun other member => keeps other (List.mem_cons_of_mem column member))
        (keeps column List.mem_cons_self start sets) continued

/-- A record with its starting values has all fields. -/
theorem hasFields_of_fillFields (plain : ∀ column ∈ columns, column.name ≠ "__dict__")
    (filled : fillFields given withDefaults record columns environment = (.ok made, last)) :
    made.HasFields columns := by
  induction columns generalizing record environment with
  | nil =>
      intro column member
      cases member
  | cons column rest ih =>
      have plainRest := fun other member => plain other (List.mem_cons_of_mem column member)
      obtain ⟨start, next, later, _, sets, continued⟩ := fillFields_cons_eq_ok filled
      intro other member
      rcases List.mem_cons.mp member with rfl | inRest
      · have starts : (next.value? other.name).isSome = true :=
          Option.isSome_of_eq_some (value?_of_assign_self sets (plain other List.mem_cons_self))
        refine fillFields_induction (fun made => (made.value? other.name).isSome = true) ?_ starts
          continued
        intro column member before after v source holds sets
        exact isSome_value?_of_assign sets (plainRest column member) holds
      · exact ih plainRest continued other inRest

theorem make_eq_ok {model : Model} {values : Value} {named : List (String × Value)}
    {session next : Session} (makes : make model values named withDefaults session =
      (.ok record, next)) :
    ∃ given environment last, fillFields given withDefaults (blank model.name session.inherited)
      model.table.columns environment = (.ok record, last) := by
  rw [make] at makes
  obtain ⟨given, first, parsed, continued⟩ := bind_eq_ok makes
  obtain ⟨_, rfl⟩ := Action.ofOperand_eq_ok parsed
  obtain ⟨current, second, read, filled⟩ := bind_eq_ok continued
  cases read
  exact ⟨given, _, _, Prod.ext (Action.inEnvironment_eq_ok filled) rfl⟩

end

/-! ## What an instance holds -/

namespace IsInstance

variable {model : Model} {record : Record}

/-- What holds of a record without attributes and is kept by setting a field holds of every
instance. -/
theorem invariant (property : Record → Prop)
    (blank : ∀ inherited : List (String × Value),
      (∀ name ∈ consultedNames, inherited.lookup name = none) →
        property (.blank model.name inherited))
    (keeps : ∀ column ∈ model.table.columns, ∀ {before next : Record} {v : Value}
      {source : Option Nat}, property before → before.assign column.label v source = .ok next →
        property next)
    (isInstance : IsInstance model record) : property record := by
  induction isInstance with
  | made plain makes =>
      obtain ⟨given, environment, last, filled⟩ := make_eq_ok makes
      exact fillFields_induction property keeps (blank _ plain) filled
  | assigned _ member sets ih => exact keeps _ member ih sets

/-- An instance inherits nothing under a name that is looked up. -/
theorem lookup_inherited (isInstance : IsInstance model record) {name : String}
    (consulted : name ∈ consultedNames) : record.inherited.lookup name = none := by
  refine isInstance.invariant (fun record => record.inherited.lookup name = none) ?_ ?_
  · intro inherited plain
    exact plain name consulted
  · intro column _ before next v source inherits sets
    rw [inherited_of_assign sets]
    exact inherits

/-- Where no field stands for the dictionary of all attributes, an instance has all fields. -/
theorem hasFields (isInstance : IsInstance model record)
    (plain : "__dict__" ∉ model.table.columnNames) : record.HasFields model.table.columns := by
  have plain : ∀ column ∈ model.table.columns, column.name ≠ "__dict__" := by
    intro column member same
    exact plain (same ▸ List.mem_map_of_mem member)
  induction isInstance with
  | made _ makes =>
      obtain ⟨given, environment, last, filled⟩ := make_eq_ok makes
      exact hasFields_of_fillFields plain filled
  | assigned _ member sets ih =>
      intro column declared
      exact isSome_value?_of_assign sets (plain _ member) (ih column declared)

/-- Where no field stands for the dictionary of all attributes, an instance holds something under a
name that is looked up just when a field has that name. -/
theorem isSome_value?_iff (isInstance : IsInstance model record)
    (plain : "__dict__" ∉ model.table.columnNames) {name : String}
    (consulted : name ∈ consultedNames) :
    (record.value? name).isSome = true ↔ name ∈ model.table.columnNames := by
  have other := ne_of_consulted name consulted
  constructor
  · apply isInstance.invariant fun record =>
      (record.value? name).isSome = true → name ∈ model.table.columnNames
    · intro inherited nothing holds
      simp [blank, value?, attribute?, other.1, other.2, nothing name consulted] at holds
    · intro column member before next v source declared sets holds
      have declares : column.name ∈ model.table.columnNames := List.mem_map_of_mem member
      by_cases same : name = column.name
      · rw [same]
        exact declares
      · have notDictionary : column.name ≠ "__dict__" := fun equal => plain (equal ▸ declares)
        rw [value?_of_assign_of_ne sets notDictionary same other.1] at holds
        exact declared holds
  · intro declared
    obtain ⟨column, member, rfl⟩ := List.mem_map.mp declared
    exact isInstance.hasFields plain column member

/-! ## Instances at work -/

section

variable (coherent : model.table.Coherent .standard) (isInstance : IsInstance model record)

include coherent isInstance

theorem of_stampedTo {stamped : Record} (becomes : record.StampedTo model stamped) :
    IsInstance model stamped := by
  rcases becomes with rfl | ⟨column, time, environment, found, _, _, sets⟩
  · exact isInstance
  · exact isInstance.assigned (coherent.autoUpdate_mem column found).1 sets

theorem of_keyedTo {keyed : Record} (becomes : record.KeyedTo model keyed) :
    IsInstance model keyed := by
  rcases becomes with rfl | ⟨column, key, isKey, _, _, sets⟩
  · exact isInstance
  · exact isInstance.assigned (coherent.key_mem column isKey).1 sets

/-- An insertion leaves an instance behind, however it ends. -/
theorem of_save (validated : Bool) (session : Session) :
    IsInstance model (save model validated ⟨record, session⟩).2.record := by
  have becomes := ((sends_save record model validated).sendsOnly ⟨record, session⟩ rfl).1
  obtain ⟨stamped, stamps, keyed⟩ := becomes
  exact (isInstance.of_stampedTo coherent stamps).of_keyedTo coherent keyed

/-- So does an update. -/
theorem of_update (validated : Bool) (session : Session) :
    IsInstance model (update model validated ⟨record, session⟩).2.record := by
  have becomes := ((sends_update record model validated).sendsOnly ⟨record, session⟩ rfl).1
  rcases becomes with same | ⟨_, _, _, _, _, same | ⟨column, found, _, sets⟩⟩
  · rw [same]
    exact isInstance
  · rw [same]
    exact isInstance
  · exact isInstance.assigned (coherent.autoUpdate_mem column found).1 sets

end

end IsInstance

end Record

end RowMapper
