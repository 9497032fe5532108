import RowMapper.Proofs.TableSafety
import RowMapper.Proofs.Value.StoredForm

/-!
# Which row updates and removals of a record address

An insertion stores the key of a record in the stored form of its column. An update looks for the
key as it stands in the record, and a removal for the form that a field map gives it. These three
agree for keys that equal their stored form and are no sequences, and for no others.
-/

namespace RowMapper

open Sql

namespace Comparison

/-- Membership is not written as equality is. -/
theorem text_memberOf_ne (column : Column) (items : List Value) (v : Value) :
    (memberOf column items).fragment.text ≠ (equals column v).fragment.text := by
  intro same
  simp only [fragment, Fragment.memberOf, Fragment.equals] at same
  split at same
  · exact absurd (String.append_right_inj _ |>.mp same) (by decide)
  · have rest := congrArg String.toList same
    simp [String.toList_append] at rest

end Comparison

/-- Whether updates, removals and insertions agree on the key of a record: a removal compares the
key column with one value, in the text in which an update does, and the value of the update equals
both that value and the stored form. -/
def Column.AddressesAlike (key : Column) (v stored : Value) : Prop :=
  ∃ sought,
    (Comparison.ofField key v).fragment.text = (Comparison.equals key v).fragment.text ∧
      (Comparison.ofField key v).values = [sought] ∧
      v.equal sought = true ∧ v.equal stored = true ∧ sought.equal stored = true

/-- Whether a key equals its stored form: never in a column of JSON texts, only as one or zero in a
column of truth values, and elsewhere if it is no sequence and equals itself. -/
def Column.KeepsKey (key : Column) (v : Value) : Prop :=
  match key.type with
  | .json => False
  | .boolean => v.equal (.int 0) = true ∨ v.equal (.int 1) = true
  | _ => v.sequence? = none ∧ v.equal v = true

namespace Column

variable {key : Column} {v stored : Value}

/-- Where updates and removals agree, the key is no sequence, and an update seeks a value that
equals what the removal seeks and what is stored. -/
theorem addressesAlike_iff_equal :
    key.AddressesAlike v stored ↔
      (key.type.conditionValue v).sequence? = none ∧
        v.equal (key.type.conditionValue v) = true ∧ v.equal stored = true ∧
        (key.type.conditionValue v).equal stored = true := by
  constructor
  · rintro ⟨sought, text, parameters, equals⟩
    cases sequence : (key.type.conditionValue v).sequence? with
    | some items =>
        simp only [Comparison.ofField, sequence] at text
        exact absurd text (Comparison.text_memberOf_ne key items v)
    | none =>
        simp only [Comparison.ofField, sequence] at parameters
        cases parameters
        exact ⟨rfl, equals⟩
  · rintro ⟨sequence, equals⟩
    refine ⟨key.type.conditionValue v, ?_⟩
    simp only [Comparison.ofField, sequence]
    exact ⟨rfl, rfl, equals⟩

/-- In columns that are neither of truth values nor of JSON texts, a value is sought and stored as
it is, apart from truth values, which equal one and zero. -/
theorem addressesAlike_of_other (notBoolean : key.type ≠ .boolean) (notJson : key.type ≠ .json)
    (converts : key.toStorage v = .ok stored) :
    key.AddressesAlike v stored ↔ v.sequence? = none ∧ v.equal v = true := by
  have sought : key.type.conditionValue v = v := by
    cases type : key.type with
    | boolean => exact absurd type notBoolean
    | _ => rfl
  have kept : v.equal v = true → v.equal stored = true := by
    intro itself
    rw [toStorage_of_other notBoolean notJson] at converts
    cases converts
    cases v with
    | bool b => cases b <;> decide
    | _ => exact itself
  rw [addressesAlike_iff_equal, sought]
  constructor
  · rintro ⟨sequence, itself, _, _⟩
    exact ⟨sequence, itself⟩
  · rintro ⟨sequence, itself⟩
    exact ⟨sequence, itself, kept itself, kept itself⟩

/-- In a column of truth values one and zero are sought and stored. -/
theorem addressesAlike_of_boolean (boolean : key.type = .boolean) (notNull : v.isNull = false)
    (converts : key.toStorage v = .ok stored) :
    key.AddressesAlike v stored ↔ v.equal (.int 0) = true ∨ v.equal (.int 1) = true := by
  have isStored : stored = .int (if v.truthy then 1 else 0) := by
    simp only [toStorage, boolean, notNull] at converts
    cases converts
    rfl
  rw [addressesAlike_iff_equal, boolean]
  simp only [FieldType.conditionValue]
  cases sequence : v.sequence? with
  | some items =>
      -- A removal seeks the items of a sequence, and no sequence is zero or one.
      constructor
      · rintro ⟨impossible, _⟩
        cases impossible
      · intro either
        simp only [Value.equal_int_of_sequence? _ sequence] at either
        rcases either with impossible | impossible
        · cases impossible
        · cases impossible
  | none =>
      dsimp only
      rw [isStored]
      constructor
      · rintro ⟨_, equal, _⟩
        split at equal
        · exact .inr equal
        · exact .inl equal
      · rintro (zero | one)
        · have falsy : ¬ v.truthy = true := fun truthy =>
            (Value.truthy_of_equal_int zero).mp truthy rfl
          rw [if_neg falsy]
          exact ⟨rfl, zero, zero, by decide⟩
        · have truthy := (Value.truthy_of_equal_int one).mpr (by decide)
          rw [if_pos truthy]
          exact ⟨rfl, one, one, by decide⟩

/-- In a column of JSON texts the text that is stored is never sought. -/
theorem not_addressesAlike_of_json (json : key.type = .json) (notNull : v.isNull = false)
    (converts : key.toStorage v = .ok stored) : ¬ key.AddressesAlike v stored := by
  rw [addressesAlike_iff_equal]
  rintro ⟨_, _, equal, _⟩
  simp only [toStorage, json, notNull] at converts
  cases written : Json.write v with
  | error fault => rw [written] at converts; cases converts
  | ok text =>
      rw [written] at converts
      cases converts
      rw [Json.equal_text_of_write written] at equal
      cases equal

/-- Updates, removals and insertions agree on a key just when the key keeps its form. -/
theorem addressesAlike_iff (notNull : v.isNull = false) (converts : key.toStorage v = .ok stored) :
    key.AddressesAlike v stored ↔ key.KeepsKey v := by
  simp only [KeepsKey]
  split
  next json =>
    exact ⟨fun alike => not_addressesAlike_of_json json notNull converts alike, False.elim⟩
  next boolean => exact addressesAlike_of_boolean boolean notNull converts
  next notJson notBoolean => exact addressesAlike_of_other notBoolean notJson converts

end Column

/-! ## What the operations send about the key -/

/-- Whether a row gives the key its stored form: no other value stands under the name of the key,
and the key is there unless the database generates it. -/
def Entries.GivesKey (row : Entries) (key : Column) (stored : Value) : Prop :=
  (∀ entry ∈ row, entry.1.text? = some key.name → entry.2 = stored) ∧
    (key.isAutoIncrement = false → (.text key.name, stored) ∈ row)

/-- A record with a key and with nothing in the place of what finds it: no attribute stands under
the names of the table and of the routine that reads the key, and the key is an attribute of its
own. -/
structure Record.HoldsKey (record : Record) (key : Column) (v : Value) : Prop where
  held : record.value? key.name = some v
  present : Record.isKeyValue v = true
  notRoutine : record.value? "_primary_key_value" = none
  notStandIn : record.standIn? = none
  notDictionary : key.name ≠ "__dict__"

namespace Record.HoldsKey

variable {record : Record} {model : Model} {key : Column} {v : Value}

theorem ne_unset (holds : record.HoldsKey key v) : v ≠ .unset := by
  intro same
  have present := holds.present
  rw [same] at present
  cases present

theorem notNull (holds : record.HoldsKey key v) : v.isNull = false := by
  have present := holds.present
  simp only [isKeyValue, Bool.and_eq_true, Bool.not_eq_true'] at present
  exact present.2

theorem get_key (holds : record.HoldsKey key v) : record.get key.name = .ok v := by
  rw [Record.get, holds.held]

/-- Operations find the key that the record holds. -/
theorem eq_of_keyedBy (holds : record.HoldsKey key v) (isKey : model.table.key = some key)
    {operation : RecordOperation} {found : Value} (keyed : record.KeyedBy model operation found) :
    found = v := by
  obtain ⟨session, answered⟩ := keyed
  have named := Table.primaryKey_of_key isKey
  rw [keyValue_of_held holds.notStandIn holds.notRoutine named holds.held holds.present] at answered
  cases answered
  rfl

theorem keyCondition_eq (holds : record.HoldsKey key v) (isKey : model.table.key = some key) :
    record.keyCondition model.table v = .ok (.dict [(.text key.name, v)]) := by
  rw [keyCondition, holds.notStandIn, Table.primaryKeyText, Table.primaryKey, isKey]
  rfl

/-- Stamping a record leaves its key alone, since it only writes where nothing is set. -/
theorem stampedTo (holds : record.HoldsKey key v) {stamped : Record}
    (becomes : record.StampedTo model stamped) : stamped.value? key.name = some v := by
  rcases becomes with rfl | ⟨column, time, environment, _, unset, _, assigned⟩
  · exact holds.held
  · have different : key.name ≠ column.label.toText := by
      intro same
      rw [Column.name, ← same, holds.get_key] at unset
      exact holds.ne_unset (Except.ok.inj unset)
    have plain : column.label.toText ≠ "__dict__" := by
      intro same
      rw [Column.name, same] at unset
      cases unset
    simp only [assign, plain, if_false] at assigned
    split at assigned
    · cases assigned
    split at assigned
    · cases assigned
    cases assigned
    rw [value?_put_of_ne record time _ different holds.notDictionary, holds.held]

theorem sendsKey_eq (holds : record.HoldsKey key v) (isKey : model.table.key = some key)
    {stamped : Record} (becomes : record.StampedTo model stamped) :
    stamped.sendsKey model.table = !key.isAutoIncrement := by
  simp only [sendsKey, isKey, holds.stampedTo becomes, Option.map_some, Option.getD_some,
    holds.present, Bool.and_true]

/-- The row of an insertion gives the key its stored form. -/
theorem givesKey (holds : record.HoldsKey key v) {check : StorageCheck}
    (coherent : model.table.Coherent check) (isKey : model.table.key = some key)
    {stored : Value} (converts : key.toStorage v = .ok stored) {stamped : Record} {row : Entries}
    (becomes : record.StampedTo model stamped)
    (written : stamped.rowOf model.table (stamped.sendsKey model.table) model.table.columns =
      .ok row) : row.GivesKey key stored := by
  have member := (coherent.key_mem key isKey).1
  have read : stamped.get key.name = .ok v := by rw [Record.get, holds.stampedTo becomes]
  constructor
  · intro entry inRow text
    obtain ⟨column, inColumns, w, label, readHere, convertedHere, _⟩ :=
      exists_column_of_mem_rowOf written inRow
    have same : column.name = key.name := by
      rw [label] at text
      exact Option.some.inj text
    have isSame := coherent.eq_of_name_eq inColumns member same
    rw [isSame, read] at readHere
    cases readHere
    rw [isSame, converts] at convertedHere
    exact (Except.ok.inj convertedHere).symm
  · intro ownKey
    have sent : some key.name = model.table.primaryKey →
        stamped.sendsKey model.table = true := by
      intro _
      rw [holds.sendsKey_eq isKey becomes, ownKey]
      rfl
    obtain ⟨other, converted, inRow⟩ := mem_rowOf written member read holds.ne_unset sent
    rw [converts] at converted
    cases converted
    exact inRow

end Record.HoldsKey

namespace Condition

/-- A condition on the key alone compiles to one comparison of the key column. -/
theorem eq_of_compilesTo_scalar {table : Table} {key : Column} {v : Value} {predicate : Predicate}
    (isKey : table.key = some key) (compiled : CompilesTo table (some (.scalar v)) predicate) :
    predicate = .ofComparisons [.equals key v] := by
  obtain ⟨environment, report, compiled, accepted⟩ := compiled
  obtain ⟨comparisons, asks, rfl⟩ := asks_of_compile compiled accepted
  cases asks with
  | scalar found =>
      rw [isKey] at found
      cases found
      rfl

/-- A field map of one column compiles to one comparison of that column. -/
theorem eq_of_compilesTo_field {check : StorageCheck} {table : Table} {column : Column} {v : Value}
    {predicate : Predicate} (coherent : table.Coherent check) (member : column ∈ table.columns)
    (compiled : CompilesTo table (some (.fieldMap (.dict [(.text column.name, v)]))) predicate) :
    predicate = .ofComparisons [.ofField column v] := by
  obtain ⟨environment, report, compiled, accepted⟩ := compiled
  obtain ⟨comparisons, asks, rfl⟩ := asks_of_compile compiled accepted
  cases asks with
  | fieldMap walked _ =>
      cases walked
      have found : table.columnAt? (.text column.name) = some column :=
        coherent.column?_name member
      simp [EntryWalk.ofEntries, Table.comparisons, found]

end Condition

namespace Model

/-- When the operations on a record agree on its row. An insertion stores the key in the stored form
of its column, unless the database generates it. An update compares the key column with the key as
it stands in the record, and a removal with what a field map makes of it. These agree just when the
key keeps its form. -/
theorem addresses_alike_iff_keeps_key {name fields label : Value} {check : StorageCheck}
    {model : Model} {key : Column} {record : Record} {v stored : Value}
    (built : (Table.build name fields check label).result = .ok model.table)
    (isKey : model.table.key = some key) (holds : record.HoldsKey key v)
    (converts : key.toStorage v = .ok stored) :
    (∀ validated session,
      SendsOnly
        (fun statement =>
          ∃ row, row.GivesKey key stored ∧ Statement.insert model.table row = .ok statement)
        session.calls (Record.save model validated ⟨record, session⟩).2.session.calls) ∧
    (∀ validated session,
      SendsOnly (Statement.Compares model.table [.equals key v]) session.calls
        (Record.update model validated ⟨record, session⟩).2.session.calls) ∧
    (∀ session,
      SendsOnly (Statement.Compares model.table [.ofField key v]) session.calls
        (Record.remove model ⟨record, session⟩).2.session.calls) ∧
    (key.AddressesAlike v stored ↔ key.KeepsKey v) := by
  have coherent := Table.coherent_of_build built
  have member := (coherent.key_mem key isKey).1
  refine ⟨?_, ?_, ?_, Column.addressesAlike_iff holds.notNull converts⟩
  · intro validated session
    apply ((record.sends_save model validated).sendsOnly ⟨record, session⟩ rfl).2.weaken
    rintro statement ⟨stamped, row, becomes, written, inserted⟩
    exact ⟨row, holds.givesKey coherent isKey converts becomes written, inserted⟩
  · intro validated session
    apply ((record.sends_update model validated).sendsOnly ⟨record, session⟩ rfl).2.weaken
    rintro statement ⟨found, keyed, values, time, assignments, adopted, predicate, _, _, _,
      compiled, updated⟩
    have notDictionary : model.table.primaryKey ≠ some "__dict__" := by
      intro same
      rw [Table.primaryKey, isKey] at same
      exact holds.notDictionary (Option.some.inj same)
    rw [holds.eq_of_keyedBy isKey keyed, Record.refreshKey_of_ne adopted v notDictionary]
      at compiled
    rw [Condition.eq_of_compilesTo_scalar isKey compiled] at updated
    obtain ⟨_, _, updated⟩ := updateStatement_eq_ok updated
    exact (Statement.compares_of_update updated).2
  · intro session
    apply ((record.sends_remove model).sendsOnly ⟨record, session⟩ rfl).2.weaken
    rintro statement ⟨found, condition, keyed, conditioned, predicate, compiled, removed⟩
    rw [holds.eq_of_keyedBy isKey keyed, holds.keyCondition_eq isKey] at conditioned
    cases conditioned
    rw [Condition.eq_of_compilesTo_field coherent member compiled] at removed
    exact (Statement.compares_of_delete removed).2

/-- The key of a person keeps its form, so an update and a removal of that person seek what an
insertion stored. -/
theorem addresses_alike_iff_keeps_key_people :
    personId.AddressesAlike (.int 7) (.int 7) := by
  have holds : activePerson.HoldsKey personId (.int 7) :=
    ⟨rfl, rfl, rfl, rfl, by decide⟩
  have isKey : person.table.key = some personId := rfl
  obtain ⟨_, _, _, alike⟩ := addresses_alike_iff_keeps_key people_built isKey holds rfl
  exact alike.mpr ⟨rfl, rfl⟩

end Model

/-- A key column of truth values, for examples. -/
def switchState : Column :=
  { ColumnTraits.standard with primaryKey := .bool true, label := .text "on", type := .boolean }

/-- A table whose key is a truth value, for examples. -/
def switches : Table :=
  ⟨.text "Switch", .text "switches", [switchState, noteColumn], some switchState, none⟩

/-- A switch whose key is a number that counts as true. -/
def switch : Record :=
  ⟨"Switch", [(.text "on", ⟨.int 2, none⟩), (.text "note", ⟨.text "hall", none⟩)], []⟩

/-- An insertion of that switch stores one, a removal seeks one, and an update seeks two. -/
theorem switch_not_addressed_alike :
    (Table.build (.text "Switch") (.list [switchState.toValue, noteColumn.toValue]) .standard
        (.text "switches")).result = .ok switches ∧
      switch.HoldsKey switchState (.int 2) ∧ switchState.toStorage (.int 2) = .ok (.int 1) ∧
      (Record.save ⟨switches, none⟩ true ⟨switch, newSession⟩).2.session.calls =
        [.execute "INSERT INTO `switches` (`on`, `note`) VALUES (?, ?)" [.int 1, .text "hall"]] ∧
      (Record.update ⟨switches, none⟩ true ⟨switch, newSession⟩).2.session.calls =
        [.execute "UPDATE `switches` SET `note`=? WHERE `on`=?" [.text "hall", .int 2]] ∧
      (Record.remove ⟨switches, none⟩ ⟨switch, newSession⟩).2.session.calls =
        [.execute "DELETE FROM `switches` WHERE `on`=?" [.int 1]] ∧
      Value.equal (.int 2) (.int 1) = false :=
  ⟨rfl, ⟨rfl, rfl, rfl, rfl, by decide⟩, rfl, rfl, rfl, rfl, rfl⟩

end RowMapper
