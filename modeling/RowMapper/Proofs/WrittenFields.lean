import RowMapper.Proofs.Loading
import RowMapper.Proofs.Operations

/-!
# The fields that a record writes

A record writes its values in some of the columns of its table, in the order in which these are
declared: in those where a value is set, and in that of the key only where the key goes along. The
assignments of an update are these values under the names of their columns, and the row of an
insertion has their stored forms.
-/

namespace RowMapper

namespace Record

variable {record : Record} {table : Table} {withKey : Bool}

/-- Whether the attributes of a record leave the ways to its table, its key and its backend to its
class: none of them stands under the name of one. -/
structure IsUnobstructed (record : Record) : Prop extends record.FindsOwnKey where
  noBackend : record.value? "_registry" = none

theorem IsUnobstructed.reachBackend (free : record.IsUnobstructed) :
    record.reachBackend = .ok () := by
  rw [Record.reachBackend, free.noBackend]

theorem IsUnobstructed.reachTable (free : record.IsUnobstructed) (wanted : String) :
    record.reachTable wanted = .ok () := by
  rw [Record.reachTable, free.noStandIn]

theorem IsUnobstructed.reachAssignments (free : record.IsUnobstructed) :
    record.reachAssignments = .ok () := by
  rw [Record.reachAssignments, free.noStandIn]

/-- An attribute under the name of a field obstructs nothing. -/
theorem IsUnobstructed.put (free : record.IsUnobstructed) {label : Name}
    (isPublic : IsPublic label.toText) (v : Value) (source : Option Nat) :
    (record.put label v source).IsUnobstructed := by
  have kept : ∀ name : String, name.toList.head? = some '_' → name ≠ "__dict__" →
      (record.put label v source).value? name = record.value? name := by
    intro name isPrivate notDictionary
    exact value?_put_of_ne record v source (isPublic.ne_of_private isPrivate).symm notDictionary
  constructor
  · constructor
    · rw [standIn?, kept _ rfl (by decide)]
      exact free.noStandIn
    · rw [kept _ rfl (by decide)]
      exact free.noRoutine
  · rw [kept _ rfl (by decide)]
    exact free.noBackend

/-- The value of a record in a column, the unset marker where the attribute is missing. -/
def valueOf (record : Record) (column : Column) : Value :=
  (record.value? column.name).getD .unset

/-- Whether a record has an attribute for each of some columns. -/
def HasFields (record : Record) (columns : List Column) : Prop :=
  ∀ column ∈ columns, (record.value? column.name).isSome = true

/-- Whether a record writes its value in a column. -/
def writes (record : Record) (table : Table) (withKey : Bool) (column : Column) : Bool :=
  !(record.valueOf column).isUnset && (withKey || some column.name ≠ table.primaryKey)

/-- The columns in which a record writes its values, in order. -/
def writtenColumns (record : Record) (table : Table) (withKey : Bool) : List Column :=
  table.columns.filter (record.writes table withKey)

theorem HasFields.get {columns : List Column} (has : record.HasFields columns) {column : Column}
    (member : column ∈ columns) : record.get column.name = .ok (record.valueOf column) := by
  obtain ⟨v, found⟩ := Option.isSome_iff_exists.mp (has column member)
  rw [get_eq_ok, valueOf, found]
  rfl

end Record

end RowMapper
