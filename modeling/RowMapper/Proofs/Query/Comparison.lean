import RowMapper.Proofs.Run
import RowMapper.Proofs.Schema.TableInvariant
import RowMapper.Query.Condition

/-!
# What conditions ask for

A condition asks for comparisons of columns with values: the primary key with one value or several,
or each named column with what stands under its name. `Condition.Asks` says which comparisons these
are without regard to SQL. Compiling writes down exactly these comparisons, in their order, and
each of them is about a column of the table.
-/

namespace RowMapper

/-- A column compared with a value, or with each of several values. -/
inductive Comparison where
  | equals (column : Column) (v : Value)
  | memberOf (column : Column) (items : List Value)

namespace Comparison

/-- The column that is compared. -/
def column : Comparison → Column
  | .equals column _ => column
  | .memberOf column _ => column

/-- The values with which the column is compared. -/
def values : Comparison → List Value
  | .equals _ v => [v]
  | .memberOf _ items => items

/-- The comparison as a part of a `WHERE` clause. -/
def fragment : Comparison → Fragment
  | .equals column v => .equals column.name v
  | .memberOf column items => .memberOf column.name items

/-- The comparison for one entry of a field map, with the value in the form in which the column
stores truth values. -/
def ofField (column : Column) (v : Value) : Comparison :=
  match (column.type.conditionValue v).sequence? with
  | some items => .memberOf column items
  | none => .equals column (column.type.conditionValue v)

@[simp] theorem column_ofField (column : Column) (v : Value) :
    (ofField column v).column = column := by
  simp only [ofField]
  split <;> rfl

theorem fragment_ofField (column : Column) (v : Value) :
    (ofField column v).fragment = Condition.fieldFragment column v := by
  simp only [ofField, Condition.fieldFragment]
  cases (column.type.conditionValue v).sequence? <;> rfl

@[simp] theorem parameters_fragment (comparison : Comparison) :
    comparison.fragment.parameters = comparison.values := by
  cases comparison with
  | equals column v => rfl
  | memberOf column items =>
      simp only [fragment, Fragment.memberOf, values]
      split
      next empty => exact (List.isEmpty_iff.mp empty).symm
      next => rfl

end Comparison

namespace Predicate

/-- The predicate that writes comparisons down. -/
def ofComparisons (comparisons : List Comparison) : Predicate :=
  ⟨comparisons.map Comparison.fragment⟩

theorem isEmpty_ofComparisons (comparisons : List Comparison) :
    (ofComparisons comparisons).isEmpty = comparisons.isEmpty := by
  cases comparisons <;> rfl

theorem parameters_ofComparisons (comparisons : List Comparison) :
    (ofComparisons comparisons).parameters = comparisons.flatMap Comparison.values := by
  simp [ofComparisons, parameters, List.flatMap_map]

/-- Comparisons, if there are any, stand behind the keyword and one behind the other. -/
theorem whereClause_ofComparisons {comparisons : List Comparison} (compares : comparisons ≠ []) :
    (ofComparisons comparisons).whereClause =
      "WHERE " ++ String.intercalate " AND "
        (comparisons.map fun comparison => comparison.fragment.text) := by
  rw [whereClause, isEmpty_ofComparisons, if_neg (by simpa using compares), ofComparisons,
    List.map_map]
  rfl

end Predicate

namespace Table

/-- The comparisons that the entries of a field map ask for. Entries that name no column ask for
nothing. -/
def comparisons (table : Table) (entries : Entries) : List Comparison :=
  entries.filterMap fun entry =>
    (table.columnAt? entry.1).map fun column => .ofField column entry.2

theorem column_mem_of_mem_comparisons {table : Table} {entries : Entries}
    {comparison : Comparison} (member : comparison ∈ table.comparisons entries) :
    comparison.column ∈ table.columns := by
  simp only [comparisons, List.mem_filterMap, Option.map_eq_some_iff] at member
  obtain ⟨entry, _, column, found, rfl⟩ := member
  rw [Comparison.column_ofField]
  exact (columnAt?_eq_some found).1

end Table

namespace Condition

/-- Which comparisons a condition asks for. The entries of a field map that is no dictionary come
from a routine, which is called in an environment. -/
inductive Asks (table : Table) (environment : Environment) :
    Option Condition → List Comparison → Prop where
  | everything : Asks table environment none []
  | scalar {key : Column} {v : Value} : table.key = some key →
      Asks table environment (some (.scalar v)) [.equals key v]
  | inSet {key : Column} {items : List Value} : table.key = some key →
      Asks table environment (some (.inSet items)) [.memberOf key items]
  | fieldMap {fields : Value} {walk : EntryWalk} :
      (fields.walkKeyed environment).1 = .ok walk → walk.fault = none →
      Asks table environment (some (.fieldMap fields)) (table.comparisons walk.entries)

theorem fieldFragments_eq (table : Table) (entries : Entries) :
    fieldFragments table entries = (table.comparisons entries).map Comparison.fragment := by
  induction entries with
  | nil => rfl
  | cons entry rest ih =>
      obtain ⟨key, v⟩ := entry
      cases found : table.columnAt? key with
      | none => simpa [fieldFragments, Table.comparisons, found] using ih
      | some column =>
          simpa [fieldFragments, Table.comparisons, found, Comparison.fragment_ofField] using ih

/-- A predicate on the primary key is found only for a table that has one. -/
theorem map_requirePrimaryKey_eq_ok {table : Table} {make : String → Predicate}
    {predicate : Predicate} (required : (requirePrimaryKey table).map make = .ok predicate) :
    ∃ key, table.key = some key ∧ predicate = make key.name := by
  simp only [requirePrimaryKey, Table.primaryKey] at required
  cases found : table.key with
  | none => rw [found] at required; cases required
  | some key =>
      rw [found] at required
      cases required
      exact ⟨key, rfl, rfl⟩

/-- What a field map comes to if its entries were gone through to the end. -/
theorem compileFields_eq_ok {table : Table} {walk : EntryWalk} {predicate : Predicate}
    (accepted : (compileFields table walk).result = .ok predicate) :
    walk.fault = none ∧ predicate = .ofComparisons (table.comparisons walk.entries) := by
  simp only [compileFields, EntryWalk.finish] at accepted
  cases fault : walk.fault with
  | some fault => simp only [fault] at accepted; cases accepted
  | none =>
      simp only [fault] at accepted
      cases accepted
      exact ⟨rfl, by rw [fieldFragments_eq]; rfl⟩

/-- What compiling a condition comes to: the comparisons that it asks for, written down. -/
theorem asks_of_compile {table : Table} {condition : Option Condition}
    {environment : Environment} {report : Report Predicate} {predicate : Predicate}
    (compiled : (compile table condition environment).1 = .ok report)
    (accepted : report.result = .ok predicate) :
    ∃ comparisons, Asks table environment condition comparisons ∧
      predicate = .ofComparisons comparisons := by
  cases condition with
  | none =>
      cases compiled
      cases accepted
      exact ⟨[], .everything, rfl⟩
  | some condition =>
      cases condition with
      | scalar v =>
          cases compiled
          obtain ⟨key, isKey, rfl⟩ := map_requirePrimaryKey_eq_ok accepted
          exact ⟨_, .scalar isKey, rfl⟩
      | inSet items =>
          cases compiled
          obtain ⟨key, isKey, rfl⟩ := map_requirePrimaryKey_eq_ok accepted
          exact ⟨_, .inSet isKey, rfl⟩
      | fieldMap fields =>
          rw [compile, bind_apply] at compiled
          rcases walked : fields.walkKeyed environment with ⟨fault | walk, after⟩
          · rw [walked] at compiled
            cases compiled
          · rw [walked] at compiled
            cases compiled
            obtain ⟨complete, rfl⟩ := compileFields_eq_ok accepted
            exact ⟨_, .fieldMap (by rw [walked]) complete, rfl⟩

/-- Every comparison that a condition asks for is about a column of the table. -/
theorem Asks.column_mem {check : StorageCheck} {table : Table} {environment : Environment}
    {condition : Option Condition} {comparisons : List Comparison}
    (coherent : table.Coherent check) (asks : Asks table environment condition comparisons) :
    ∀ comparison ∈ comparisons, comparison.column ∈ table.columns := by
  intro comparison member
  cases asks with
  | everything => exact absurd member (by simp)
  | scalar isKey =>
      cases List.mem_singleton.mp member
      exact (coherent.key_mem _ isKey).1
  | inSet isKey =>
      cases List.mem_singleton.mp member
      exact (coherent.key_mem _ isKey).1
  | fieldMap => exact Table.column_mem_of_mem_comparisons member

end Condition

end RowMapper
