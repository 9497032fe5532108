import RowMapper.Environment
import RowMapper.Schema.Table
import RowMapper.Sql.Quoting

/-!
# Conditions

A condition has one of three shapes: the primary key equals a value, the primary key is one of
several values, or fields have given values, a list or tuple standing for membership. Callers may
give plain values instead. A condition is compiled into fragments of a `WHERE` clause with
parameters; no value ever becomes part of the text.
-/

namespace RowMapper

/-- A condition on the rows of a table. -/
inductive Condition where
  | scalar (v : Value)
  | inSet (items : List Value)
  | fieldMap (fields : Value)

namespace Condition

/-- The condition that a plain value stands for; null stands for none. -/
def ofValue? (v : Value) : Option Condition :=
  match v with
  | .null => none
  | .object .scalar [v] => some (.scalar v)
  | .object .inSet [.tuple items] => some (.inSet items)
  | .object .fieldMap [v] => some (.fieldMap v)
  | .dict _ => some (.fieldMap v)
  | .list items | .tuple items => some (.inSet items)
  | _ => some (.scalar v)

/-- The condition as a value. -/
def toValue : Condition → Value
  | .scalar v => .object .scalar [v]
  | .inSet items => .object .inSet [.tuple items]
  | .fieldMap v => .object .fieldMap [v]

/-- The value of a membership condition on the items of a collection. -/
def inSetValue (v : Value) : Except ValueFault Value :=
  v.items.map fun items => (Condition.inSet items).toValue

@[simp] theorem ofValue?_toValue (condition : Condition) :
    ofValue? condition.toValue = some condition := by
  cases condition <;> rfl

end Condition

/-- A part of a `WHERE` clause with its parameters. -/
structure Fragment where
  text : String
  parameters : List Value

namespace Fragment

/-- A column equals a value. -/
def equals (column : String) (v : Value) : Fragment :=
  ⟨Sql.quoteName column ++ "=?", [v]⟩

/-- A column is one of several values. Membership in nothing is written so that it matches no
row. -/
def memberOf (column : String) (items : List Value) : Fragment :=
  if items.isEmpty then ⟨Sql.quoteName column ++ " IN (NULL)", []⟩
  else
    ⟨Sql.quoteName column ++ " IN (" ++
        String.intercalate "," (items.map fun _ => "?") ++ ")", items⟩

end Fragment

/-- Fragments that a row has to meet one and all. -/
structure Predicate where
  fragments : List Fragment

namespace Predicate

/-- The predicate that every row meets. -/
def everything : Predicate := ⟨[]⟩

/-- Whether every row meets the predicate for want of fragments. -/
def isEmpty (predicate : Predicate) : Bool :=
  predicate.fragments.isEmpty

/-- The parameters of all fragments in order. -/
def parameters (predicate : Predicate) : List Value :=
  predicate.fragments.flatMap (·.parameters)

/-- The `WHERE` clause, empty for a predicate without fragments. -/
def whereClause (predicate : Predicate) : String :=
  if predicate.isEmpty then ""
  else "WHERE " ++ String.intercalate " AND " (predicate.fragments.map (·.text))

end Predicate

namespace FieldType

/-- A value in a condition on a column of the type: truth values are compared as they are
stored. -/
def conditionValue (type : FieldType) (v : Value) : Value :=
  match type with
  | .boolean =>
      match v.sequence? with
      | some items => .list (items.map fun item => .int (if item.truthy then 1 else 0))
      | none => .int (if v.truthy then 1 else 0)
  | _ => v

end FieldType

namespace Condition

/-- The primary key, which conditions other than field maps need. -/
def requirePrimaryKey (table : Table) : Except Fault String :=
  match table.primaryKey with
  | some name => .ok name
  | none => .error (.keylessModel table.modelLabel)

/-- The fragment for one field. -/
def fieldFragment (column : Column) (v : Value) : Fragment :=
  let v := column.type.conditionValue v
  match v.sequence? with
  | some items => .memberOf column.name items
  | none => .equals column.name v

/-- The fragments for the entries of a field map. Entries that name no column are left out. -/
def fieldFragments (table : Table) : Entries → List Fragment
  | [] => []
  | (key, v) :: rest =>
      match table.columnAt? key with
      | some column => fieldFragment column v :: fieldFragments table rest
      | none => fieldFragments table rest

/-- What is reported of the entries of a field map: those that name no column. -/
def fieldEvents (table : Table) : Entries → List Event
  | [] => []
  | (key, _) :: rest =>
      match table.columnAt? key with
      | some _ => fieldEvents table rest
      | none => .conditionKeyIgnored table.modelLabel key :: fieldEvents table rest

/-- The predicate of the entries of a field map. What was ignored before a fault is reported. -/
def compileFields (table : Table) (walk : EntryWalk) : Report Predicate :=
  ⟨fieldEvents table walk.entries,
    (walk.finish ⟨fieldFragments table walk.entries⟩).mapError .operand⟩

/-- The predicate of a condition on the rows of a table. -/
def compile (table : Table) : Option Condition → Evaluation (Report Predicate)
  | none => return ⟨[], .ok .everything⟩
  | some (.scalar v) =>
      return ⟨[], (requirePrimaryKey table).map fun name => ⟨[.equals name v]⟩⟩
  | some (.inSet items) =>
      return ⟨[], (requirePrimaryKey table).map fun name => ⟨[.memberOf name items]⟩⟩
  | some (.fieldMap fields) => do return compileFields table (← fields.walkKeyed)

end Condition

end RowMapper
