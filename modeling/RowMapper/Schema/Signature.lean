import RowMapper.Environment
import RowMapper.Schema.Table

/-!
# Signatures of tables

Two declarations of a model are taken for the same when their signatures agree. A signature holds
everything that was declared, with routines in their present state; two routines agree when they
do the same with equal arguments, except for those whose behaviour cannot be looked into, which
agree only with themselves.
-/

namespace RowMapper

namespace Environment

/-- A routine with its present state for its arguments; other values stay. -/
def freeze (environment : Environment) (v : Value) : Value :=
  match v with
  | .routine mark body arguments =>
      match body with
      | .constant | .counter =>
          .routine mark body [environment.stateOf mark (Routine.argument arguments)]
      | _ => v
  | _ => v

end Environment

namespace Value

/-- Whether two routines, or two other values, agree in a signature. -/
def agrees (v w : Value) : Bool :=
  match v, w with
  | .routine mark body arguments, .routine mark' body' arguments' =>
      body == body' && (if body = .sealed then mark == mark' else sameItems arguments arguments')
  | _, _ => sameItem v w

/-- Whether two lists agree item by item. -/
def allAgree : List Value → List Value → Bool
  | [], [] => true
  | v :: vs, w :: ws => v.agrees w && allAgree vs ws
  | _, _ => false

end Value

/-- The part of a signature that one column makes up. -/
structure ColumnSignature where
  name : String
  type : FieldType
  traits : ColumnTraits
  validators : List Value

namespace ColumnSignature

/-- Whether two columns were declared alike. -/
def agrees (a b : ColumnSignature) : Bool :=
  a.name == b.name && a.type == b.type &&
    a.traits.databaseType.sameItem b.traits.databaseType &&
    a.traits.primaryKey.sameItem b.traits.primaryKey &&
    a.traits.autoIncrement.sameItem b.traits.autoIncrement &&
    a.traits.autoUpdate.sameItem b.traits.autoUpdate &&
    a.traits.default.agrees b.traits.default &&
    a.traits.nullable.sameItem b.traits.nullable &&
    a.traits.index.sameItem b.traits.index &&
    a.traits.unique.sameItem b.traits.unique &&
    a.traits.comment.sameItem b.traits.comment &&
    Value.allAgree a.validators b.validators

/-- Whether two lists of columns were declared alike. -/
def allAgree : List ColumnSignature → List ColumnSignature → Bool
  | [], [] => true
  | a :: as, b :: bs => a.agrees b && allAgree as bs
  | _, _ => false

end ColumnSignature

namespace Column

/-- The signature of a column. -/
def signature (column : Column) (environment : Environment) :
    Except ValueFault ColumnSignature := do
  let validators ← column.validators.items
  return {
    name := column.name
    type := column.type
    traits := { column.toColumnTraits with default := environment.freeze column.default }
    validators := validators.map environment.freeze }

/-- The signatures of columns in order. -/
def signatures (environment : Environment) : List Column → Except ValueFault (List ColumnSignature)
  | [] => .ok []
  | column :: rest => do
      let first ← column.signature environment
      return first :: (← signatures environment rest)

end Column

/-- What of a table's declaration counts for its being the same as another. -/
structure Signature where
  model : String
  name : String
  primaryKey : Option String
  autoUpdate : Option String
  columns : List ColumnSignature

namespace Signature

/-- Whether two tables were declared alike. -/
def agrees (a b : Signature) : Bool :=
  a.model == b.model && a.name == b.name && a.primaryKey == b.primaryKey &&
    a.autoUpdate == b.autoUpdate && ColumnSignature.allAgree a.columns b.columns

end Signature

namespace Table

/-- The signature of a table in an environment. -/
def signature (table : Table) (environment : Environment) : Except ValueFault Signature := do
  return {
    model := table.model
    name := table.name
    primaryKey := table.primaryKey
    autoUpdate := table.autoUpdate.map (·.name)
    columns := (← Column.signatures environment table.columns) }

/-- Whether two tables were declared alike, as things stand. -/
def sameSignature (a b : Table) (environment : Environment) : Except ValueFault Bool := do
  let first ← a.signature environment
  let second ← b.signature environment
  return first.agrees second

end Table

end RowMapper
