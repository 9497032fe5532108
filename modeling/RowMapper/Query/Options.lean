import RowMapper.Fault
import RowMapper.Value.Sequence

/-!
# Read options

What a reading query returns, in which order and how much of it. A projection or an order given
as a text is used as it stands; a projection given as a collection holds column names, which are
quoted.
-/

namespace RowMapper

/-- The options of a reading query. -/
structure ReadOptions where
  fields : Value
  limit : Option Nat
  offset : Option Nat
  orderBy : Value
  count : Value

namespace ReadOptions

/-- Options that restrict nothing. -/
def standard : ReadOptions := ⟨.null, none, none, .null, .null⟩

/-- The options as a value. -/
def toValue (options : ReadOptions) : Value :=
  let number (n : Option Nat) : Value := (n.map fun n => Value.int n).getD .null
  .object .options
    [options.fields, number options.limit, number options.offset, options.orderBy, options.count]

/-- The natural number that limits or offsets a result, or null. -/
def naturalOption (name : String) (v : Value) : Except Fault (Option Nat) :=
  match v with
  | .null => .ok none
  | .int n => if n < 0 then .error (.badLimit name v) else .ok (some n.toNat)
  | _ => .error (.badLimit name v)

/-- Options from the values of their parts. -/
def ofParts (fields limit offset orderBy count : Value) : Except Fault ReadOptions := do
  let limit ← naturalOption "limit" limit
  let offset ← naturalOption "offset" offset
  return ⟨fields, limit, offset, orderBy, count⟩

/-- The parts of the options by name, with another spelling of one of them. -/
def partName? (key : Value) : Option String := do
  let name ← key.text?
  let name := if name = "orderBy" then "order_by" else name
  if ObjectKind.options.slotNames.contains name then some name else none

/-- The parts that the entries of a mapping set, where a later entry overrides an earlier one. -/
def partsOfEntries : Entries → Except Fault (List (String × Value))
  | [] => .ok []
  | (key, v) :: rest => do
      match partName? key with
      | none => throw (.unknownOption key)
      | some name => return (← partsOfEntries rest) ++ [(name, v)]

/-- Options from named parts, of which the first under a name counts; the others are null. -/
def ofNamedParts (parts : List (String × Value)) : Except Fault ReadOptions :=
  let part (name : String) : Value := (parts.lookup name).getD .null
  ofParts (part "fields") (part "limit") (part "offset") (part "order_by") (part "count")

/-- The options that a value stands for: null for none, options, or a mapping of their parts. -/
def ofValue (v : Value) : Except Fault ReadOptions :=
  match v with
  | .null => .ok standard
  | .object .options [fields, limit, offset, orderBy, count] =>
      ofParts fields limit offset orderBy count
  | .dict entries => do ofNamedParts (← partsOfEntries entries)
  | _ => .error (.badOptions v.kindName)

end ReadOptions

end RowMapper
