import RowMapper.Name
import RowMapper.Value.Dictionary

/-!
# Values as collections

Which values can be gone through item by item, counted, searched for an item, or turned into a
dictionary, and with which diagnosis the others are refused.
-/

namespace RowMapper

namespace Value

/-- The items of a value that can be gone through: the characters of a text, the octets as
numbers, the keys of a dictionary. -/
def items? : Value → Option (List Value)
  | .text s => some (s.toList.map fun c => .text (String.singleton c))
  | .fieldType type => some (type.name.toList.map fun c => .text (String.singleton c))
  | .octets bytes => some (bytes.map fun octet => .int octet.toNat)
  | .list items | .tuple items | .set items => some items
  | .dict entries => some (Entries.keys entries)
  | _ => none

/-- The items of a value, which others do not have. -/
def items (v : Value) : Except ValueFault (List Value) :=
  match v.items? with
  | some items => .ok items
  | none => .error (.notIterable v.operandName)

/-- The count of a value's items. -/
def size (v : Value) : Except ValueFault Nat :=
  match v.items? with
  | some items => .ok items.length
  | none => .error (.notSized v.operandName)

/-- Whether a list occurs in another as a block. -/
def blockIn {α : Type} [BEq α] (block : List α) : List α → Bool
  | [] => block.isEmpty
  | a :: rest => block.isPrefixOf (a :: rest) || blockIn block rest

/-- Whether octets contain a value: another block of octets, or a number that is an octet. -/
def octetsContain (bytes : List UInt8) (item : Value) : Except ValueFault Bool :=
  match item with
  | .octets block => .ok (blockIn block bytes)
  | .int n =>
      if n < 0 || 256 ≤ n then .error .octetRange else .ok (bytes.any fun octet => octet.toNat == n)
  | .bool b => .ok (bytes.contains (if b then 1 else 0))
  | _ => .error (.octetsMembership item.operandName)

/-- Whether an item is found in a value: as an item, as a key, or as a part of a text. What is
looked up as a key has to be able to be one, but a set may be asked for in a set. -/
def contains (v item : Value) : Except ValueFault Bool :=
  match v with
  | .text _ | .fieldType _ =>
      match item.text? with
      | some part => .ok (blockIn part.toList (v.text?.getD "").toList)
      | none => .error (.textMembership item.operandName)
  | .octets bytes => octetsContain bytes item
  | .list items | .tuple items => .ok (occursIn item items)
  | .set items =>
      match item with
      | .set _ => .ok false
      | _ => item.asKey.map fun key => occursIn key items
  | .dict entries => item.asKey.map fun key => Entries.has entries key
  | _ => .error (.notContainer v.operandName)

/-- The value under a name. Only dictionaries have one. -/
def atName (v : Value) (name : Name) : Except ValueFault Value :=
  match v with
  | .dict entries =>
      match Entries.find? entries name.toValue with
      | some value => .ok value
      | none => .error (.missingItem name.toValue)
  | .text _ | .fieldType _ => .error (.badTextIndex name.toValue.kindName)
  | .octets _ => .error (.badIndex "byte" name.toValue.kindName)
  | .list _ => .error (.badIndex "list" name.toValue.kindName)
  | .tuple _ => .error (.badIndex "tuple" name.toValue.kindName)
  | _ => .error (.notSubscriptable v.operandName)

/-- A value with another value under a name. Only dictionaries can be written to. -/
def setAt (v : Value) (name : Name) (item : Value) : Except ValueFault Value :=
  match v with
  | .dict entries => .ok (.dict (Entries.insert name.toValue item entries))
  | .list _ => .error (.badIndex "list" name.toValue.kindName)
  | _ => .error (.noItemAssignment v.operandName)

/-- Whether items can be appended to a value, or at least an operation of that name is there. -/
def takesItems : Value → Bool
  | .list _ | .routine _ .listing _ => true
  | _ => false

/-- A list with an item at its end. The routine that makes lists has the operation as well, but
there it wants a list before the item. -/
def append (v item : Value) : Except ValueFault Value :=
  match v with
  | .list items => .ok (.list (items ++ [item]))
  | .routine _ .listing _ =>
      match item with
      | .list _ => .error (.missingOperand "list.append")
      | _ => .error (.notReceiver item.operandName)
  | _ => .error (v.lacks "append")

/-- The two items of the `index`-th pair that a dictionary is made from. -/
def pairAt (index : Nat) (v : Value) : Except ValueFault (Value × Value) :=
  match v.items? with
  | none => .error (.pairNotSequence index)
  | some [key, value] => .ok (key, value)
  | some items => .error (.pairLength index items.length)

/-- Entries from values that are pairs, numbered from `index`. -/
def entriesOfItems (entries : Entries) (index : Nat) :
    List Value → Except ValueFault Entries
  | [] => .ok entries
  | v :: rest => do
      let (key, value) ← pairAt index v
      entriesOfItems (← entriesWith entries key value) (index + 1) rest

/-- The entries of a value taken as a dictionary: those of a dictionary, or the pairs that any
other collection holds. -/
def toEntries (v : Value) : Except ValueFault Entries :=
  match v with
  | .dict entries => .ok entries
  | _ => do entriesOfItems [] 0 (← v.items)

end Value

end RowMapper
