import RowMapper.Value.Equality
import RowMapper.Value.Fault

/-!
# Dictionaries

A dictionary keeps its entries in order of insertion. A key occurs once, and writing under a key
that is present keeps its place and its first spelling. Lists, dictionaries and sets, and whatever
contains them, cannot be keys.
-/

namespace RowMapper

/-- The entries of a dictionary in order of insertion. -/
abbrev Entries := List (Value × Value)

namespace Entries

/-- The value under a key. -/
def find? (entries : Entries) (key : Value) : Option Value :=
  (List.find? (fun entry => Value.sameItem entry.1 key) entries).map (·.2)

/-- Whether a key is present. -/
def has (entries : Entries) (key : Value) : Bool :=
  entries.any fun entry => Value.sameItem entry.1 key

/-- Write a value under a key. -/
def insert (key value : Value) : Entries → Entries
  | [] => [(key, value)]
  | entry :: rest =>
      if Value.sameItem entry.1 key then (entry.1, value) :: rest
      else entry :: insert key value rest

/-- Write entries one after the other. -/
def insertAll (entries : Entries) (more : Entries) : Entries :=
  more.foldl (fun done entry => done.insert entry.1 entry.2) entries

/-- The keys in order. -/
def keys (entries : Entries) : List Value :=
  entries.map (·.1)

/-- The values in order of their keys. -/
def values (entries : Entries) : List Value :=
  entries.map (·.2)

end Entries

namespace Value

mutual

/-- The kind of the part of a value that keeps it from being a key. -/
def unhashablePart? : Value → Option String
  | .list _ => some "list"
  | .dict _ => some "dict"
  | .set _ => some "set"
  | .tuple items => unhashableItem? items
  | .object _ slots => unhashableItem? slots
  | _ => none

/-- The first item of a sequence that cannot be a key, by the kind of the part at fault. -/
def unhashableItem? : List Value → Option String
  | [] => none
  | v :: vs => (unhashablePart? v).or (unhashableItem? vs)

end

/-- A value that can be a key. -/
def asKey (v : Value) : Except ValueFault Value :=
  match v.unhashablePart? with
  | some kind => .error (.unhashable kind)
  | none => .ok v

/-- Entries with one more, whose key has to be able to be one. -/
def entriesWith (entries : Entries) (key v : Value) : Except ValueFault Entries :=
  key.asKey.map fun key => entries.insert key v

end Value

end RowMapper
