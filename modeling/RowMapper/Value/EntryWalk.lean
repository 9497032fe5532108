import RowMapper.Value.Sequence

/-!
# Entries one after the other

Entries are mostly those of a dictionary. They can also come from a collection whose items are
taken apart one by one, and then going through them may end in a fault, which does not undo what
was done with the entries before it. `EntryWalk` holds what there was to go through.
-/

namespace RowMapper

/-- Entries gone through one after the other, the dictionary that they make up, and the fault at
which the walk ended, if it did not come to the end. -/
structure EntryWalk where
  entries : Entries
  dictionary : Entries
  fault : Option ValueFault

namespace EntryWalk

/-- The walk through the entries of a dictionary. -/
def ofEntries (entries : Entries) : EntryWalk := ⟨entries, entries, none⟩

/-- A walk through entries in which a key may occur again. -/
def ofRun (entries : Entries) (fault : Option ValueFault) : EntryWalk :=
  ⟨entries, Entries.insertAll [] entries, fault⟩

/-- The two parts of an item that is taken for an entry. -/
def unpack (item : Value) : Except ValueFault (Value × Value) :=
  match item.items? with
  | none => .error (.notUnpackable item.operandName)
  | some [key, v] => .ok (key, v)
  | some (_ :: _ :: _ :: _) => .error .tooManyParts
  | some parts => .error (.tooFewParts parts.length)

/-- The parts of items up to the first that has none. -/
def unpackAll : List Value → Entries × Option ValueFault
  | [] => ([], none)
  | item :: rest =>
      match unpack item with
      | .error fault => ([], some fault)
      | .ok entry =>
          let (entries, fault) := unpackAll rest
          (entry :: entries, fault)

/-- The walk through items that are taken for entries. -/
def ofItems (items : List Value) : EntryWalk :=
  let (entries, fault) := unpackAll items
  ofRun entries fault

/-- Entries up to the first whose key cannot be looked up. -/
def takeKeyed (fault : Option ValueFault) : Entries → Entries × Option ValueFault
  | [] => ([], fault)
  | entry :: rest =>
      match entry.1.asKey with
      | .error unhashable => ([], some unhashable)
      | .ok _ =>
          let (entries, fault) := takeKeyed fault rest
          (entry :: entries, fault)

/-- The walk as far as its keys can be looked up. -/
def keyed (walk : EntryWalk) : EntryWalk :=
  let (entries, fault) := takeKeyed walk.fault walk.entries
  ofRun entries fault

/-- An answer that stands only if the walk came to its end. -/
def finish {α : Type} (walk : EntryWalk) (answer : α) : Except ValueFault α :=
  match walk.fault with
  | some fault => .error fault
  | none => .ok answer

@[simp] theorem finish_ofEntries {α : Type} (entries : Entries) (answer : α) :
    (ofEntries entries).finish answer = .ok answer := rfl

end EntryWalk

end RowMapper
