import RowMapper.Session

/-!
# Records

A record is an instance of a model: attributes with values, one for each field and perhaps more.
A field without a value holds the unset marker. An attribute remembers which routine handed out
its value, since such a value is shared: appending to it shows in every record that has it. An
attribute under the name of an operation takes the place of that operation.
-/

namespace RowMapper

/-- A value of a record, with the mark of the routine that shares it. -/
structure Attribute where
  value : Value
  source : Option Nat

/-- An instance of a model, with its attributes in the order in which they were set. They stand
under names, unless they were replaced as a whole by a dictionary with other keys. Under some names
a record has a value from the start, until an attribute takes its place. -/
structure Record where
  model : String
  attributes : List (Value × Attribute)
  inherited : List (String × Value)

namespace Record

/-- A record without attributes. -/
def blank (model : String) (inherited : List (String × Value)) : Record := ⟨model, [], inherited⟩

/-- Names that every record answers to beside its attributes, by the kind of what stands there: the
operations on records, what they are built on, and what every object has. -/
def memberKinds : List (String × List String) :=
  [("function", ["_primary_key_value", "is_set", "to_dict", "validate", "save", "update", "remove",
      "__init__", "__repr__", "__eq__"]),
    ("ModelMetadata", ["_meta"]), ("ModelRegistry", ["_registry"]), ("type", ["__class__"]),
    ("NoneType", ["__hash__", "__doc__", "__weakref__"]), ("str", ["__module__"]),
    ("dict", ["__annotations__", "__dict__"]),
    ("method-wrapper", ["__delattr__", "__ge__", "__getattribute__", "__gt__", "__le__", "__lt__",
      "__ne__", "__setattr__", "__str__"]),
    ("builtin_function_or_method", ["__dir__", "__format__", "__getstate__", "__init_subclass__",
      "__new__", "__reduce__", "__reduce_ex__", "__sizeof__", "__subclasshook__"])]

/-- The kind of what stands under a name that every record answers to. -/
def memberKind? (name : String) : Option String :=
  (memberKinds.find? (·.2.contains name)).map (·.1)

/-- Whether an attribute stands under a name. -/
def isUnder (name : String) (entry : Value × Attribute) : Bool :=
  entry.1.text? = some name

/-- The attribute of a name. -/
def attribute? (record : Record) (name : String) : Option Attribute :=
  (record.attributes.find? (isUnder name)).map (·.2)

/-- The attributes as a dictionary. -/
def entries (record : Record) : Entries :=
  record.attributes.map fun (key, slot) => (key, slot.value)

/-- The value under a name, if the record has one. Two names stand for the record itself: the
dictionary of all its attributes, and the list of references to it, which is always null. -/
def value? (record : Record) (name : String) : Option Value :=
  if name = "__dict__" then some (.dict record.entries)
  else if name = "__weakref__" then some .null
  else ((record.attribute? name).map (·.value)).or (record.inherited.lookup name)

/-- The value under a name, which the record has to have. -/
def get (record : Record) (name : String) : Except ValueFault Value :=
  match record.value? name with
  | some v => .ok v
  | none => .error (.missingAttribute record.model name)

/-- Put an attribute in its place, or behind the others if it is new. -/
def putAttribute (label : Name) (slot : Attribute) :
    List (Value × Attribute) → List (Value × Attribute)
  | [] => [(label.toValue, slot)]
  | entry :: rest =>
      if isUnder label.toText entry then (entry.1, slot) :: rest
      else entry :: putAttribute label slot rest

@[simp] theorem find?_putAttribute_self (label : Name) (slot : Attribute)
    (attributes : List (Value × Attribute)) :
    ((putAttribute label slot attributes).find? (isUnder label.toText)).map (·.2) = some slot := by
  induction attributes with
  | nil => simp [putAttribute, isUnder]
  | cons entry rest ih =>
      by_cases h : isUnder label.toText entry = true
      · have hkey : isUnder label.toText (entry.1, slot) = true := h
        simp [putAttribute, h, hkey]
      · simp [putAttribute, h, ih]

theorem find?_putAttribute_of_ne {label : Name} {name : String} (slot : Attribute)
    (attributes : List (Value × Attribute)) (h : name ≠ label.toText) :
    ((putAttribute label slot attributes).find? (isUnder name)).map (·.2) =
      (attributes.find? (isUnder name)).map (·.2) := by
  have hother : ¬ label.toText = name := fun equal => h equal.symm
  induction attributes with
  | nil => simp [putAttribute, isUnder, hother]
  | cons entry rest ih =>
      by_cases hentry : isUnder label.toText entry = true
      · have hkey : entry.1.text? = some label.toText := by simpa [isUnder] using hentry
        simp [putAttribute, isUnder, hkey, hother]
      · by_cases hname : isUnder name entry = true
        · simp [putAttribute, hentry, hname]
        · simp [putAttribute, hentry, hname, ih]

/-- Set an attribute. -/
def put (record : Record) (label : Name) (v : Value) (source : Option Nat) : Record :=
  { record with attributes := putAttribute label ⟨v, source⟩ record.attributes }

@[simp] theorem attribute?_put_self (record : Record) (label : Name) (v : Value)
    (source : Option Nat) :
    (record.put label v source).attribute? label.toText = some ⟨v, source⟩ :=
  find?_putAttribute_self label ⟨v, source⟩ record.attributes

theorem attribute?_put_of_ne (record : Record) {label : Name} {name : String} (v : Value)
    (source : Option Nat) (h : name ≠ label.toText) :
    (record.put label v source).attribute? name = record.attribute? name :=
  find?_putAttribute_of_ne ⟨v, source⟩ record.attributes h

theorem value?_put_self (record : Record) (label : Name) (v : Value) (source : Option Nat)
    (hdict : label.toText ≠ "__dict__") (href : label.toText ≠ "__weakref__") :
    (record.put label v source).value? label.toText = some v := by
  simp [value?, hdict, href]

theorem value?_put_of_ne (record : Record) {label : Name} {name : String} (v : Value)
    (source : Option Nat) (h : name ≠ label.toText) (hdict : name ≠ "__dict__") :
    (record.put label v source).value? name = record.value? name := by
  simp only [value?, if_neg hdict, attribute?_put_of_ne record v source h]
  rfl

/-- The attributes that the entries of a dictionary are. -/
def attributesOfEntries (entries : Entries) : List (Value × Attribute) :=
  entries.map fun (key, v) => (key, ⟨v, none⟩)

/-- Refuse another class for a record. -/
def refuseClass (v : Value) : ValueFault :=
  match v with
  | .routine _ .truth _ | .routine _ .listing _ => .foreignClass
  | _ => .badAttributeKind "__class__" "class" ("'" ++ v.operandName ++ "' object")

/-- Set an attribute by name. Three names stand for the record itself: its class, the dictionary
of all its attributes, which only another dictionary can replace, and the list of references to
it. -/
def assign (record : Record) (label : Name) (v : Value) (source : Option Nat) :
    Except ValueFault Record :=
  let name := label.toText
  if name = "__class__" then .error (refuseClass v)
  else if name = "__weakref__" then .error (.readOnlyAttribute "Model" name)
  else if name = "__dict__" then
    match v with
    | .dict entries => .ok { record with attributes := attributesOfEntries entries }
    | _ => .error (.badAttributeKind name "dictionary" ("a '" ++ v.operandName ++ "'"))
  else .ok (record.put label v source)

/-- Remove an attribute, which the record has to have. The class of a record and the list of
references to it stay; without its dictionary it has no attributes. -/
def delete (record : Record) (name : String) : Except ValueFault Record :=
  if name = "__class__" then .error .fixedClass
  else if name = "__weakref__" then .error (.readOnlyAttribute "Model" name)
  else if name = "__dict__" then .ok { record with attributes := [] }
  else
    match record.attribute? name with
    | some _ => .ok { record with attributes := record.attributes.filter (!isUnder name ·) }
    | none => .error (.nothingToDelete record.model name)

/-- The value under a name as a caller asks for it. The manager of a model cannot be had from a
record. -/
def read (record : Record) (name : String) : Except ValueFault Value :=
  match record.value? name with
  | some v => .ok v
  | none => if name = "objects" then .error .managerOnInstance else record.get name

/-- What stands under a name and takes items at its end. -/
def target (record : Record) (name : String) : Except ValueFault Value :=
  match record.value? name with
  | some v => if v.takesItems then .ok v else .error (v.lacks "append")
  | none =>
      if name = "__class__" then .error (.missingTypeAttribute record.model "append")
      else
        match memberKind? name with
        | some kind => .error (.missingAttribute kind "append")
        | none => record.read name

/-- Run an operation on the record that goes by a name. An attribute of that name is called in its
place. -/
def calling (record : Record) (name : String) (given : Option Value) (operation : Action Value) :
    Action Value :=
  match record.value? name with
  | some routine => Action.inEnvironment (routine.call given)
  | none => operation

/-- Whether there is anything but the unset marker under a name. -/
def isSet (record : Record) (name : String) : Bool :=
  match record.value? name with
  | some v => !v.isUnset
  | none => (memberKind? name).isSome

/-- Change the values that a routine shares, in one of the records that have them. -/
def reshare (record : Record) (mark : Nat) (v : Value) : Record :=
  { record with
    attributes := record.attributes.map fun (key, slot) =>
      (key, if slot.source = some mark then { slot with value := v } else slot) }

end Record

end RowMapper
