import RowMapper.Number.Decimal
import RowMapper.Schema.FieldType
import RowMapper.Timestamp

/-!
# Values

Attributes of records, parameters of statements and the contents of declarations are values of one
dynamic type. Besides plain data a value can be a field type, which also counts as the text of its
name, one of two markers, a routine, or an object of this library that a caller passed as data.
-/

namespace RowMapper

/-- What a routine does. The first group judges one argument, the second produces a value from
none, and the last three work in either place. -/
inductive Routine where
  | lengthAtMost
  | lengthWithin
  | atLeast
  | oneOf
  | notEmpty
  | notNull
  | accept
  | reject
  | echo
  | constant
  | counter
  | failing
  | sealed
  | length
  | truth
  | listing
  deriving DecidableEq

/-- The objects of this library that can occur as values. -/
inductive ObjectKind where
  | scalar
  | inSet
  | fieldMap
  | options
  | column
  deriving DecidableEq

/-- A dynamic value. A dictionary lists its entries in order of insertion. A routine has a mark
of its own, by which two occurrences of the same routine differ. -/
inductive Value where
  | null
  | bool (b : Bool)
  | int (n : Int)
  | float (x : Binary64)
  | text (s : String)
  | fieldType (type : FieldType)
  | octets (bytes : List UInt8)
  | list (items : List Value)
  | tuple (items : List Value)
  | dict (entries : List (Value × Value))
  | set (items : List Value)
  | timestamp (t : Timestamp)
  | unset
  | currentTime
  | routine (mark : Nat) (body : Routine) (arguments : List Value)
  | object (kind : ObjectKind) (slots : List Value)

instance : Inhabited Value := ⟨.null⟩

namespace ObjectKind

/-- The name of an object's kind in diagnostics. -/
def name : ObjectKind → String
  | .scalar => "Scalar"
  | .inSet => "InSet"
  | .fieldMap => "FieldMap"
  | .options => "QueryOptions"
  | .column => "FieldDescriptor"

/-- The names of an object's slots. -/
def slotNames : ObjectKind → List String
  | .scalar => ["value"]
  | .inSet => ["values"]
  | .fieldMap => ["items"]
  | .options => ["fields", "limit", "offset", "order_by", "count"]
  | .column =>
      ["name", "type", "db_type", "primary_key", "auto_increment", "auto_update", "default",
        "nullable", "index", "unique", "comment", "validators"]

end ObjectKind

namespace Routine

/-- Whether all occurrences of a routine are the same one. -/
def isShared : Routine → Bool
  | .length | .truth | .listing => true
  | _ => false

/-- The name of a routine's kind in diagnostics. -/
def kindName : Routine → String
  | .length => "builtin_function_or_method"
  | .truth | .listing => "type"
  | .sealed => "Opaque"
  | _ => "function"

end Routine

namespace Value

/-- The name of a value's kind in diagnostics. -/
def kindName : Value → String
  | .null => "NoneType"
  | .bool _ => "bool"
  | .int _ => "int"
  | .float _ => "float"
  | .text _ => "str"
  | .fieldType _ => "FieldType"
  | .octets _ => "bytes"
  | .list _ => "list"
  | .tuple _ => "tuple"
  | .dict _ => "dict"
  | .set _ => "set"
  | .timestamp _ => "datetime"
  | .unset => "_Unset"
  | .currentTime => "_CurrentTime"
  | .routine _ body _ => body.kindName
  | .object kind _ => kind.name

/-- The name of a value's kind in diagnostics about an operator that does not apply to it, where
timestamps go by their full name. -/
def operandName (v : Value) : String :=
  match v with
  | .timestamp _ => "datetime.datetime"
  | _ => v.kindName

/-- Whether a value counts as true: zeros, empty texts and containers, null and the unset marker
do not. -/
def truthy : Value → Bool
  | .null => false
  | .bool b => b
  | .int n => n != 0
  | .float x => !x.isZero
  | .text s => !s.isEmpty
  | .fieldType _ => true
  | .octets bytes => !bytes.isEmpty
  | .list items => !items.isEmpty
  | .tuple items => !items.isEmpty
  | .dict entries => !entries.isEmpty
  | .set items => !items.isEmpty
  | .timestamp _ => true
  | .unset => false
  | .currentTime => true
  | .routine .. => true
  | .object .. => true

/-- The text of a value that is one. -/
def text? : Value → Option String
  | .text s => some s
  | .fieldType type => some type.name
  | _ => none

/-- The number that a numeric value stands for; a truth value is one or zero. -/
def number? : Value → Option Number
  | .bool b => some (.finite (if b then 1 else 0))
  | .int n => some (.finite n)
  | .float x => some x.toNumber
  | _ => none

/-- Whether a value is a list or a tuple. -/
def isSequence : Value → Bool
  | .list _ | .tuple _ => true
  | _ => false

/-- The items of a list or a tuple. -/
def sequence? : Value → Option (List Value)
  | .list items | .tuple items => some items
  | _ => none

/-- Whether a value can be called. -/
def isCallable : Value → Bool
  | .routine .. => true
  | _ => false

/-- Whether a value is the unset marker. -/
def isUnset : Value → Bool
  | .unset => true
  | _ => false

/-- Whether a value is the marker of the current time. -/
def isCurrentTime : Value → Bool
  | .currentTime => true
  | _ => false

/-- Whether a value is null. -/
def isNull : Value → Bool
  | .null => true
  | _ => false

@[simp] theorem isUnset_eq_true {v : Value} : v.isUnset = true ↔ v = .unset := by
  cases v <;> simp [isUnset]

@[simp] theorem isCurrentTime_eq_true {v : Value} :
    v.isCurrentTime = true ↔ v = .currentTime := by
  cases v <;> simp [isCurrentTime]

@[simp] theorem isNull_eq_true {v : Value} : v.isNull = true ↔ v = .null := by
  cases v <;> simp [isNull]

end Value

end RowMapper
