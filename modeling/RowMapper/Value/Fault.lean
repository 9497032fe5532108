import RowMapper.Json.Problem
import RowMapper.Timestamp
import RowMapper.Value.Printed

/-!
# Faults of operations on values

An operation that does not apply to its operands answers with the cause. `message` words a cause,
and `family` tells causes that a caller may want to tell apart.
-/

namespace RowMapper

/-- The families of faults. -/
inductive FaultFamily where
  | type
  | value
  | member
  | key
  | overflow
  | json
  | encoding
  | depth
  deriving DecidableEq

/-- Why an operation on values failed. Kinds of values appear by their names. -/
inductive ValueFault where
  | notIterable (kind : String)
  | notSized (kind : String)
  | notOrdered (operator left right : String)
  | mixedOffsets
  | notMultipliable (kind : String)
  | unhashable (kind : String)
  | missingAttribute (kind member : String)
  | missingTypeAttribute (type member : String)
  | nothingToDelete (kind member : String)
  | readOnlyAttribute (kind member : String)
  | badAttributeKind (member wanted kind : String)
  | badAttributeName (kind : String)
  | fixedClass
  | foreignClass
  | managerOnInstance
  | notCallable (kind : String)
  | missingOperand (routine : String)
  | notReceiver (kind : String)
  | noSuccessor (kind : String)
  | notConcatenable (kind : String)
  | octetsNotConcatenable
  | notUnpackable (kind : String)
  | tooFewParts (count : Nat)
  | tooManyParts
  | notJoinable
  | itemNotText (index : Nat) (kind : String)
  | pairNotSequence (index : Nat)
  | pairLength (index length : Nat)
  | replaceInOctets
  | replaceInTimestamp
  | notSerializable (kind : String)
  | keyNotSerializable (kind : String)
  | badIntegerText (printed : String)
  | tooManyDigits (count : Nat)
  | noInteger (kind : String)
  | integerOfNaN
  | integerOfInfinity
  | notContainer (kind : String)
  | textMembership (kind : String)
  | octetsMembership (kind : String)
  | octetRange
  | badTextIndex (kind : String)
  | badIndex (container kind : String)
  | notSubscriptable (kind : String)
  | noItemAssignment (kind : String)
  | missingItem (key : Value)
  | badJson (problem : Json.Problem) (line column position : Nat)
  | undecodable
  | tooDeep
  | badTimestamp (fault : Timestamp.Fault)
  | raised (text : String)

namespace ValueFault

/-- The family of a fault. -/
def family : ValueFault → FaultFamily
  | .missingAttribute .. | .missingTypeAttribute .. | .nothingToDelete .. | .readOnlyAttribute ..
  | .managerOnInstance => .member
  | .missingItem _ => .key
  | .tooFewParts _ | .tooManyParts | .octetRange | .pairLength .. | .badIntegerText _
  | .tooManyDigits _ | .integerOfNaN | .raised _ => .value
  | .badTimestamp fault => if fault.isOverflow then .overflow else .value
  | .integerOfInfinity => .overflow
  | .badJson .. => .json
  | .undecodable => .encoding
  | .tooDeep => .depth
  | _ => .type

/-- The first characters of a text: some wordings quote no more of it. -/
def cut (count : Nat) (s : String) : String :=
  .ofList (s.toList.take count)

/-- The wording of a fault. -/
def message : ValueFault → String
  | .notIterable kind => "'" ++ kind ++ "' object is not iterable"
  | .notSized kind => "object of type '" ++ kind ++ "' has no len()"
  | .notOrdered operator left right =>
      "'" ++ operator ++ "' not supported between instances of '" ++ left ++ "' and '" ++ right ++
        "'"
  | .mixedOffsets => "can't compare offset-naive and offset-aware datetimes"
  | .notMultipliable kind =>
      "unsupported operand type(s) for *: '" ++ kind ++ "' and 'int'"
  | .unhashable kind => "unhashable type: '" ++ kind ++ "'"
  | .missingAttribute kind member =>
      "'" ++ cut 50 kind ++ "' object has no attribute '" ++ member ++ "'"
  | .missingTypeAttribute type member =>
      "type object '" ++ type ++ "' has no attribute '" ++ member ++ "'"
  | .nothingToDelete kind member =>
      "'" ++ kind ++ "' object has no attribute '" ++ member ++ "'"
  | .readOnlyAttribute kind member =>
      "attribute '" ++ member ++ "' of '" ++ kind ++ "' objects is not writable"
  | .badAttributeKind member wanted kind =>
      member ++ " must be set to a " ++ wanted ++ ", not " ++ kind
  | .badAttributeName kind => "attribute name must be string, not '" ++ kind ++ "'"
  | .fixedClass => "can't delete __class__ attribute"
  | .foreignClass =>
      "__class__ assignment only supported for mutable types or ModuleType subclasses"
  | .managerOnInstance => "objects is only accessible on the model class"
  | .notCallable kind => "'" ++ kind ++ "' object is not callable"
  | .missingOperand routine => routine ++ "() takes exactly one argument (0 given)"
  | .notReceiver kind =>
      "descriptor 'append' for 'list' objects doesn't apply to a '" ++ kind ++ "' object"
  | .noSuccessor kind => "unsupported operand type(s) for +=: '" ++ kind ++ "' and 'int'"
  | .notConcatenable kind => "can only concatenate " ++ kind ++ " (not \"int\") to " ++ kind
  | .octetsNotConcatenable => "can't concat int to bytes"
  | .notUnpackable kind => "cannot unpack non-iterable " ++ kind ++ " object"
  | .tooFewParts count =>
      "not enough values to unpack (expected 2, got " ++ Nat.repr count ++ ")"
  | .tooManyParts => "too many values to unpack (expected 2)"
  | .notJoinable => "can only join an iterable"
  | .itemNotText index kind =>
      "sequence item " ++ Nat.repr index ++ ": expected str instance, " ++ kind ++ " found"
  | .pairNotSequence index =>
      "cannot convert dictionary update sequence element #" ++ Nat.repr index ++ " to a sequence"
  | .pairLength index length =>
      "dictionary update sequence element #" ++ Nat.repr index ++ " has length " ++
        Nat.repr length ++ "; 2 is required"
  | .replaceInOctets => "a bytes-like object is required, not 'str'"
  | .replaceInTimestamp => "'str' object cannot be interpreted as an integer"
  | .notSerializable kind => "Object of type " ++ kind ++ " is not JSON serializable"
  | .keyNotSerializable kind => "keys must be str, int, float, bool or None, not " ++ kind
  | .badIntegerText printed => "invalid literal for int() with base 10: " ++ cut 200 printed
  | .tooManyDigits count =>
      "Exceeds the limit (4300 digits) for integer string conversion: value has " ++
        Nat.repr count ++ " digits; use sys.set_int_max_str_digits() to increase the limit"
  | .noInteger kind =>
      "int() argument must be a string, a bytes-like object or a real number, not '" ++ kind ++
        "'"
  | .integerOfNaN => "cannot convert float NaN to integer"
  | .integerOfInfinity => "cannot convert float infinity to integer"
  | .notContainer kind => "argument of type '" ++ kind ++ "' is not iterable"
  | .textMembership kind => "'in <string>' requires string as left operand, not " ++ kind
  | .octetsMembership kind => "a bytes-like object is required, not '" ++ kind ++ "'"
  | .octetRange => "byte must be in range(0, 256)"
  | .badTextIndex kind => "string indices must be integers, not '" ++ kind ++ "'"
  | .badIndex container kind => container ++ " indices must be integers or slices, not " ++ kind
  | .notSubscriptable kind => "'" ++ kind ++ "' object is not subscriptable"
  | .noItemAssignment kind => "'" ++ kind ++ "' object does not support item assignment"
  | .missingItem key => key.printed
  | .badJson problem line column position =>
      problem.message ++ ": line " ++ Nat.repr line ++ " column " ++ Nat.repr column ++ " (char " ++
        Nat.repr position ++ ")"
  | .undecodable => "the octets are not text in the detected encoding"
  | .tooDeep => "the value is nested too deeply"
  | .badTimestamp fault => fault.message
  | .raised text => text

end ValueFault

namespace Value

/-- The fault of a value that has no attribute of a given name. -/
def lacks (v : Value) (member : String) : ValueFault :=
  match v with
  | .routine _ .truth _ => .missingTypeAttribute "bool" member
  | .routine _ .listing _ => .missingTypeAttribute "list" member
  | _ => .missingAttribute v.operandName member

end Value

end RowMapper
