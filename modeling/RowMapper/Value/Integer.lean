import RowMapper.Text.Digit
import RowMapper.Value.Fault

/-!
# Integers read from values

A number is read as an integer by dropping its fraction. A text or octets are read as a decimal
integer: blanks around it, a sign and single underscores between digits are allowed, and the
digits may be those of any script. Texts of more than 4300 digits are refused.
-/

namespace RowMapper

/-- The greatest count of digits in the text of an integer. -/
def maxIntegerDigits : Nat := 4300

/-- Why a text is no integer. -/
inductive IntegerFault where
  | malformed
  | tooLong (digits : Nat)

namespace IntegerFault

/-- The fault of a value with a given printed form. -/
def toValueFault (printed : String) : IntegerFault → ValueFault
  | .malformed => .badIntegerText printed
  | .tooLong digits => .tooManyDigits digits

end IntegerFault

/-- What an unsigned integer text consists of. -/
def isIntegerPart (c : Char) : Bool :=
  c.isDigit || c = '_'

/-- The digits of an unsigned integer text. An underscore stands between two digits. -/
def integerDigits? : List Char → Option (List Char)
  | [] => none
  | [c] => if c.isDigit then some [c] else none
  | c :: '_' :: rest => if c.isDigit then (integerDigits? rest).map (c :: ·) else none
  | c :: rest => if c.isDigit then (integerDigits? rest).map (c :: ·) else none

/-- The integer written by a text: blanks, a sign, then the run of digits and underscores, and
blanks again. The run is judged before what follows it, so a run that is too long is refused as
such whatever comes after it. -/
def readInteger (cs : List Char) : Except IntegerFault Int :=
  let (negative, body) := match (cs.dropWhile Text.isNumberBlank).map Text.westernDigit with
    | '-' :: rest => (true, rest)
    | '+' :: rest => (false, rest)
    | rest => (false, rest)
  match integerDigits? (body.takeWhile isIntegerPart) with
  | none => .error .malformed
  | some digits =>
      if maxIntegerDigits < digits.length then .error (.tooLong digits.length)
      else if (body.dropWhile isIntegerPart).all Text.isNumberBlank then
        .ok (Binary64.signed negative (naturalOfDigits digits))
      else .error .malformed

namespace Binary64

/-- The integer that a value stands for when its fraction is dropped. -/
def toInteger (x : Binary64) : Except ValueFault Int :=
  match x with
  | .nan _ => .error .integerOfNaN
  | .infinite _ => .error .integerOfInfinity
  | .finite .. => .ok (x.truncate?.getD 0)

end Binary64

namespace Value

/-- The integer that a value stands for. -/
def toInteger (v : Value) : Except ValueFault Int :=
  match v with
  | .bool b => .ok (if b then 1 else 0)
  | .int n => .ok n
  | .float x => x.toInteger
  | .text s => (readInteger s.toList).mapError (·.toValueFault v.printed)
  | .fieldType type => (readInteger type.name.toList).mapError (·.toValueFault v.printed)
  | .octets bytes =>
      (readInteger (bytes.map fun octet =>
        if octet < 128 then Char.ofNat octet.toNat else '?')).mapError (·.toValueFault v.printed)
  | _ => .error (.noInteger v.operandName)

/-- Items a thousand times over. -/
def thousandTimes {α : Type} (items : List α) : List α :=
  (List.replicate 1000 items).flatten

/-- A value a thousand times over: a number is multiplied, a text or a sequence is repeated, and
nothing else has a multiple. -/
def thousandfold (v : Value) : Except ValueFault Value :=
  match v with
  | .bool b => .ok (.int (if b then 1000 else 0))
  | .int n => .ok (.int (n * 1000))
  | .float x => .ok (.float (x.scale 1000))
  | .text s => .ok (.text (.ofList (thousandTimes s.toList)))
  | .fieldType type => .ok (.text (.ofList (thousandTimes type.name.toList)))
  | .octets bytes => .ok (.octets (thousandTimes bytes))
  | .list items => .ok (.list (thousandTimes items))
  | .tuple items => .ok (.tuple (thousandTimes items))
  | _ => .error (.notMultipliable v.operandName)

end Value

end RowMapper
