import RowMapper.Text.Quoted
import RowMapper.Value.Dictionary

/-!
# JSON texts of values

A value is written as one line of ASCII: a comma and a space between items, a colon and a space
behind a key. Other characters are escaped by their UTF-16 units. Keys that are numbers, truth
values or null are written as the texts of those values. Values outside the JSON data model are
refused.
-/

namespace RowMapper.Json

/-- An escape of one UTF-16 unit. -/
def unitEscape (unit : Nat) : List Char :=
  '\\' :: 'u' :: Text.hexDigits 4 unit

/-- The UTF-16 units of a code point. -/
def units (n : Nat) : List Nat :=
  if n < 0x10000 then [n]
  else [0xD800 + (n - 0x10000) / 0x400, 0xDC00 + (n - 0x10000) % 0x400]

/-- One character inside a written text. -/
def escapeChar (c : Char) : List Char :=
  if c = '"' then ['\\', '"']
  else if c = '\\' then ['\\', '\\']
  else if c = '\n' then ['\\', 'n']
  else if c = '\r' then ['\\', 'r']
  else if c = '\t' then ['\\', 't']
  else if c = '\x0c' then ['\\', 'f']
  else if c = '\x08' then ['\\', 'b']
  else if 32 ≤ c.toNat && c.toNat < 127 then [c]
  else (units c.toNat).flatMap unitEscape

/-- A text between double quotes, escaped. -/
def writeText (s : String) : List Char :=
  '"' :: s.toList.flatMap escapeChar ++ ['"']

/-- The text of a binary fraction; the values that are no numbers have names. -/
def floatText (x : Binary64) : String :=
  match x with
  | .nan _ => "NaN"
  | .infinite negative => if negative then "-Infinity" else "Infinity"
  | .finite .. => x.text

/-- The text of a truth value. -/
def boolText (b : Bool) : String :=
  if b then "true" else "false"

/-- The text under which a key is written. -/
def keyText (key : Value) : Except ValueFault String :=
  match key with
  | .text s => .ok s
  | .fieldType type => .ok type.name
  | .float x => .ok (floatText x)
  | .bool b => .ok (boolText b)
  | .null => .ok "null"
  | .int n => .ok (decimalText n)
  | _ => .error (.keyNotSerializable key.operandName)

mutual

/-- The JSON text of a value. -/
def write : Value → Except ValueFault (List Char)
  | .null => .ok "null".toList
  | .bool b => .ok (boolText b).toList
  | .int n => .ok (decimalText n).toList
  | .float x => .ok (floatText x).toList
  | .text s => .ok (writeText s)
  | .fieldType type => .ok (writeText type.name)
  | .list items => do return '[' :: (← writeItems items) ++ [']']
  | .tuple items => do return '[' :: (← writeItems items) ++ [']']
  | .dict entries => do return '\x7b' :: (← writeEntries entries) ++ ['\x7d']
  | v => .error (.notSerializable v.kindName)

/-- The items of an array, with commas between them. -/
def writeItems : List Value → Except ValueFault (List Char)
  | [] => .ok []
  | v :: vs => do
      let first ← write v
      let rest ← writeItems vs
      return if vs.isEmpty then first else first ++ ',' :: ' ' :: rest

/-- The entries of an object, with commas between them. -/
def writeEntries : List (Value × Value) → Except ValueFault (List Char)
  | [] => .ok []
  | (key, v) :: entries => do
      let name ← keyText key
      let value ← write v
      let rest ← writeEntries entries
      let first := writeText name ++ ':' :: ' ' :: value
      return if entries.isEmpty then first else first ++ ',' :: ' ' :: rest

end

end RowMapper.Json
