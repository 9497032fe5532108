import RowMapper.Text.Encoding
import RowMapper.Value.Dictionary
import RowMapper.Value.Integer

/-!
# Reading JSON texts

The reader accepts the documents of the standard and three more numbers, `NaN` and the two
infinities. A failure tells what is wrong and how many characters are left at that point, from
which its line and column follow. The recursion runs on fuel, of which every document has enough,
since each step into a container uses up a character.
-/

namespace RowMapper.Json

/-- Why a text was not read. -/
inductive Failure where
  | problem (what : Problem) (left : Nat)
  | number (digits : Nat)
  | depth

/-- Something read from the front of a text, and the rest of the text. -/
abbrev Reading (α : Type) := Except Failure (α × List Char)

/-- The nesting that a reader follows. -/
def maxDepth : Nat := 990

/-- Blanks between the tokens of a document. -/
def isSpace (c : Char) : Bool :=
  c = ' ' || c = '\t' || c = '\n' || c = '\r'

/-- Drop blanks between tokens. -/
def skipSpaces (cs : List Char) : List Char :=
  cs.dropWhile isSpace

/-- What follows a fixed text at the front of another. -/
def dropExact? : List Char → List Char → Option (List Char)
  | [], cs => some cs
  | _ :: _, [] => none
  | k :: ks, c :: cs => if k = c then dropExact? ks cs else none

/-- The value of a hexadecimal digit. -/
def hexValue? (c : Char) : Option Nat :=
  if '0' ≤ c && c ≤ '9' then some (c.toNat - '0'.toNat)
  else if 'a' ≤ c && c ≤ 'f' then some (c.toNat - 'a'.toNat + 10)
  else if 'A' ≤ c && c ≤ 'F' then some (c.toNat - 'A'.toNat + 10)
  else none

/-- The number of four hexadecimal digits. -/
def unit? (a b c d : Char) : Option Nat := do
  return ((← hexValue? a) * 16 + (← hexValue? b)) * 256 + ((← hexValue? c) * 16 + (← hexValue? d))

/-- The character named by a one-letter escape. -/
def simpleEscape? (c : Char) : Option Char :=
  if c = '"' || c = '\\' || c = '/' then some c
  else if c = 'b' then some '\x08'
  else if c = 'f' then some '\x0c'
  else if c = 'n' then some '\n'
  else if c = 'r' then some '\r'
  else if c = 't' then some '\t'
  else none

/-- A unit in front of those read after it. -/
def prepend (unit : Nat) (rest : Reading (List Nat)) : Reading (List Nat) :=
  rest.map fun (units, left) => (unit :: units, left)

/-- The rest of a text whose opening quote, with all after it, is `left` characters long. An
escape by number gives one UTF-16 unit, so two of them may stand for one character. Something has
to follow the digits of such an escape. -/
def readUnits (left : Nat) : List Char → Reading (List Nat)
  | [] => .error (.problem .unterminated left)
  | c :: rest =>
      if c = '"' then .ok ([], rest)
      else if c = '\\' then
        match rest with
        | [] => .error (.problem .unterminated left)
        | 'u' :: digits =>
            match digits with
            | a :: b :: c :: d :: more =>
                match unit? a b c d, more.isEmpty with
                | some unit, false => prepend unit (readUnits left more)
                | _, _ => .error (.problem .numericEscape (digits.length + 1))
            | _ => .error (.problem .numericEscape (digits.length + 1))
        | e :: more =>
            match simpleEscape? e with
            | some escaped => prepend escaped.toNat (readUnits left more)
            | none => .error (.problem .escape (more.length + 2))
      else if c.toNat < 32 then .error (.problem .controlCharacter (rest.length + 1))
      else prepend c.toNat (readUnits left rest)

/-- A text, whose opening quote has been read. -/
def readText (cs : List Char) : Reading String :=
  (readUnits (cs.length + 1) cs).map fun (units, rest) =>
    (.ofList (Text.Encoding.joinUnits units), rest)

/-- The documents that are one word. -/
def words : List (String × Value) :=
  [("null", .null), ("true", .bool true), ("false", .bool false), ("NaN", .float (.nan 0)),
    ("Infinity", .float (.infinite false)), ("-Infinity", .float (.infinite true))]

/-- A one-word document at the front of a text. -/
def readWord? (cs : List Char) : Option (Value × List Char) :=
  words.findSome? fun (word, value) => (dropExact? word.toList cs).map fun rest => (value, rest)

/-- The digits before the point of a number: zero, or digits that do not start with zero. -/
def wholeDigits? : List Char → Option (List Char × List Char)
  | '0' :: rest => some (['0'], rest)
  | cs =>
      let digits := cs.takeWhile Char.isDigit
      if digits.isEmpty then none else some (digits, cs.dropWhile Char.isDigit)

/-- The digits after the point of a number, if there are any. -/
def fractionDigits : List Char → List Char × List Char
  | '.' :: rest =>
      let digits := rest.takeWhile Char.isDigit
      if digits.isEmpty then ([], '.' :: rest) else (digits, rest.dropWhile Char.isDigit)
  | cs => ([], cs)

/-- The exponent of a number, if there is one. -/
def exponentPart? : List Char → Option (Int × List Char)
  | e :: cs =>
      if e = 'e' || e = 'E' then
        let (negative, body) := match cs with
          | '-' :: rest => (true, rest)
          | '+' :: rest => (false, rest)
          | rest => (false, rest)
        let digits := body.takeWhile Char.isDigit
        if digits.isEmpty then none
        else
          some (Binary64.signed negative (naturalOfDigits digits), body.dropWhile Char.isDigit)
      else none
  | [] => none

/-- A number. One without a fraction and an exponent is an integer. -/
def readNumber (cs : List Char) : Reading Value :=
  let (negative, body) := match cs with
    | '-' :: rest => (true, rest)
    | rest => (false, rest)
  match wholeDigits? body with
  | none => .error (.problem .value cs.length)
  | some (whole, rest) =>
      let (fraction, rest) := fractionDigits rest
      match exponentPart? rest with
      | some (power, rest) =>
          .ok (.float (Decimal.toBinary64 negative
            ⟨naturalOfDigits (whole ++ fraction), power - fraction.length⟩), rest)
      | none =>
          if fraction.isEmpty then
            if maxIntegerDigits < whole.length then .error (.number whole.length)
            else .ok (.int (Binary64.signed negative (naturalOfDigits whole)), rest)
          else
            .ok (.float (Decimal.toBinary64 negative
              ⟨naturalOfDigits (whole ++ fraction), -fraction.length⟩), rest)

mutual

/-- A document at the front of a text. -/
def readValue (fuel depth : Nat) (cs : List Char) : Reading Value :=
  match fuel with
  | 0 => .error .depth
  | fuel + 1 =>
      match cs with
      | [] => .error (.problem .value 0)
      | '"' :: rest => (readText rest).map fun (s, rest) => (.text s, rest)
      | '\x7b' :: rest =>
          match depth with
          | 0 => .error .depth
          | depth + 1 =>
              match skipSpaces rest with
              | '\x7d' :: rest => .ok (.dict [], rest)
              | rest =>
                  (readEntries fuel depth [] rest).map fun (entries, rest) => (.dict entries, rest)
      | '[' :: rest =>
          match depth with
          | 0 => .error .depth
          | depth + 1 =>
              match skipSpaces rest with
              | ']' :: rest => .ok (.list [], rest)
              | rest => (readItems fuel depth rest).map fun (items, rest) => (.list items, rest)
      | cs =>
          match readWord? cs with
          | some reading => .ok reading
          | none => readNumber cs
termination_by structural fuel

/-- The items of an array up to its end. -/
def readItems (fuel depth : Nat) (cs : List Char) :
    Except Failure (List Value × List Char) :=
  match fuel with
  | 0 => .error .depth
  | fuel + 1 => do
      let (item, rest) ← readValue fuel depth cs
      match skipSpaces rest with
      | ']' :: rest => .ok ([item], rest)
      | ',' :: rest => do
          let (items, rest) ← readItems fuel depth (skipSpaces rest)
          .ok (item :: items, rest)
      | rest => .error (.problem .comma rest.length)
termination_by structural fuel

/-- The entries of an object up to its end, added to those before. -/
def readEntries (fuel depth : Nat) (done : Entries) (cs : List Char) :
    Except Failure (Entries × List Char) :=
  match fuel with
  | 0 => .error .depth
  | fuel + 1 =>
      match cs with
      | '"' :: rest => do
          let (name, rest) ← readText rest
          match skipSpaces rest with
          | ':' :: rest => do
              let (value, rest) ← readValue fuel depth (skipSpaces rest)
              let entries := done.insert (.text name) value
              match skipSpaces rest with
              | '\x7d' :: rest => .ok (entries, rest)
              | ',' :: rest => readEntries fuel depth entries (skipSpaces rest)
              | rest => .error (.problem .comma rest.length)
          | rest => .error (.problem .colon rest.length)
      | cs => .error (.problem .propertyName cs.length)
termination_by structural fuel

end

/-- The fault for a failure in a text, with the line and the column of the place. -/
def Failure.toValueFault (cs : List Char) : Failure → ValueFault
  | .problem what left =>
      let before := cs.take (cs.length - left)
      .badJson what (before.count '\n' + 1)
        ((before.reverse.takeWhile (· ≠ '\n')).length + 1) before.length
  | .number digits => .tooManyDigits digits
  | .depth => .tooDeep

/-- The document that a whole text is. -/
def readDocument (cs : List Char) : Except Failure Value :=
  match readValue (2 * cs.length + 2) maxDepth (skipSpaces cs) with
  | .error failure => .error failure
  | .ok (value, rest) =>
      match skipSpaces rest with
      | [] => .ok value
      | rest => .error (.problem .extraData rest.length)

/-- The value of a JSON text. -/
def read (cs : List Char) : Except ValueFault Value :=
  (readDocument cs).mapError (·.toValueFault cs)

/-- The value of a JSON text that was given as text, which starts with no byte order mark. -/
def readString (s : String) : Except ValueFault Value :=
  match s.toList with
  | '\ufeff' :: _ => .error (.badJson .byteOrderMark 1 1 0)
  | cs => read cs

end RowMapper.Json
