import RowMapper.Text.Quoted
import RowMapper.Value.Basic

/-!
# Printed values

`printed` is the form of a value in diagnostics: texts and octets are quoted, containers are
bracketed, and everything else stands as the expression that would build it. `display` is the form
for people, in which a text stands for itself.
-/

namespace RowMapper

namespace Value

/-- Texts between an opening and a closing bracket, with commas between them. -/
def bracketed (opening : String) (parts : List String) (closing : String) : String :=
  opening ++ String.intercalate ", " parts ++ closing

/-- A tuple of printed items; a single item keeps a comma. -/
def printedTuple : List String → String
  | [item] => bracketed "(" [item ++ ","] ")"
  | parts => bracketed "(" parts ")"

/-- A set of printed items; the empty set has no brackets of its own. -/
def printedSet : List String → String
  | [] => "set()"
  | parts => bracketed "\x7b" parts "\x7d"

/-- The printed form of a routine, which does not show its behaviour. -/
def printedRoutine : Routine → String
  | .length => "<built-in function len>"
  | .truth => "<class 'bool'>"
  | .listing => "<class 'list'>"
  | .sealed => "<Opaque object>"
  | _ => "<function>"

/-- The printed form of a truth value. -/
def printedBool (b : Bool) : String :=
  if b then "True" else "False"

mutual

/-- The form of a value in diagnostics. -/
def printed : Value → String
  | .null => "None"
  | .bool b => printedBool b
  | .int n => decimalText n
  | .float x => x.text
  | .text s => Text.quoted s
  | .fieldType type => "<FieldType." ++ type.label ++ ": '" ++ type.name ++ "'>"
  | .octets bytes => Text.quotedOctets bytes
  | .list items => bracketed "[" (printedItems items) "]"
  | .tuple items => printedTuple (printedItems items)
  | .dict entries => bracketed "\x7b" (printedEntries entries) "\x7d"
  | .set items => printedSet (printedItems items)
  | .timestamp t => t.text
  | .unset => "UNSET"
  | .currentTime => "CURRENT_TIME"
  | .routine _ body _ => printedRoutine body
  | .object kind slots =>
      bracketed (kind.name ++ "(")
        (List.zipWith (· ++ "=" ++ ·) kind.slotNames (printedItems slots)) ")"

/-- The printed items of a container. -/
def printedItems : List Value → List String
  | [] => []
  | v :: vs => printed v :: printedItems vs

/-- The printed entries of a dictionary. -/
def printedEntries : List (Value × Value) → List String
  | [] => []
  | (k, v) :: rest => (printed k ++ ": " ++ printed v) :: printedEntries rest

end

/-- The form of a value for people. -/
def display : Value → String
  | .text s => s
  | .fieldType type => "FieldType." ++ type.label
  | .timestamp t => t.display
  | v => v.printed

end Value

end RowMapper
