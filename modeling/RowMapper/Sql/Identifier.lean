import RowMapper.Name
import RowMapper.Text.Word

/-!
# Identifiers

Names of tables, models and fields are identifiers: an ASCII letter or underscore, then ASCII
letters, digits and underscores, at most 64 characters in all. One line feed at the end is let
through.
-/

namespace RowMapper.Sql

/-- Why a value is no identifier. -/
inductive IdentifierFault where
  | notText (kind : String)
  | empty
  | malformed (name : Name)
  | tooLong (name : Name)
  deriving DecidableEq

namespace IdentifierFault

/-- The wording of a fault, where `role` says what the name is for. -/
def message (role : String) : IdentifierFault → String
  | .notText kind => role ++ " must be a string, got " ++ kind
  | .empty => role ++ " cannot be empty"
  | .malformed name =>
      "Invalid " ++ role ++ " " ++ name.printed ++
        ": must start with letter/underscore and contain only alphanumeric characters " ++
        "and underscores"
  | .tooLong name => role ++ " " ++ name.printed ++ " exceeds MySQL's 64-character limit"

end IdentifierFault

/-- The greatest length of an identifier. -/
def maxIdentifierLength : Nat := 64

/-- Whether a character can start an identifier. -/
def startsIdentifier (c : Char) : Bool :=
  c.isAlpha || c = '_'

/-- Whether characters can follow the start of an identifier. -/
def continuesIdentifier : List Char → Bool
  | [] => true
  | c :: rest => (Text.isAsciiWord c && continuesIdentifier rest) || (c = '\n' && rest.isEmpty)

/-- Whether characters have the form of an identifier, whatever their count. -/
def isIdentifierForm : List Char → Bool
  | [] => false
  | c :: rest => startsIdentifier c && continuesIdentifier rest

/-- The name that a value is, if it is an identifier. -/
def checkIdentifier (v : Value) : Except IdentifierFault Name :=
  match Name.ofValue? v with
  | none => .error (.notText v.kindName)
  | some name =>
      let cs := name.toText.toList
      if cs.isEmpty then .error .empty
      else if !isIdentifierForm cs then .error (.malformed name)
      else if maxIdentifierLength < cs.length then .error (.tooLong name)
      else .ok name

end RowMapper.Sql
