import RowMapper.Value.Fault

/-!
# Quoted names and literals

A name stands between backticks and doubles every backtick of its own. A string literal stands
between apostrophes, doubles every apostrophe and puts a backslash before every backslash.
-/

namespace RowMapper.Sql

/-- One character of a quoted name. -/
def escapeNameChar (c : Char) : List Char :=
  if c = '\x60' then ['\x60', '\x60'] else [c]

/-- The characters of a quoted name. -/
def quoteNameChars (cs : List Char) : List Char :=
  '\x60' :: cs.flatMap escapeNameChar ++ ['\x60']

/-- The name of a table or column as it stands in a statement. -/
def quoteName (name : String) : String :=
  .ofList (quoteNameChars name.toList)

/-- One character of a string literal. -/
def escapeLiteralChar (c : Char) : List Char :=
  if c = '\\' then ['\\', '\\'] else if c = '\'' then ['\'', '\''] else [c]

/-- The characters of a string literal. -/
def quoteLiteralChars (cs : List Char) : List Char :=
  '\'' :: cs.flatMap escapeLiteralChar ++ ['\'']

/-- A text as a string literal. -/
def quoteLiteral (s : String) : String :=
  .ofList (quoteLiteralChars s.toList)

@[simp] theorem toList_quoteName (name : String) :
    (quoteName name).toList = quoteNameChars name.toList := by
  simp [quoteName]

@[simp] theorem toList_quoteLiteral (s : String) :
    (quoteLiteral s).toList = quoteLiteralChars s.toList := by
  simp [quoteLiteral]

end RowMapper.Sql

namespace RowMapper.Value

/-- The text in which marks are to be escaped. Octets and timestamps know a replacement of their
own that does not take texts; other values know none. -/
def escapable (v : Value) : Except ValueFault String :=
  match v.text? with
  | some s => .ok s
  | none =>
      match v with
      | .octets _ => .error .replaceInOctets
      | .timestamp _ => .error .replaceInTimestamp
      | _ => .error (v.lacks "replace")

/-- A value as a quoted name. -/
def asName (v : Value) : Except ValueFault String :=
  v.escapable.map Sql.quoteName

/-- A value as a string literal. -/
def asLiteral (v : Value) : Except ValueFault String :=
  v.escapable.map Sql.quoteLiteral

end RowMapper.Value
