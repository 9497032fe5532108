/-!
# Problems in a JSON text

What a reader finds wrong with a text that is no JSON document.
-/

namespace RowMapper.Json

/-- What is missing or wrong at a position of a JSON text. -/
inductive Problem where
  | value
  | propertyName
  | colon
  | comma
  | extraData
  | byteOrderMark
  | controlCharacter
  | unterminated
  | escape
  | numericEscape
  deriving DecidableEq

namespace Problem

/-- The wording of a problem. -/
def message : Problem → String
  | .value => "Expecting value"
  | .propertyName => "Expecting property name enclosed in double quotes"
  | .colon => "Expecting ':' delimiter"
  | .comma => "Expecting ',' delimiter"
  | .extraData => "Extra data"
  | .byteOrderMark => "Unexpected UTF-8 BOM (decode using utf-8-sig)"
  | .controlCharacter => "Invalid control character at"
  | .unterminated => "Unterminated string starting at"
  | .escape => "Invalid \\escape"
  | .numericEscape => "Invalid \\uXXXX escape"

end Problem

end RowMapper.Json
