import RowMapper.Schema.Column
import RowMapper.Text.Caseless

/-!
# Physical types and the storage check

Each logical type has a physical type, which a declaration can replace by one of its own. Such a
type is a known name, then perhaps a length in parentheses, then perhaps `UNSIGNED`, with blanks
allowed between and around the parts. The storage check decides whether a field can be stored at
all.
-/

namespace RowMapper

namespace FieldType

/-- The physical type of a logical type. -/
def physical : FieldType → String
  | .string => "VARCHAR(255)"
  | .text => "TEXT"
  | .integer => "INT"
  | .bigint => "BIGINT"
  | .float => "DOUBLE"
  | .boolean => "TINYINT(1)"
  | .timestamp => "BIGINT"
  | .datetime => "DATETIME"
  | .json => "JSON"

end FieldType

namespace PhysicalType

/-- The physical types that a declaration can name. -/
def known : List String :=
  ["CHAR", "VARCHAR", "TINYTEXT", "TEXT", "MEDIUMTEXT", "LONGTEXT", "TINYINT", "SMALLINT",
    "MEDIUMINT", "INT", "INTEGER", "BIGINT", "FLOAT", "DOUBLE", "DECIMAL", "DATE", "DATETIME",
    "TIMESTAMP", "JSON", "BLOB", "MEDIUMBLOB", "LONGBLOB", "BINARY", "VARBINARY"]

/-- What follows a run of decimal digits, of which there must be one at least. -/
def dropDigits? : List Char → Option (List Char)
  | [] => none
  | c :: cs => if Text.isDecimal c then some (cs.dropWhile Text.isDecimal) else none

/-- What follows a character behind blanks. -/
def dropMark? (mark : Char) (cs : List Char) : Option (List Char) :=
  match Text.trimStart cs with
  | [] => none
  | c :: rest => if c = mark then some rest else none

/-- What follows a length, one number or two, whose opening parenthesis has been read. -/
def dropLength? (cs : List Char) : Option (List Char) := do
  let rest ← dropDigits? (Text.trimStart cs)
  match dropMark? ',' rest with
  | some more => dropMark? ')' (← dropDigits? (Text.trimStart more))
  | none => dropMark? ')' rest

/-- Whether a text is blank, or is `UNSIGNED` behind at least one blank and before any. -/
def isEnding (cs : List Char) : Bool :=
  cs.all Text.isBlank ||
    match Text.dropBlanks? cs with
    | some rest =>
        match Text.dropKeyword? "UNSIGNED".toList rest with
        | some rest => rest.all Text.isBlank
        | none => false
    | none => false

/-- The name at the front of a physical type, if the whole has the form of one. -/
def name? (cs : List Char) : Option (List Char) :=
  let cs := Text.trimStart cs
  let name := cs.takeWhile Text.isCaselessLetter
  let rest := cs.dropWhile Text.isCaselessLetter
  if name.isEmpty then none
  else
    match dropMark? '(' rest with
    | some more =>
        match dropLength? more with
        | some rest => if isEnding rest then some name else none
        | none => none
    | none => if isEnding rest then some name else none

/-- Whether a text names a physical type. -/
def isKnown (s : String) : Bool :=
  match name? s.toList with
  | some name => known.contains (.ofList (name.map Text.capital))
  | none => false

end PhysicalType

/-- The outcome of the storage check. -/
inductive Verdict where
  | ok
  | unknownType
  | unsupportedDefault
  | invalidAutoUpdate
  deriving DecidableEq

namespace Verdict

/-- Every outcome. -/
def all : List Verdict :=
  [.ok, .unknownType, .unsupportedDefault, .invalidAutoUpdate]

/-- The code of an outcome. -/
def code : Verdict → Int
  | .ok => 0
  | .unknownType => -1
  | .unsupportedDefault => -2
  | .invalidAutoUpdate => -3

/-- The name of an outcome. -/
def name : Verdict → String
  | .ok => "OK"
  | .unknownType => "UNKNOWN_TYPE"
  | .unsupportedDefault => "UNSUPPORTED_DEFAULT"
  | .invalidAutoUpdate => "INVALID_AUTO_UPDATE"

/-- The outcome whose code a value is. -/
def ofCode? (v : Value) : Option Verdict :=
  all.find? fun verdict => v.equal (.int verdict.code)

end Verdict

/-- The logical type that the storage check goes by. A type given only by its name is known, but
the rules that ask for one particular type do not take it for that type. -/
structure CheckedType where
  type : FieldType
  exact : Bool

namespace CheckedType

/-- Whether the type is a given one for a rule that asks for it. -/
def isExactly (checked : CheckedType) (type : FieldType) : Bool :=
  checked.exact && checked.type = type

/-- Whether a field of the type can have a default. Null and routines always can be one. -/
def supportsDefault (checked : CheckedType) (default : Value) : Bool :=
  match default with
  | .currentTime => checked.isExactly .timestamp
  | .null | .routine .. => true
  | _ =>
      match checked.type with
      | .string | .text => default.text?.isSome
      | .integer | .bigint | .timestamp =>
          match default with
          | .int _ => true
          | _ => false
      | .float =>
          checked.exact && match default with
            | .int _ | .float _ => true
            | _ => false
      | .boolean =>
          checked.exact && match default with
            | .bool _ => true
            | _ => false
      | .datetime =>
          checked.exact && match default with
            | .timestamp _ => true
            | _ => false
      | .json => checked.exact && (Json.write default).isOk

end CheckedType

namespace ColumnTraits

/-- Whether the physical type, where one is given, is known. -/
def hasKnownDatabaseType (traits : ColumnTraits) : Bool :=
  traits.databaseType.isNull || (traits.databaseType.text?.map PhysicalType.isKnown).getD false

/-- Whether the default, where there is one, can be that of the type. -/
def hasSupportedDefault (traits : ColumnTraits) (checked : CheckedType) : Bool :=
  traits.default.isUnset || checked.supportsDefault traits.default

/-- Whether the field may be set by updates: a timestamp with the current time as default. -/
def hasValidAutoUpdate (traits : ColumnTraits) (checked : CheckedType) : Bool :=
  !traits.autoUpdate.truthy ||
    (checked.isExactly .timestamp && traits.default.isCurrentTime)

/-- The storage check of a field with known logical type. -/
def verdict (traits : ColumnTraits) (checked : CheckedType) : Verdict :=
  if !traits.hasKnownDatabaseType then .unknownType
  else if !traits.hasSupportedDefault checked then .unsupportedDefault
  else if !traits.hasValidAutoUpdate checked then .invalidAutoUpdate
  else .ok

/-- The storage check of a field whose logical type is any value. -/
def verdictFor (traits : ColumnTraits) (type : Value) : Except ValueFault Verdict := do
  let type ← type.asKey
  match type with
  | .fieldType type => return traits.verdict ⟨type, true⟩
  | _ =>
      match type.text? >>= FieldType.ofName? with
      | some type => return traits.verdict ⟨type, false⟩
      | none => return .unknownType

end ColumnTraits

namespace Column

/-- The storage check of a column. -/
def verdict (column : Column) : Verdict :=
  column.toColumnTraits.verdict ⟨column.type, true⟩

end Column

end RowMapper
