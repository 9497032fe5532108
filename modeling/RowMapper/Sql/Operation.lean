import RowMapper.Text.Caseless
import RowMapper.Text.Word

/-!
# Reading the operation off a statement

Measurements are labelled with the table and the kind of a statement. Both are read off the text
of the statement itself: a leading phrase tells the kind, and the table is the first name behind
`FROM` or behind the phrase, where behind `FROM` letters that fold to ASCII ones count as such.
Text that is no statement of these kinds has no label.
-/

namespace RowMapper.Sql

/-- The kinds of statements that are told apart. -/
inductive Verb where
  | insert
  | update
  | delete
  | select
  | create
  | drop
  deriving DecidableEq

namespace Verb

/-- The name of a kind of statement. -/
def name : Verb → String
  | .insert => "insert"
  | .update => "update"
  | .delete => "delete"
  | .select => "select"
  | .create => "create"
  | .drop => "drop"

/-- The phrases that begin statements, longer ones before those that they extend. -/
def phrases : List (Verb × List String) :=
  [(.insert, ["INSERT", "INTO"]), (.update, ["UPDATE"]), (.delete, ["DELETE", "FROM"]),
    (.select, ["SELECT"]), (.create, ["CREATE", "TABLE", "IF", "NOT", "EXISTS"]),
    (.create, ["CREATE", "TABLE"]), (.drop, ["DROP", "TABLE", "IF", "EXISTS"]),
    (.drop, ["DROP", "TABLE"])]

/-- Whether the table is named behind `FROM` and not behind the phrase. -/
def namesTableByFrom : Verb → Bool
  | .select | .delete => true
  | _ => false

end Verb

/-- Whether a character can stand in a table name that is read without regard to case. -/
def isCaselessTableChar (c : Char) : Bool :=
  Text.isAsciiWord c || Text.isCaselessLetter c

/-- The table name of allowed characters at the front of a text, without a backtick before it. -/
def bareTableName? (allowed : Char → Bool) (cs : List Char) : Option (List Char) :=
  match cs.takeWhile allowed with
  | [] => none
  | name => some name

/-- The table name of allowed characters at the front of a text, behind a backtick or not. -/
def tableName? (allowed : Char → Bool) : List Char → Option (List Char)
  | [] => none
  | c :: rest =>
      if c = '\x60' then bareTableName? allowed rest else bareTableName? allowed (c :: rest)

/-- The table name behind the keyword at the very front of a text. -/
def tableBehindFrom? (cs : List Char) : Option (List Char) := do
  tableName? isCaselessTableChar (← Text.dropBlanks? (← Text.dropKeyword? "FROM".toList cs))

/-- The table name behind the first keyword `FROM` that begins a word and that one follows. -/
def findTable? (insideWord : Bool) : List Char → Option (List Char)
  | [] => none
  | c :: rest =>
      match if insideWord then none else tableBehindFrom? (c :: rest) with
      | some name => some name
      | none => findTable? (Text.isWord c) rest

/-- The kind of a statement and the text behind its leading phrase. -/
def leadingPhrase? (cs : List Char) : Option (Verb × List Char) :=
  Verb.phrases.findSome? fun (verb, phrase) => do
    let rest ← Text.dropBlanks? (← Text.dropPhrase? phrase (Text.trimStart cs))
    return (verb, rest)

/-- What a statement does and to which table, as far as its text tells. -/
structure Label where
  table : Option String
  verb : Option Verb
  deriving DecidableEq

namespace Label

/-- The word for what a text does not tell. -/
def unknown : String := "unknown"

/-- The table of a label. -/
def tableName (label : Label) : String :=
  label.table.getD unknown

/-- The kind of statement of a label. -/
def verbName (label : Label) : String :=
  (label.verb.map Verb.name).getD unknown

/-- The label of a statement. -/
def ofSql (sql : String) : Label :=
  match leadingPhrase? sql.toList with
  | none => ⟨none, none⟩
  | some (verb, rest) =>
      let table :=
        if verb.namesTableByFrom then findTable? false sql.toList
        else tableName? Text.isAsciiWord rest
      ⟨table.map .ofList, some verb⟩

end Label

end RowMapper.Sql
