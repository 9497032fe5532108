import RowMapper.Sql.Placeholder
import RowMapper.Text.Word
import RowMapper.Value.Sequence

/-!
# Named binds for positional parameters

The layer below takes statements with named binds, `:p0`, `:p1` and so on. Each placeholder
becomes such a bind, and a colon of the statement itself that a name could follow gets a backslash
so that it is not taken for one. `bindNames` and `unescape` are the reading of that layer: the
names it finds, and the text it sends on.
-/

namespace RowMapper.Sql

/-- Whether a text starts with a word character. -/
def startsWord (cs : List Char) : Bool :=
  (cs.head?.map Text.isWord).getD false

/-- A backslash before every colon that a word character follows. -/
def escapeColons : List Char → List Char
  | [] => []
  | c :: rest =>
      if c = ':' && startsWord rest then '\\' :: ':' :: escapeColons rest
      else c :: escapeColons rest

/-- The name of the bind for the parameter at a position. -/
def bindName (index : Nat) : String :=
  "p" ++ Nat.repr index

/-- Pieces behind numbered binds. -/
def joinBinds (index : Nat) : List (List Char) → List Char
  | [] => []
  | piece :: rest =>
      ':' :: (bindName index).toList ++ piece ++ joinBinds (index + 1) rest

/-- The first piece, then each further one behind the bind of its placeholder. -/
def joinPieces : List (List Char) → List Char
  | [] => []
  | piece :: rest => piece ++ joinBinds 0 rest

/-- A statement with named binds and the values bound. -/
structure BoundStatement where
  text : String
  binds : List (String × Value)

/-- Parameters under the names of their binds. -/
def nameParameters (index : Nat) : List Value → List (String × Value)
  | [] => []
  | v :: vs => (bindName index, v) :: nameParameters (index + 1) vs

/-- The text with named binds for a statement with placeholders. -/
def boundText (sql : String) : String :=
  .ofList (joinPieces ((pieces .plain sql.toList).map escapeColons))

/-- The count of placeholders in a statement. -/
def placeholderCount (sql : String) : Nat :=
  (pieces .plain sql.toList).length - 1

/-- Why parameters were not bound. -/
inductive BindFault where
  | operand (fault : ValueFault)
  | mismatch (placeholders parameters : Nat)

/-- Bind parameters to the placeholders of a statement, of which there must be as many. -/
def bindPositional (sql : String) (parameters : Value) : Except BindFault BoundStatement :=
  match parameters.size with
  | .error fault => .error (.operand fault)
  | .ok size =>
      if placeholderCount sql = size then
        .ok ⟨boundText sql, nameParameters 0 (parameters.items?.getD [])⟩
      else .error (.mismatch (placeholderCount sql) size)

/-- The word characters at the front of a text. -/
def word (cs : List Char) : List Char :=
  cs.takeWhile Text.isWord

/-- Whether a colon follows the word characters at the front of a text. -/
def colonAfterWord (cs : List Char) : Bool :=
  (cs.dropWhile Text.isWord).head? = some ':'

/-- Whether a colon can start a bind name behind a character. -/
def allowsBind (previous : Option Char) : Bool :=
  match previous with
  | none => true
  | some c => !(c = ':' || c = '\\' || Text.isWord c)

/-- The bind names found in a text, in order, given the character before it: a colon that no
colon, backslash or word character precedes, and a word that no colon follows. -/
def bindNamesAfter (previous : Option Char) : List Char → List (List Char)
  | [] => []
  | c :: rest =>
      let more := bindNamesAfter (some c) rest
      if c = ':' && allowsBind previous && startsWord rest && !colonAfterWord rest then
        word rest :: more
      else more

/-- The bind names found in a text. -/
def bindNames (text : String) : List String :=
  (bindNamesAfter none text.toList).map .ofList

/-- The text without the backslash before a colon, where the word that may follow that colon is
not followed by another colon. -/
def unescapeChars : List Char → List Char
  | [] => []
  | c :: rest =>
      if c = '\\' && rest.head? = some ':' && !colonAfterWord rest.tail then unescapeChars rest
      else c :: unescapeChars rest

/-- The text that is sent on for a text with named binds. -/
def unescape (text : String) : String :=
  .ofList (unescapeChars text.toList)

end RowMapper.Sql
