import RowMapper.Text.Lowercase

/-!
# Snake case

Words of a mixed-case name are separated by underscores and put in lower case, so `UserProfile`
becomes `user_profile` and `HTTPLog` becomes `http_log`. Two passes find the boundaries: the first
before a capital that starts a capitalised word, the second between a small letter or digit and a
capital.
-/

namespace RowMapper.Text

/-- Where the search for capitalised words stands: between words, before the capital of a word
just found, or behind that capital. -/
inductive WordState where
  | between
  | beforeCapital
  | inside
  deriving DecidableEq

/-- Whether a text starts with a capital and a small letter. -/
def startsCapitalised : List Char → Bool
  | u :: l :: _ => u.isUpper && l.isLower
  | _ => false

/-- An underscore before each capital that a small letter follows and that something other than a
line feed precedes. The small letters behind the capital belong to its word: no boundary is looked
for there. -/
def separateWords : WordState → List Char → List Char
  | _, [] => []
  | state, c :: rest =>
      if state = .beforeCapital || (state = .inside && c.isLower) then
        c :: separateWords .inside rest
      else if c ≠ '\n' && startsCapitalised rest then
        c :: '_' :: separateWords .beforeCapital rest
      else c :: separateWords .between rest

/-- An underscore between a small letter or digit and a capital. -/
def separateCapitals : List Char → List Char
  | [] => []
  | c :: rest =>
      if (c.isLower || c.isDigit) && (rest.head?.map Char.isUpper).getD false then
        c :: '_' :: separateCapitals rest
      else c :: separateCapitals rest

/-- A name in snake case. -/
def snakeCase (name : String) : String :=
  .ofList (lowercase (separateCapitals (separateWords .between name.toList)))

end RowMapper.Text
