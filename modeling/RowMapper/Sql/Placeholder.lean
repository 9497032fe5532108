/-!
# Placeholders

A question mark is a placeholder when it stands outside quotes. Three marks open and close a
quoted part: apostrophe, double quote and backtick. Inside the first two a backslash takes away
the meaning of the next character. A doubled mark closes a part and opens the next at once, so it
needs no rule of its own.
-/

namespace RowMapper.Sql

/-- Where a reader of a statement stands. -/
inductive Context where
  | plain
  | quoted (mark : Char)
  | escaped (mark : Char)
  deriving DecidableEq

namespace Context

/-- Whether a character opens a quoted part. -/
def isMark (c : Char) : Bool :=
  c = '\'' || c = '"' || c = '\x60'

/-- Where the reader stands after one more character. -/
def step : Context → Char → Context
  | .plain, c => if isMark c then .quoted c else .plain
  | .quoted mark, c =>
      if c = '\\' && mark ≠ '\x60' then .escaped mark
      else if c = mark then .plain
      else .quoted mark
  | .escaped mark, _ => .quoted mark

/-- Where the reader stands after a text. -/
def after (context : Context) (cs : List Char) : Context :=
  cs.foldl step context

@[simp] theorem after_nil (context : Context) : context.after [] = context := rfl

@[simp] theorem after_cons (context : Context) (c : Char) (cs : List Char) :
    context.after (c :: cs) = (context.step c).after cs := rfl

@[simp] theorem after_append (context : Context) (as bs : List Char) :
    context.after (as ++ bs) = (context.after as).after bs := by
  simp [after, List.foldl_append]

end Context

/-- A character in front of the first of several pieces. -/
def consFirst (c : Char) : List (List Char) → List (List Char)
  | [] => [[c]]
  | piece :: pieces => (c :: piece) :: pieces

/-- The pieces of a text between its placeholders, read from a context on. -/
def pieces (context : Context) : List Char → List (List Char)
  | [] => [[]]
  | c :: rest =>
      if context = .plain && c = '?' then [] :: pieces .plain rest
      else consFirst c (pieces (context.step c) rest)

theorem pieces_ne_nil (context : Context) (cs : List Char) : pieces context cs ≠ [] := by
  induction cs generalizing context with
  | nil => simp [pieces]
  | cons c cs ih =>
      simp only [pieces]
      split
      · simp
      · cases h : pieces (context.step c) cs with
        | nil => exact absurd h (ih _)
        | cons piece rest => simp [consFirst]

/-- The pieces of a statement between its placeholders, one more than there are placeholders. -/
def splitPlaceholders (sql : String) : List String :=
  (pieces .plain sql.toList).map .ofList

end RowMapper.Sql
