import RowMapper.Proofs.Json.Token
import RowMapper.Proofs.Query.StatementLayout
import RowMapper.Proofs.Schema.SameSignature
import RowMapper.Proofs.Sql.QuotedReading
import RowMapper.Proofs.Writing

/-!
# Reads that are told apart

What a query for rows asks of its table is a form: the names of the columns, none of them for every
column, the comparisons without their values, and the window of rows. The text of the query is
written from this form, and the form can be read back from it. Each of its parts is `Delimited`: it
can be split off the front of the text, as long as what stands behind it does not go on with it. So
two queries of one table have the same text just when they have the same form, whatever characters
the names of columns have.
-/

namespace RowMapper

open Sql

/-! ## What can be split off the front of a text -/

/-- Whether what is written can be split off the front of a text, as long as the text behind it is
of a kind that ends it. -/
structure Delimited {α : Type} (write : α → List Char) (ends : List Char → Prop) : Prop where
  split {x y : α} {rest other : List Char} (restEnds : ends rest) (otherEnds : ends other)
    (same : write x ++ rest = write y ++ other) : x = y ∧ rest = other

/-- Whether a text does not begin with another. -/
def NotLedBy (lead rest : List Char) : Prop :=
  ¬lead <+: rest

namespace Delimited

variable {α : Type} {write : α → List Char} {ends : List Char → Prop}

/-- What can be split off can be told apart. -/
theorem injective (delimited : Delimited write ends) (atEnd : ends []) :
    Function.Injective write := by
  intro x y same
  have texts : write x ++ [] = write y ++ [] := by rw [same]
  exact (delimited.split atEnd atEnd texts).1

/-- Text of one class of characters ends where the class ends. -/
theorem of_class {p : Char → Bool} (within : ∀ x, ∀ c ∈ write x, p c = true)
    (injective : ∀ {x y}, write x = write y → x = y) :
    Delimited write fun rest => ∀ c, rest.head? = some c → p c = false := by
  have taken (x : α) {rest : List Char} (restEnds : ∀ c, rest.head? = some c → p c = false) :
      (write x ++ rest).takeWhile p = write x := by
    rw [List.takeWhile_append_of_pos (within x)]
    cases rest with
    | nil => rw [List.takeWhile_nil, List.append_nil]
    | cons c others =>
        rw [List.takeWhile_cons_of_neg (by simp [restEnds c rfl]), List.append_nil]
  constructor
  intro x y rest other restEnds otherEnds same
  have texts := congrArg (List.takeWhile p) same
  rw [taken x restEnds, taken y otherEnds] at texts
  rw [texts] at same
  exact ⟨injective texts, List.append_cancel_left same⟩

/-- What is written behind a separator each time can end what is written before it. -/
theorem ends_flatMap {separator : List Char} (separates : ∀ rest, ends (separator ++ rest))
    (items : List α) {rest : List Char} (restEnds : ends rest) :
    ends (items.flatMap (separator ++ write ·) ++ rest) := by
  cases items with
  | nil => exact restEnds
  | cons x others =>
      rw [List.flatMap_cons, List.append_assoc, List.append_assoc]
      exact separates _

/-- Some things, each behind a separator, can be split off one after the other. -/
theorem flatMap (delimited : Delimited write ends) (separator : List Char)
    (separates : ∀ rest, ends (separator ++ rest)) :
    Delimited (fun items : List α => items.flatMap (separator ++ write ·)) fun rest =>
      ends rest ∧ NotLedBy separator rest := by
  have led (x : α) (more : List α) (later : List Char) :
      separator <+: (x :: more).flatMap (separator ++ write ·) ++ later := by
    rw [List.flatMap_cons, List.append_assoc, List.append_assoc]
    exact List.prefix_append _ _
  constructor
  intro items others rest other restEnds otherEnds same
  induction items generalizing others with
  | nil =>
      cases others with
      | nil => exact ⟨rfl, same⟩
      | cons y ys =>
          rw [List.flatMap_nil, List.nil_append] at same
          rw [same] at restEnds
          exact absurd (led y ys other) restEnds.2
  | cons x xs ih =>
      cases others with
      | nil =>
          rw [List.flatMap_nil, List.nil_append] at same
          rw [← same] at otherEnds
          exact absurd (led x xs rest) otherEnds.2
      | cons y ys =>
          simp only [List.flatMap_cons, List.append_assoc, List.append_cancel_left_eq] at same
          obtain ⟨rfl, later⟩ := delimited.split (ends_flatMap separates xs restEnds.1)
            (ends_flatMap separates ys otherEnds.1) same
          obtain ⟨rfl, rests⟩ := ih later
          exact ⟨rfl, rests⟩

/-- Some things with a separator between them, of which there is a first one. -/
theorem separated (delimited : Delimited write ends) (separator : List Char)
    (separates : ∀ rest, ends (separator ++ rest)) :
    Delimited
      (fun items : α × List α => write items.1 ++ items.2.flatMap (separator ++ write ·))
      fun rest => ends rest ∧ NotLedBy separator rest := by
  constructor
  rintro ⟨x, xs⟩ ⟨y, ys⟩ rest other restEnds otherEnds same
  simp only [List.append_assoc] at same
  obtain ⟨rfl, later⟩ := delimited.split (ends_flatMap separates xs restEnds.1)
    (ends_flatMap separates ys otherEnds.1) same
  obtain ⟨rfl, rests⟩ := (delimited.flatMap separator separates).split restEnds otherEnds later
  exact ⟨rfl, rests⟩

end Delimited

/-- A quoted name ends at the mark that is not doubled. -/
theorem delimited_quoteName :
    Delimited (fun name : String => quoteNameChars name.toList) (·.head? ≠ some '\x60') := by
  constructor
  intro name otherName rest other restEnds otherEnds same
  have read := readName_quoteNameChars name.toList restEnds
  rw [same, readName_quoteNameChars otherName.toList otherEnds] at read
  simp only [Option.some.injEq, Reading.mk.injEq] at read
  exact ⟨String.toList_inj.mp read.1.symm, read.2.symm⟩

/-- A decimal number ends where its digits do. -/
theorem delimited_repr :
    Delimited (fun n => (Nat.repr n).toList) fun rest =>
      ∀ c, rest.head? = some c → c.isDigit = false := by
  apply Delimited.of_class fun n c member => isDigit_of_mem_repr member
  intro n m same
  rw [Nat.toList_repr, Nat.toList_repr] at same
  rw [← Json.naturalOfDigits_toDigits n, same, Json.naturalOfDigits_toDigits]

/-! ## Comparisons -/

/-- A comparison without its values: the name of its column and, for a membership, the number of
its values. -/
structure ComparisonForm where
  column : String
  count : Option Nat
  deriving DecidableEq

namespace ComparisonForm

/-- What stands behind the name of the column. -/
def operator : Option Nat → String
  | none => "=?"
  | some 0 => " IN (NULL)"
  | some (n + 1) => " IN (" ++ String.intercalate "," (List.replicate (n + 1) "?") ++ ")"

/-- The text of a comparison. -/
def text (form : ComparisonForm) : String :=
  quoteName form.column ++ operator form.count

/-- The number of values that a comparison takes. -/
def places (form : ComparisonForm) : Nat :=
  form.count.getD 1

theorem toList_operator_succ (n : Nat) :
    (operator (some (n + 1))).toList =
      " IN (?".toList ++ ((List.replicate n ()).flatMap (fun _ => [','] ++ ['?']) ++ [')']) := by
  simp [operator, List.replicate_succ, String.toList_intercalate, intercalate_cons_eq_flatMap,
    List.flatMap_replicate]

theorem delimited_operator : Delimited (fun count => (operator count).toList) fun _ => True := by
  have marks : Delimited (fun _ : Unit => ['?']) fun _ => True :=
    ⟨fun _ _ same => ⟨rfl, List.append_cancel_left same⟩⟩
  have counted := marks.flatMap [','] fun _ => trivial
  have closes (later : List Char) : NotLedBy [','] (')' :: later) := by simp [NotLedBy]
  constructor
  intro count others rest other _ _ same
  match count, others with
  | none, none | some 0, some 0 => exact ⟨rfl, List.append_cancel_left same⟩
  | none, some 0 | some 0, none => simp [operator] at same
  | none, some (_ + 1) | some (_ + 1), none
  | some 0, some (_ + 1) | some (_ + 1), some 0 =>
      simp only [toList_operator_succ] at same
      simp [operator] at same
  | some (n + 1), some (m + 1) =>
      simp only [toList_operator_succ, List.append_assoc, List.append_cancel_left_eq] at same
      obtain ⟨replicated, rests⟩ :=
        counted.split ⟨trivial, closes rest⟩ ⟨trivial, closes other⟩ same
      have lengths := congrArg List.length replicated
      simp only [List.length_replicate] at lengths
      rw [lengths]
      exact ⟨rfl, (List.cons.inj rests).2⟩

/-- A comparison ends with its operator. -/
theorem delimited_text :
    Delimited (fun form : ComparisonForm => form.text.toList) fun _ => True := by
  have unmarked (count : Option Nat) (rest : List Char) :
      ((operator count).toList ++ rest).head? ≠ some '\x60' := by
    match count with
    | none | some 0 => simp [operator]
    | some (_ + 1) => simp [toList_operator_succ]
  constructor
  rintro ⟨column, count⟩ ⟨otherColumn, otherCount⟩ rest other _ _ same
  simp only [text, String.toList_append, toList_quoteName, List.append_assoc] at same
  obtain ⟨rfl, behind⟩ :=
    delimited_quoteName.split (unmarked count rest) (unmarked otherCount other) same
  obtain ⟨rfl, rests⟩ := delimited_operator.split trivial trivial behind
  exact ⟨rfl, rests⟩

end ComparisonForm

/-- The form of a comparison. -/
def Comparison.form : Comparison → ComparisonForm
  | .equals column _ => ⟨column.name, none⟩
  | .memberOf column items => ⟨column.name, some items.length⟩

theorem Comparison.text_fragment (comparison : Comparison) :
    comparison.fragment.text = comparison.form.text := by
  cases comparison with
  | equals column v => rfl
  | memberOf column items =>
      cases items with
      | nil => rfl
      | cons v others =>
          simp only [fragment, Fragment.memberOf, form, ComparisonForm.text,
            ComparisonForm.operator, List.map_const', List.isEmpty_cons, List.length_cons]
          simp [String.append_assoc]

theorem Comparison.length_parameters_fragment (comparison : Comparison) :
    comparison.fragment.parameters.length = comparison.form.places := by
  rw [parameters_fragment]
  cases comparison <;> rfl

/-- The text of a `WHERE` clause with the space before it. -/
def whereText (forms : List ComparisonForm) : String :=
  if forms.isEmpty then ""
  else " WHERE " ++ String.intercalate " AND " (forms.map ComparisonForm.text)

theorem toList_whereText_cons (form : ComparisonForm) (others : List ComparisonForm) :
    (whereText (form :: others)).toList =
      " WHERE ".toList ++
        (form.text.toList ++ others.flatMap (" AND ".toList ++ ·.text.toList)) := by
  simp [whereText, String.toList_intercalate, intercalate_cons_eq_flatMap, List.flatMap_map]

theorem chars_whereClause (comparisons : List Comparison) :
    (if (Predicate.ofComparisons comparisons).whereClause = "" then []
      else ' ' :: (Predicate.ofComparisons comparisons).whereClause.toList) =
      (whereText (comparisons.map Comparison.form)).toList := by
  cases comparisons with
  | nil => rfl
  | cons comparison rest =>
      have written := Predicate.whereClause_ofComparisons (List.cons_ne_nil comparison rest)
      rw [written, if_neg (by simp)]
      simp [whereText, Comparison.text_fragment, Function.comp_def]

/-- A `WHERE` clause ends where none begins and no comparison is added. -/
theorem delimited_whereText :
    Delimited (fun forms => (whereText forms).toList) fun rest =>
      NotLedBy " WHERE ".toList rest ∧ NotLedBy " AND ".toList rest := by
  have separated := ComparisonForm.delimited_text.separated " AND ".toList fun _ => trivial
  have led (form : ComparisonForm) (more : List ComparisonForm) (later : List Char) :
      " WHERE ".toList <+: (whereText (form :: more)).toList ++ later := by
    rw [toList_whereText_cons, List.append_assoc]
    exact List.prefix_append _ _
  have nothing (later : List Char) : (whereText []).toList ++ later = later := rfl
  constructor
  intro forms others rest other restEnds otherEnds same
  match forms, others with
  | [], [] => exact ⟨rfl, same⟩
  | [], form :: more =>
      rw [nothing] at same
      rw [same] at restEnds
      exact absurd (led form more other) restEnds.1
  | form :: more, [] =>
      rw [nothing] at same
      rw [← same] at otherEnds
      exact absurd (led form more rest) otherEnds.1
  | form :: more, otherForm :: others =>
      rw [toList_whereText_cons, toList_whereText_cons, List.append_assoc _ _ rest,
        List.append_assoc _ _ other, List.append_cancel_left_eq] at same
      obtain ⟨forms, rests⟩ := separated.split (x := (form, more)) (y := (otherForm, others))
        ⟨trivial, restEnds.2⟩ ⟨trivial, otherEnds.2⟩ same
      cases forms
      exact ⟨rfl, rests⟩

/-! ## Windows -/

/-- The rows that options count from a start, which is the first one if they give none. -/
def ReadOptions.window (options : ReadOptions) : Option (Nat × Nat) :=
  options.limit.map fun limit => (options.offset.getD 0, limit)

/-- The numbers of a `LIMIT` clause, the first one and the others: the start, unless it is the first
row, and the number of rows. -/
def windowNumbers : Nat × Nat → Nat × List Nat
  | (0, limit) => (limit, [])
  | (n + 1, limit) => (n + 1, [limit])

theorem windowNumbers_injective : Function.Injective windowNumbers := by
  intro window other same
  match window, other with
  | (0, limit), (0, otherLimit) | (n + 1, limit), (m + 1, otherLimit) =>
      cases same
      rfl
  | (0, _), (_ + 1, _) | (_ + 1, _), (0, _) => cases same

/-- The text of a `LIMIT` clause with the space before it. -/
def windowText : Option (Nat × Nat) → String
  | none => ""
  | some window =>
      " LIMIT " ++ String.intercalate ", "
        (((windowNumbers window).1 :: (windowNumbers window).2).map Nat.repr)

theorem toList_windowText_some (window : Nat × Nat) :
    (windowText (some window)).toList =
      " LIMIT ".toList ++ ((Nat.repr (windowNumbers window).1).toList ++
        (windowNumbers window).2.flatMap fun n => ", ".toList ++ (Nat.repr n).toList) := by
  simp [windowText, String.toList_intercalate, intercalate_cons_eq_flatMap, List.flatMap_map]

theorem chars_limitClause (options : ReadOptions) :
    (if Statement.limitClause options.limit options.offset = "" then []
      else ' ' :: (Statement.limitClause options.limit options.offset).toList) =
      (windowText options.window).toList := by
  obtain ⟨fields, limit, offset, orderBy, count⟩ := options
  cases limit with
  | none => rfl
  | some limit =>
      match offset with
      | none | some 0 | some (n + 1) =>
          simp [Statement.limitClause, ReadOptions.window, toList_windowText_some, windowNumbers]

/-- A window is read back from its clause: a comma tells whether the first number is the start. -/
theorem windowText_injective : Function.Injective windowText := by
  have separated := delimited_repr.separated ", ".toList (by simp)
  intro window other same
  have chars := congrArg String.toList same
  match window, other with
  | none, none => rfl
  | none, some window | some window, none =>
      rw [toList_windowText_some] at chars
      simp [windowText] at chars
  | some window, some other =>
      rw [toList_windowText_some, toList_windowText_some, List.append_cancel_left_eq] at chars
      rw [windowNumbers_injective (separated.injective ⟨by simp, by simp [NotLedBy]⟩ chars)]

/-! ## Columns -/

/-- The names of the columns that fields ask for, none of them for every column. Nothing is read
from a text that stands in the query as it is. -/
def Value.askedNames? (fields : Value) : Option (List String) :=
  if fields.isNull || fields.equal (.text "*") then some []
  else fields.sequence?.bind (·.mapM Value.text?)

/-- The columns of a query by their names. -/
def columnsText (names : List String) : String :=
  if names.isEmpty then "*" else String.intercalate ", " (names.map quoteName)

theorem toList_columnsText_cons (name : String) (others : List String) :
    (columnsText (name :: others)).toList =
      quoteNameChars name.toList ++
        others.flatMap fun other => ", ".toList ++ quoteNameChars other.toList := by
  simp [columnsText, String.toList_intercalate, intercalate_cons_eq_flatMap, List.flatMap_map]

/-- Texts are quoted one after the other. -/
theorem Statement.quotedNames_of_mapM_text? {items : List Value} {names : List String}
    (texts : items.mapM Value.text? = some names) :
    quotedNames items = .ok (names.map quoteName) := by
  induction items generalizing names with
  | nil =>
      cases texts
      rfl
  | cons item rest ih =>
      simp only [List.mapM_cons, Option.bind_eq_bind, Option.bind_eq_some_iff] at texts
      obtain ⟨name, text, others, found, same⟩ := texts
      cases same
      simp only [quotedNames, Value.asName, Value.escapable, text, ih found]
      rfl

/-- Fields that ask for columns stand in the query as the names of these. -/
theorem Statement.projection_of_askedNames? {fields : Value} {names : List String}
    (asked : fields.askedNames? = some names) : projection fields = .ok (columnsText names) := by
  rw [Value.askedNames?] at asked
  split at asked
  next every =>
    cases asked
    rw [projection, if_pos every]
    rfl
  next =>
    obtain ⟨items, sequence, texts⟩ := Option.bind_eq_some_iff.mp asked
    rw [ReadOptions.projection_of_sequence sequence (quotedNames_of_mapM_text? texts)]
    cases items with
    | nil =>
        cases texts
        rfl
    | cons item rest =>
        simp only [List.mapM_cons, Option.bind_eq_bind, Option.bind_eq_some_iff] at texts
        obtain ⟨name, _, others, _, same⟩ := texts
        cases same
        rfl

/-- The columns of a query end before what is no further name. -/
theorem delimited_columnsText :
    Delimited (fun names => (columnsText names).toList) fun rest =>
      rest.head? ≠ some '\x60' ∧ NotLedBy ", ".toList rest := by
  have separated := delimited_quoteName.separated ", ".toList (by simp)
  have every : (columnsText []).toList = ['*'] := by simp [columnsText]
  constructor
  intro names others rest other restEnds otherEnds same
  match names, others with
  | [], [] => exact ⟨rfl, List.append_cancel_left same⟩
  | [], name :: more | name :: more, [] =>
      rw [toList_columnsText_cons, every] at same
      simp [quoteNameChars] at same
  | name :: more, otherName :: others =>
      rw [toList_columnsText_cons, toList_columnsText_cons] at same
      obtain ⟨names, rests⟩ := separated.split (x := (name, more)) (y := (otherName, others))
        restEnds otherEnds same
      cases names
      exact ⟨rfl, rests⟩

/-! ## Queries -/

/-- What a query for rows asks for: the names of the columns, none for all of them, the comparisons
without their values, and the window of rows. -/
structure ReadForm where
  names : List String
  comparisons : List ComparisonForm
  window : Option (Nat × Nat)
  deriving DecidableEq

namespace ReadForm

/-- The text of the query of a table for a form. -/
def sql (table : Table) (form : ReadForm) : String :=
  "SELECT " ++ columnsText form.names ++ (" FROM " ++ quoteName table.name) ++
    whereText form.comparisons ++ windowText form.window

/-- The form of a query can be read back from its text. -/
theorem sql_injective (table : Table) : Function.Injective (sql table) := by
  have windowEnds (window : Option (Nat × Nat)) :
      NotLedBy " WHERE ".toList (windowText window).toList ∧
        NotLedBy " AND ".toList (windowText window).toList := by
    cases window with
    | none => simp [windowText, NotLedBy]
    | some window => simp [toList_windowText_some, NotLedBy]
  have columnsEnd (rest : List Char) :
      (" FROM ".toList ++ rest).head? ≠ some '\x60' ∧
        NotLedBy ", ".toList (" FROM ".toList ++ rest) := by
    simp [NotLedBy]
  rintro ⟨names, comparisons, window⟩ ⟨otherNames, otherComparisons, otherWindow⟩ same
  have chars := congrArg String.toList same
  simp only [sql, String.toList_append, List.append_assoc, List.append_cancel_left_eq] at chars
  -- The parts are split off from left to right, each by the text that the next one begins with.
  obtain ⟨rfl, behindColumns⟩ := delimited_columnsText.split (columnsEnd _) (columnsEnd _) chars
  simp only [List.append_cancel_left_eq] at behindColumns
  obtain ⟨rfl, behindWhere⟩ :=
    delimited_whereText.split (windowEnds window) (windowEnds otherWindow) behindColumns
  rw [windowText_injective (String.toList_inj.mp behindWhere)]

end ReadForm

/-- A query for named columns in no order is written from its form. -/
theorem Statement.select_eq_ok {table : Table} {comparisons : List Comparison}
    {options : ReadOptions} {names : List String} (asked : options.fields.askedNames? = some names)
    (unordered : options.orderBy = .null) :
    select table (.ofComparisons comparisons) options =
      .ok ⟨ReadForm.sql table ⟨names, comparisons.map Comparison.form, options.window⟩,
        (Predicate.ofComparisons comparisons).parameters, .select, table.name⟩ := by
  have text : plainReadSql ("SELECT " ++ columnsText names ++ " FROM " ++ quoteName table.name)
      comparisons options =
        ReadForm.sql table ⟨names, comparisons.map Comparison.form, options.window⟩ := by
    rw [← String.toList_inj, plainReadSql, toList_joinClauses _ (by simp)]
    simp only [List.flatMap_cons, List.flatMap_nil, chars_whereClause, chars_limitClause]
    simp [ReadForm.sql]
  simp only [select, projection_of_askedNames? asked]
  change (do
    let sql ← readSql _ _ options
    return (⟨sql, _, .select, table.name⟩ : Statement) : Except Fault Statement) = _
  rw [readSql_eq _ _ unordered, text]
  rfl

/-- Two fragments that are the same but for the values of their parameters. -/
def Fragment.Resembles (fragment other : Fragment) : Prop :=
  fragment.text = other.text ∧ fragment.parameters.length = other.parameters.length

theorem Comparison.resembles_iff (comparison other : Comparison) :
    comparison.fragment.Resembles other.fragment ↔ comparison.form = other.form := by
  rw [Fragment.Resembles, text_fragment, text_fragment, length_parameters_fragment,
    length_parameters_fragment]
  constructor
  · rintro ⟨texts, _⟩
    exact ComparisonForm.delimited_text.injective trivial (congrArg String.toList texts)
  · intro same
    exact ⟨congrArg _ same, congrArg _ same⟩

/-- The fragments of two predicates resemble each other one by one just when the forms of their
comparisons are the same. -/
theorem Predicate.forall₂_resembles_iff (comparisons others : List Comparison) :
    List.Forall₂ Fragment.Resembles (ofComparisons comparisons).fragments
        (ofComparisons others).fragments ↔
      comparisons.map Comparison.form = others.map Comparison.form := by
  simp only [ofComparisons, List.forall₂_map_left_iff, List.forall₂_map_right_iff,
    Comparison.resembles_iff]
  rw [← List.forall₂_eq_eq_eq, List.forall₂_map_left_iff, List.forall₂_map_right_iff]

theorem ReadOptions.window_eq_iff (options other : ReadOptions) :
    options.window = other.window ↔
      options.limit = other.limit ∧
        (options.limit.isSome = true → options.offset.getD 0 = other.offset.getD 0) := by
  simp only [window]
  cases options.limit with
  | none => cases other.limit <;> simp
  | some limit => cases other.limit <;> simp [and_comm]

/-- Different reads have different texts. Two queries for rows of one table that ask for every
column or for named ones and that order nothing are built for any two conditions that compile, and
they have the same text just when they ask for the same names, have fragments that resemble each
other, and have the same limit and, if there is one, the same offset. -/
theorem Statement.select_sql_eq_iff {table : Table} {condition otherCondition : Option Condition}
    {predicate otherPredicate : Predicate} {options otherOptions : ReadOptions}
    {names otherNames : List String} (compiled : Condition.CompilesTo table condition predicate)
    (otherCompiled : Condition.CompilesTo table otherCondition otherPredicate)
    (asked : options.fields.askedNames? = some names)
    (otherAsked : otherOptions.fields.askedNames? = some otherNames)
    (unordered : options.orderBy = .null) (otherUnordered : otherOptions.orderBy = .null) :
    ∃ statement other, select table predicate options = .ok statement ∧
      select table otherPredicate otherOptions = .ok other ∧
      (statement.sql = other.sql ↔
        names = otherNames ∧
          List.Forall₂ Fragment.Resembles predicate.fragments otherPredicate.fragments ∧
          options.limit = otherOptions.limit ∧
          (options.limit.isSome = true →
            options.offset.getD 0 = otherOptions.offset.getD 0)) := by
  obtain ⟨environment, report, compiled, accepted⟩ := compiled
  obtain ⟨otherEnvironment, otherReport, otherCompiled, otherAccepted⟩ := otherCompiled
  obtain ⟨comparisons, _, rfl⟩ := Condition.asks_of_compile compiled accepted
  obtain ⟨others, _, rfl⟩ := Condition.asks_of_compile otherCompiled otherAccepted
  refine ⟨_, _, select_eq_ok asked unordered, select_eq_ok otherAsked otherUnordered, ?_⟩
  rw [(ReadForm.sql_injective table).eq_iff, ReadForm.mk.injEq, Predicate.forall₂_resembles_iff,
    ReadOptions.window_eq_iff]

/-- One column whose name has marks and a comma is not read by the text that reads two columns. -/
theorem Statement.select_sql_eq_iff_people :
    ∃ statement other,
      select people ⟨[.equals "id" (.int 7)]⟩
        { ReadOptions.standard with fields := .list [.text "id\x60, \x60active"] } =
          .ok statement ∧
      select people ⟨[.equals "id" (.int 8)]⟩
        { ReadOptions.standard with fields := .list [.text "id", .text "active"] } = .ok other ∧
      statement.sql ≠ other.sql := by
  have byKey (v : Value) :
      Condition.CompilesTo people (some (.scalar v)) ⟨[.equals "id" v]⟩ :=
    ⟨⟨⟨0, 0⟩, []⟩, _, rfl, rfl⟩
  have one : ({ ReadOptions.standard with
      fields := .list [.text "id\x60, \x60active"] } : ReadOptions).fields.askedNames? =
        some ["id\x60, \x60active"] := rfl
  have two : ({ ReadOptions.standard with
      fields := .list [.text "id", .text "active"] } : ReadOptions).fields.askedNames? =
        some ["id", "active"] := rfl
  obtain ⟨statement, other, built, otherBuilt, same⟩ :=
    select_sql_eq_iff (byKey (.int 7)) (byKey (.int 8)) one two rfl rfl
  refine ⟨statement, other, built, otherBuilt, fun texts => ?_⟩
  exact absurd (same.mp texts).1 (by decide)

end RowMapper
