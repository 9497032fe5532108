import RowMapper.Environment
import RowMapper.Proofs.Schema.ColumnClauses
import RowMapper.Proofs.TimestampLiteral
import RowMapper.Proofs.Value.StoredForm

/-!
# What a default in a column definition means

The database fills a column that an insertion leaves out with the constant in the column's
definition; a record that is made with its defaults stores what its own default is converted to.
`Column.denoted?` reads the constant by the rules of the database: null, an integer, or a string
literal, which for a column of dates and times has to write one. The two values are equal unless
the written form leaves something out, which it does for times with microseconds, with an offset or
before the year 1000, and for field types, which are written under another name.
-/

namespace RowMapper

namespace Sql

/-- The natural number that a text of digits writes. -/
def naturalLiteral? (digits : List Char) : Option Nat :=
  if !digits.isEmpty && digits.all Char.isDigit then some (naturalOfDigits digits) else none

/-- The integer that a text writes, digits with perhaps a minus in front. -/
def integerLiteral? : List Char → Option Int
  | '-' :: digits => (naturalLiteral? digits).map fun n : Nat => -(n : Int)
  | digits => (naturalLiteral? digits).map fun n : Nat => (n : Int)

/-- The value of a constant: null, a string literal that is read to its end, or an integer. -/
def readConstant? (meaning : Char → List Char) (cs : List Char) : Option Value :=
  if cs = "NULL".toList then some .null
  else
    match readLiteral meaning cs with
    | some ⟨content, []⟩ => some (.text (.ofList content))
    | some _ => none
    | none => (integerLiteral? cs).map .int

end Sql

open Sql

variable {meaning : Char → List Char}

theorem naturalLiteral?_toDigits (n : Nat) : naturalLiteral? (Nat.toDigits 10 n) = some n := by
  have digits : (Nat.toDigits 10 n).all Char.isDigit = true :=
    List.all_eq_true.mpr (Json.isDigit_of_mem_toDigits n)
  simp [naturalLiteral?, Nat.toDigits_ne_nil, digits, Json.naturalOfDigits_toDigits]

/-- What an integer is written as is read as that integer. -/
theorem integerLiteral?_decimalText (n : Int) :
    integerLiteral? (decimalText n).toList = some n := by
  rw [decimalText]
  split
  next negative =>
    rw [String.toList_append, Nat.toList_repr]
    change (naturalLiteral? (Nat.toDigits 10 n.natAbs)).map (fun n : Nat => -(n : Int)) = some n
    rw [naturalLiteral?_toDigits, Option.map_some, Option.some.injEq]
    omega
  next natural =>
    rw [Nat.toList_repr, integerLiteral?, naturalLiteral?_toDigits, Option.map_some,
      Option.some.injEq]
    · omega
    · intro digits same
      obtain ⟨c, others, cons, isDigit⟩ := Json.exists_cons_toDigits n.natAbs
      rw [cons] at same
      rw [(List.cons.inj same).1] at isDigit
      cases isDigit

theorem readConstant?_decimalText (n : Int) :
    readConstant? meaning (decimalText n).toList = some (.int n) := by
  have number := isNumberTextChar_decimalText n
  have notNull : (decimalText n).toList ≠ "NULL".toList :=
    fun same => ne_null_of_number number (String.toList_inj.mp same)
  have notLiteral : readLiteral meaning (decimalText n).toList = none := by
    cases chars : (decimalText n).toList with
    | nil => rfl
    | cons c rest =>
        rw [chars] at number
        have isNumber := number c List.mem_cons_self
        rw [readLiteral]
        rintro others same
        rw [(List.cons.inj same).1] at isNumber
        cases isNumber
  rw [readConstant?, if_neg notNull, notLiteral, integerLiteral?_decimalText]
  rfl

theorem readConstant?_quoteLiteral (s : String) :
    readConstant? meaning (quoteLiteral s).toList = some (.text s) := by
  have notNull : (quoteLiteral s).toList ≠ "NULL".toList :=
    fun same => quoteLiteral_ne_null s (String.toList_inj.mp same)
  have read : readLiteral meaning (quoteLiteralChars s.toList ++ []) = some ⟨s.toList, []⟩ :=
    readLiteral_quoteLiteralChars s.toList (by simp)
  rw [List.append_nil, ← toList_quoteLiteral] at read
  rw [readConstant?, if_neg notNull, read]
  simp

namespace Column

variable {column : Column} {sql : String}

/-- The value that the constant in a column's definition denotes. In a column of dates and times a
string literal has to write one. -/
def denoted? (meaning : Char → List Char) (column : Column) (sql : String) : Option Value :=
  match column.type, readConstant? meaning sql.toList with
  | .datetime, some (.text s) => (Timestamp.ofLiteral? s.toList).map .timestamp
  | _, v => v

/-- Whether the constant written for the default of a column leaves nothing out and is no other. -/
def IsWrittenWhole (column : Column) : Prop :=
  match column.default with
  | .fieldType _ => False
  | .timestamp t => t.FillsPlaces ∧ t.microsecond = 0 ∧ t.offset = none
  | _ => True

/-- Whether the constant in a column's definition denotes a value that equals the one stored. -/
def DenotesStored (meaning : Char → List Char) (column : Column) (sql : String) (stored : Value) :
    Prop :=
  ∃ v, column.denoted? meaning sql = some v ∧ v.equal stored = true

/-- Outside columns of dates and times a constant denotes what it is read as. -/
theorem denotesStored_iff {v stored : Value} (type : column.type ≠ .datetime)
    (read : readConstant? meaning sql.toList = some v) :
    column.DenotesStored meaning sql stored ↔ v.equal stored = true := by
  have denoted : column.denoted? meaning sql = some v := by
    rw [denoted?, read]
    split
    next isTime _ => exact absurd isTime type
    next => rfl
  simp [DenotesStored, denoted]

/-- In a column of dates and times a literal denotes what is written of a timestamp, if that can be
read back. -/
theorem denotesStored_time_iff {t : Timestamp} (type : column.type = .datetime) :
    column.DenotesStored meaning (quoteLiteral t.literalText) (.timestamp t) ↔
      t.FillsPlaces ∧ t.microsecond = 0 ∧ t.offset = none := by
  have denoted : column.denoted? meaning (quoteLiteral t.literalText) =
      (Timestamp.ofLiteral? t.literalText.toList).map .timestamp := by
    rw [denoted?, readConstant?_quoteLiteral, type]
  have equal_iff (u : Timestamp) : Value.equal (.timestamp u) (.timestamp t) = u.equal t := rfl
  simp only [DenotesStored, denoted, Option.map_eq_some_iff, Timestamp.ofLiteral?_literalText]
  constructor
  · rintro ⟨_, ⟨_, ⟨fills, rfl⟩, rfl⟩, same⟩
    rw [equal_iff] at same
    exact ⟨fills, Timestamp.equal_written_iff.mp same⟩
  · rintro ⟨fills, complete⟩
    refine ⟨_, ⟨_, ⟨fills, rfl⟩, rfl⟩, ?_⟩
    rw [equal_iff]
    exact Timestamp.equal_written_iff.mpr complete

theorem WritesDefault.resolveDefault_eq (writes : column.WritesDefault column.default sql)
    (environment : Environment) :
    column.resolveDefault environment = (.ok column.default, environment) := by
  rw [resolveDefault]
  generalize column.default = v at writes
  cases writes <;> rfl

/-- What is stored for a default that is written, and when its written form denotes that. -/
theorem WritesDefault.exists_stored (meaning : Char → List Char)
    (writes : column.WritesDefault column.default sql) (notFloat : column.type ≠ .float) :
    ∃ stored, column.toStorage column.default = .ok stored ∧
      (column.DenotesStored meaning sql stored ↔ column.IsWrittenWhole) := by
  have numbers_equal (n : Int) : Value.equal (.int n) (.int n) = true := by
    simp [Value.equal, Value.sameItem, Value.number?]
  rw [IsWrittenWhole]
  generalize column.default = v at writes
  cases writes with
  | null takes =>
      refine ⟨.null, rfl, iff_of_true ⟨.null, ?_, rfl⟩ trivial⟩
      cases type : column.type <;> rw [denoted?, type] <;> rfl
  | whole n type =>
      obtain ⟨_, notJson, notBoolean, notTime⟩ := ne_of_wholeType type
      refine ⟨.int n, toStorage_of_other notBoolean notJson, ?_⟩
      rw [denotesStored_iff notTime (readConstant?_decimalText n)]
      exact iff_of_true (numbers_equal n) trivial
  | fraction x type => exact absurd type notFloat
  | truth b type =>
      have stored : column.toStorage (.bool b) = .ok (.int (if b then 1 else 0)) := by
        rw [toStorage, type]
        rfl
      refine ⟨_, stored, ?_⟩
      rw [truthText_eq, denotesStored_iff (by rw [type]; decide) (readConstant?_decimalText _)]
      exact iff_of_true (numbers_equal _) trivial
  | text s type =>
      refine ⟨.text s, toStorage_of_other (by rw [type]; decide) (by rw [type]; decide), ?_⟩
      rw [denotesStored_iff (by rw [type]; decide) (readConstant?_quoteLiteral s)]
      exact iff_of_true (by simp [Value.equal, Value.sameItem, Value.text?]) trivial
  | member named type =>
      -- The text that is written names the field type, and the stored value is its name.
      refine ⟨.fieldType named, toStorage_of_other (by rw [type]; decide) (by rw [type]; decide),
        ?_⟩
      rw [denotesStored_iff (by rw [type]; decide) (readConstant?_quoteLiteral _)]
      refine iff_of_false ?_ not_false
      cases named <;> decide
  | time t type =>
      exact ⟨.timestamp t, toStorage_of_other (by rw [type]; decide) (by rw [type]; decide),
        denotesStored_time_iff type⟩

/-- A record that is made with its defaults stores what the constant in the definition of an
accepted column denotes, for every default that is written, unless that is a field type or a time
of which something is left out. Of the dates and times of the calendar those before the year 1000
do not fill their places. The fractions that are defaults of floating point columns are not read
here. -/
theorem default_denotes_stored_iff (meaning : Char → List Char) (accepted : column.verdict = .ok)
    (notFloat : column.type ≠ .float) (written : column.defaultSql? = some sql)
    (environment : Environment) :
    ∃ given stored, column.resolveDefault environment = (.ok given, environment) ∧
      column.toStorage given = .ok stored ∧
      (column.DenotesStored meaning sql stored ↔ column.IsWrittenWhole) ∧
      ∀ t, column.default = .timestamp t → t.IsCalendar → (t.FillsPlaces ↔ 1000 ≤ t.year) := by
  have writes := (defaultSql?_eq_some_iff accepted).mp written
  obtain ⟨stored, converted, denotes⟩ := writes.exists_stored meaning notFloat
  exact ⟨column.default, stored, writes.resolveDefault_eq environment, converted, denotes,
    fun _ _ calendar => calendar.fillsPlaces_iff⟩

end Column

/-- A time to the second, for examples. -/
def opening : Timestamp :=
  ⟨2024, 1, 2, 3, 4, 5, 0, none⟩

/-- A time to the microsecond, for examples. -/
def preciseOpening : Timestamp :=
  { opening with microsecond := 678901 }

/-- A column of dates and times to the microsecond with a default, for examples. -/
def openedAt (t : Timestamp) : Column :=
  { ColumnTraits.standard with
    databaseType := .text "DATETIME(6)", default := .timestamp t, label := .text "opened",
    type := .datetime }

/-- A default to the second is stored as what its written form denotes. -/
theorem default_denotes_stored_iff_opened :
    ∃ given stored, (openedAt opening).resolveDefault ⟨⟨0, 1⟩, []⟩ = (.ok given, ⟨⟨0, 1⟩, []⟩) ∧
      (openedAt opening).toStorage given = .ok stored ∧
      (openedAt opening).DenotesStored (fun c => [c]) "'2024-01-02 03:04:05'" stored := by
  have written : (openedAt opening).defaultSql? = some "'2024-01-02 03:04:05'" := by
    decide +kernel
  obtain ⟨given, stored, resolved, converted, denotes, fills⟩ :=
    Column.default_denotes_stored_iff (fun c => [c]) (by decide) (by decide) written ⟨⟨0, 1⟩, []⟩
  have calendar : opening.IsCalendar := ⟨2024, 1, 2, 3, 4, 5, 0, none, rfl⟩
  have whole : (openedAt opening).IsWrittenWhole :=
    ⟨(fills opening rfl calendar).mpr (by decide), rfl, rfl⟩
  exact ⟨given, stored, resolved, converted, denotes.mpr whole⟩

/-- A default with microseconds is stored with them and written without. -/
theorem default_loses_microseconds :
    (openedAt preciseOpening).verdict = .ok ∧
      (openedAt preciseOpening).defaultSql? = some "'2024-01-02 03:04:05'" ∧
      ((openedAt preciseOpening).resolveDefault ⟨⟨0, 1⟩, []⟩).1 =
        .ok (.timestamp preciseOpening) ∧
      (openedAt preciseOpening).toStorage (.timestamp preciseOpening) =
        .ok (.timestamp preciseOpening) ∧
      ¬ (openedAt preciseOpening).DenotesStored (fun c => [c]) "'2024-01-02 03:04:05'"
        (.timestamp preciseOpening) := by
  have literal : "'2024-01-02 03:04:05'" = quoteLiteral preciseOpening.literalText := by
    decide +kernel
  refine ⟨by decide, by decide +kernel, rfl, rfl, ?_⟩
  rw [literal, Column.denotesStored_time_iff rfl]
  exact fun complete => absurd complete.2.1 (by decide)

end RowMapper
