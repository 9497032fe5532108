import Mathlib.Data.List.TakeWhile
import RowMapper.Proofs.Json.Token
import RowMapper.Timestamp

/-!
# Dates and times read back

The database reads a date and time in a fixed form: each field has its number of digits, and a
point and microseconds may follow the seconds. `Timestamp.ofLiteral?` is that reading. What a
timestamp is written as for a column default has neither microseconds nor an offset, and its year
has no zeros in front. So it is read back just when the fields fill their places, as the same date
and time to the second.
-/

namespace RowMapper.Timestamp

/-! ## The reader -/

/-- Read a field off the front of a text: digits, as many as there are places, and the mark behind
them. -/
def readField? (places : Nat) (mark : Char) (cs : List Char) : Option (Nat × List Char) :=
  let digits := cs.takeWhile Char.isDigit
  match cs.dropWhile Char.isDigit with
  | c :: rest =>
      if digits.length = places && c = mark then some (naturalOfDigits digits, rest) else none
  | [] => none

/-- Read seconds, perhaps with a point and microseconds behind them, up to the end of a text. -/
def readSeconds? (cs : List Char) : Option (Nat × Nat) :=
  let digits := cs.takeWhile Char.isDigit
  if digits.length = 2 then
    match cs.dropWhile Char.isDigit with
    | [] => some (naturalOfDigits digits, 0)
    | c :: fraction =>
        if c = '.' && fraction.length = 6 && fraction.all Char.isDigit then
          some (naturalOfDigits digits, naturalOfDigits fraction)
        else none
  else none

/-- The date and time, without an offset, that a text writes. -/
def ofLiteral? (cs : List Char) : Option Timestamp := do
  let (year, cs) ← readField? 4 '-' cs
  let (month, cs) ← readField? 2 '-' cs
  let (day, cs) ← readField? 2 ' ' cs
  let (hour, cs) ← readField? 2 ':' cs
  let (minute, cs) ← readField? 2 ':' cs
  let (second, microsecond) ← readSeconds? cs
  return ⟨year, month, day, hour, minute, second, microsecond, none⟩

/-! ## Fields -/

variable {places n m : Nat} {mark : Char} {digits rest more : List Char}

theorem readField?_digits (areDigits : ∀ c ∈ digits, c.isDigit = true)
    (isMark : mark.isDigit = false) :
    readField? places mark (digits ++ mark :: rest) = some (n, more) ↔
      digits.length = places ∧ n = naturalOfDigits digits ∧ more = rest := by
  have notDigit : ¬ mark.isDigit = true := by simp [isMark]
  rw [readField?, List.takeWhile_append_of_pos areDigits, List.dropWhile_append_of_pos areDigits,
    List.takeWhile_cons_of_neg notDigit, List.dropWhile_cons_of_neg notDigit, List.append_nil]
  simp [eq_comm]

theorem readSeconds?_digits (areDigits : ∀ c ∈ digits, c.isDigit = true) :
    readSeconds? digits = some (n, m) ↔
      digits.length = 2 ∧ n = naturalOfDigits digits ∧ m = 0 := by
  rw [readSeconds?, List.takeWhile_eq_self_iff.mpr areDigits,
    List.dropWhile_eq_nil_iff.mpr areDigits]
  simp [eq_comm]

theorem toList_padded (width n : Nat) :
    (padded width n).toList =
      Decimal.zeros (width - (Nat.toDigits 10 n).length) ++ Nat.toDigits 10 n := by
  simp [padded]

theorem isDigit_of_mem_padded (width n : Nat) :
    ∀ c ∈ (padded width n).toList, c.isDigit = true := by
  rw [toList_padded, List.forall_mem_append]
  refine ⟨?_, Json.isDigit_of_mem_toDigits n⟩
  intro c member
  rw [(List.mem_replicate.mp member).2]
  decide

theorem naturalOfDigits_padded (width n : Nat) : naturalOfDigits (padded width n).toList = n := by
  have value : Nat.ofDigitChars 10 (padded width n).toList 0 = n := by
    rw [toList_padded, Nat.ofDigitChars_append, Decimal.zeros, Nat.ofDigitChars_replicate_zero,
      Nat.mul_zero, Nat.ofDigitChars_ten_toDigits]
  exact value

theorem length_padded_eq_iff (n : Nat) : (padded 2 n).toList.length = 2 ↔ n < 100 := by
  have atMost := Nat.length_toDigits_le_iff (b := 10) (n := n) (k := 2) (by decide) (by decide)
  rw [toList_padded, List.length_append, Decimal.zeros, List.length_replicate]
  omega

theorem length_year_eq_iff (year : Nat) :
    (Nat.repr year).toList.length = 4 ↔ 1000 ≤ year ∧ year < 10000 := by
  have atMost := Nat.length_toDigits_le_iff (b := 10) (n := year) (k := 4) (by decide) (by decide)
  have atMostThree :=
    Nat.length_toDigits_le_iff (b := 10) (n := year) (k := 3) (by decide) (by decide)
  rw [Nat.toList_repr]
  omega

/-! ## Dates and times -/

/-- Whether every field of a timestamp has as many digits as it has places in a literal. -/
structure FillsPlaces (t : Timestamp) : Prop where
  year : 1000 ≤ t.year ∧ t.year < 10000
  month : t.month < 100
  day : t.day < 100
  hour : t.hour < 100
  minute : t.minute < 100
  second : t.second < 100

/-- The timestamp as it is written for a column default: to the second, without its offset. -/
def written (t : Timestamp) : Timestamp :=
  { t with microsecond := 0, offset := none }

theorem readField?_padded (isMark : mark.isDigit = false) :
    readField? 2 mark ((padded 2 m).toList ++ mark :: rest) = some (n, more) ↔
      m < 100 ∧ n = m ∧ more = rest := by
  rw [readField?_digits (isDigit_of_mem_padded 2 m) isMark, naturalOfDigits_padded,
    length_padded_eq_iff]

theorem readSeconds?_padded {second : Nat} :
    readSeconds? (padded 2 second).toList = some (n, m) ↔ second < 100 ∧ n = second ∧ m = 0 := by
  rw [readSeconds?_digits (isDigit_of_mem_padded 2 second), naturalOfDigits_padded,
    length_padded_eq_iff]

theorem readField?_year {year : Nat} (isMark : mark.isDigit = false) :
    readField? 4 mark ((Nat.repr year).toList ++ mark :: rest) = some (n, more) ↔
      (1000 ≤ year ∧ year < 10000) ∧ n = year ∧ more = rest := by
  rw [Nat.toList_repr, readField?_digits (Json.isDigit_of_mem_toDigits year) isMark,
    Json.naturalOfDigits_toDigits, ← Nat.toList_repr, length_year_eq_iff]

/-- The literal of a timestamp is read back to the second if its fields fill their places, and is no
date and time otherwise. -/
theorem ofLiteral?_literalText {t u : Timestamp} :
    ofLiteral? t.literalText.toList = some u ↔ t.FillsPlaces ∧ u = t.written := by
  have dash : '-'.isDigit = false := by decide
  have blank : ' '.isDigit = false := by decide
  have colon : ':'.isDigit = false := by decide
  have text : t.literalText.toList =
      (Nat.repr t.year).toList ++ '-' :: ((padded 2 t.month).toList ++
        '-' :: ((padded 2 t.day).toList ++ ' ' :: ((padded 2 t.hour).toList ++
          ':' :: ((padded 2 t.minute).toList ++ ':' :: (padded 2 t.second).toList)))) := by
    simp [literalText]
  have fields : ofLiteral? t.literalText.toList = some u ↔
      (1000 ≤ t.year ∧ t.year < 10000) ∧ t.month < 100 ∧ t.day < 100 ∧ t.hour < 100 ∧
        t.minute < 100 ∧ t.second < 100 ∧ some t.written = some u := by
    rw [text]
    simp only [ofLiteral?, Option.bind_eq_bind, Option.bind_eq_some_iff, Prod.exists,
      readField?_year dash, readField?_padded dash, readField?_padded blank,
      readField?_padded colon, readSeconds?_padded, and_assoc, exists_and_left, exists_eq_left]
    rfl
  rw [fields, Option.some.injEq]
  constructor
  · rintro ⟨year, month, day, hour, minute, second, rfl⟩
    exact ⟨⟨year, month, day, hour, minute, second⟩, rfl⟩
  · rintro ⟨⟨year, month, day, hour, minute, second⟩, rfl⟩
    exact ⟨year, month, day, hour, minute, second, rfl⟩

/-- Microseconds are read where they are written. -/
example : ofLiteral? "2024-01-02 03:04:05.678901".toList =
    some ⟨2024, 1, 2, 3, 4, 5, 678901, none⟩ := by decide

/-- A timestamp equals what is written of it just when nothing was left out. -/
theorem equal_written_iff {t : Timestamp} :
    t.written.equal t = true ↔ t.microsecond = 0 ∧ t.offset = none := by
  rw [equal, decide_eq_true_iff, compare?]
  cases offset : t.offset with
  | some minutes => simp [written]
  | none =>
      have instant_eq : t.instant = t.written.instant + t.microsecond := by
        simp only [instant, localMicroseconds, written, ordinal, offset]
        omega
      have same : t.written.offset.isSome = (none : Option Int).isSome := rfl
      rw [if_pos same, Option.some.injEq, Int.compare_eq_eq, instant_eq]
      simp only [and_true]
      omega

/-- Whether a timestamp is a date and time of the calendar. -/
def IsCalendar (t : Timestamp) : Prop :=
  ∃ year month day hour minute second microsecond offset,
    ofFields year month day hour minute second microsecond offset = .ok t

/-- The fields of a date and time of the calendar fill their places from the year 1000 on. -/
theorem IsCalendar.fillsPlaces_iff {t : Timestamp} (calendar : t.IsCalendar) :
    t.FillsPlaces ↔ 1000 ≤ t.year := by
  refine ⟨fun fills => fills.year.1, fun late => ?_⟩
  obtain ⟨year, month, day, hour, minute, second, microsecond, offset, made⟩ := calendar
  have short : daysInMonth year.toNat month.toNat ≤ 31 := by
    rw [daysInMonth]
    split_ifs <;> decide
  simp only [ofFields, bind, Except.bind, pure, Except.pure, throw, throwThe,
    MonadExceptOf.throw, Bool.or_eq_true, decide_eq_true_eq] at made
  repeat' split at made
  all_goals cases made
  -- Left are the fields within their ranges, without an offset and with one.
  all_goals constructor <;> dsimp only at late ⊢ <;> omega

end RowMapper.Timestamp
