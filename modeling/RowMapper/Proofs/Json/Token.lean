import RowMapper.Json.Reader
import RowMapper.Json.Writer

/-!
# Written texts and numbers are read back

A text is written with escapes of UTF-16 units, and reading joins the units to the characters they
came from. An integer is written in decimal and is read back as long as nothing behind it could
belong to a number.
-/

namespace RowMapper.Json

/-! ## UTF-16 units -/

/-- Code points of characters are no surrogates. -/
theorem toNat_lt_or_gt (c : Char) : c.toNat < 0xD800 ∨ 0xDFFF < c.toNat ∧ c.toNat < 0x110000 :=
  c.valid

theorem charOf_toNat (c : Char) : Text.Encoding.charOf c.toNat = c := by
  have valid : c.toNat.isValidChar := c.valid
  rw [Text.Encoding.charOf, if_pos valid, Char.ofNat_toNat]

/-- A unit that is no surrogate stands for itself. -/
theorem joinUnits_cons_of_not_surrogate {n : Nat} (notHigh : n < 0xD800 ∨ 0xDFFF < n)
    (more : List Nat) : Text.Encoding.joinUnits (n :: more) =
      Text.Encoding.charOf n :: Text.Encoding.joinUnits more := by
  cases more with
  | nil => rfl
  | cons next rest =>
      rw [Text.Encoding.joinUnits, if_neg]
      simp only [Bool.and_eq_true, decide_eq_true_eq]
      omega

/-- Two surrogates stand for the code point from which they were made. -/
theorem joinUnits_surrogates {n : Nat} (large : 0x10000 ≤ n) (bounded : n < 0x110000)
    (more : List Nat) :
    Text.Encoding.joinUnits
        ((0xD800 + (n - 0x10000) / 0x400) :: (0xDC00 + (n - 0x10000) % 0x400) :: more) =
      Text.Encoding.charOf n :: Text.Encoding.joinUnits more := by
  have high : (n - 0x10000) / 0x400 < 0x400 := by omega
  have same : 0x10000 + (0xD800 + (n - 0x10000) / 0x400 - 0xD800) * 0x400 +
      (0xDC00 + (n - 0x10000) % 0x400 - 0xDC00) = n := by omega
  rw [Text.Encoding.joinUnits, if_pos, same]
  simp only [Bool.and_eq_true, decide_eq_true_eq]
  omega

/-- Joining undoes the division of characters into units. -/
theorem joinUnits_flatMap_units (cs : List Char) :
    Text.Encoding.joinUnits (cs.flatMap fun c => units c.toNat) = cs := by
  induction cs with
  | nil => rfl
  | cons c rest ih =>
      have valid := toNat_lt_or_gt c
      rw [List.flatMap_cons, units]
      split
      next =>
        rw [List.singleton_append, joinUnits_cons_of_not_surrogate (by omega), ih, charOf_toNat]
      next pair =>
        rw [List.cons_append, List.singleton_append,
          joinUnits_surrogates (Nat.le_of_not_lt pair) (by omega), ih, charOf_toNat]

/-! ## Texts -/

theorem hexValue?_digitChar {d : Nat} (isDigit : d < 16) :
    hexValue? (Nat.digitChar d) = some d := by
  have all : ∀ d < 16, hexValue? (Nat.digitChar d) = some d := by decide
  exact all d isDigit

/-- Four hexadecimal digits are read as the unit that they were written for. -/
theorem readUnits_unitEscape {unit : Nat} (isUnit : unit < 0x10000) (left : Nat)
    {more : List Char} (followed : more ≠ []) :
    readUnits left (unitEscape unit ++ more) = prepend unit (readUnits left more) := by
  have read : unit? (Nat.digitChar (unit / 16 / 16 / 16 % 16)) (Nat.digitChar (unit / 16 / 16 % 16))
      (Nat.digitChar (unit / 16 % 16)) (Nat.digitChar (unit % 16)) = some unit := by
    simp only [unit?, hexValue?_digitChar (Nat.mod_lt _ (by decide : 0 < 16))]
    change some _ = some unit
    congr 1
    omega
  have notEmpty : more.isEmpty = false := by
    simpa using followed
  change readUnits left ('\\' :: 'u' :: Nat.digitChar (unit / 16 / 16 / 16 % 16) ::
    Nat.digitChar (unit / 16 / 16 % 16) :: Nat.digitChar (unit / 16 % 16) ::
    Nat.digitChar (unit % 16) :: more) = _
  rw [readUnits]
  simp only [read, notEmpty]
  rfl

/-- Units in front of those read after them. -/
def prependAll (before : List Nat) (rest : Reading (List Nat)) : Reading (List Nat) :=
  rest.map fun (units, left) => (before ++ units, left)

theorem prependAll_cons (unit : Nat) (before : List Nat) (rest : Reading (List Nat)) :
    prependAll (unit :: before) rest = prepend unit (prependAll before rest) := by
  cases rest with
  | error failure => rfl
  | ok reading => rfl

/-- Escapes of units are read as those units. -/
theorem readUnits_flatMap_unitEscape {before : List Nat}
    (areUnits : ∀ unit ∈ before, unit < 0x10000)
    (left : Nat) {more : List Char} (followed : more ≠ []) :
    readUnits left (before.flatMap unitEscape ++ more) =
      prependAll before (readUnits left more) := by
  induction before with
  | nil =>
      rw [List.flatMap_nil, List.nil_append]
      cases readUnits left more with
      | error failure => rfl
      | ok reading => rfl
  | cons unit rest ih =>
      have others := ih fun other member => areUnits other (List.mem_cons_of_mem unit member)
      rw [List.flatMap_cons, List.append_assoc,
        readUnits_unitEscape (areUnits unit List.mem_cons_self) left (by simp [followed]), others,
        prependAll_cons]

theorem units_lt {n : Nat} (bounded : n < 0x110000) : ∀ unit ∈ units n, unit < 0x10000 := by
  intro unit member
  rw [units] at member
  split at member
  next small =>
    rw [List.mem_singleton] at member
    omega
  next =>
    rw [List.mem_cons, List.mem_singleton] at member
    omega

/-- A one-letter escape is read as the character that it names. -/
theorem readUnits_simpleEscape {c e : Char} (escapes : simpleEscape? e = some c)
    (notNumeric : e ≠ 'u') (left : Nat) (more : List Char) :
    readUnits left ('\\' :: e :: more) = prepend c.toNat (readUnits left more) := by
  rw [readUnits, if_neg (by decide), if_pos rfl, escapes]
  exact notNumeric

/-- A character that needs no escape is read as itself. -/
theorem readUnits_plain {c : Char} (notQuote : c ≠ '"') (notEscape : c ≠ '\\')
    (printable : 32 ≤ c.toNat) (left : Nat) (more : List Char) :
    readUnits left (c :: more) = prepend c.toNat (readUnits left more) := by
  rw [readUnits.eq_def]
  dsimp only
  rw [if_neg notQuote, if_neg notEscape, if_neg (by omega)]

/-- A written character is read as its units. -/
theorem readUnits_escapeChar (c : Char) (left : Nat) {more : List Char} (followed : more ≠ []) :
    readUnits left (escapeChar c ++ more) =
      prependAll (units c.toNat) (readUnits left more) := by
  have short : ∀ {e : Char}, simpleEscape? e = some c → e ≠ 'u' → c.toNat < 0x10000 →
      readUnits left (['\\', e] ++ more) = prependAll (units c.toNat) (readUnits left more) := by
    intro e escapes notNumeric small
    rw [units, if_pos small]
    exact readUnits_simpleEscape escapes notNumeric left more
  rw [escapeChar]
  iterate 7
    split
    next same => subst same; exact short rfl (by decide) (by decide)
  split
  next printable =>
    rw [Bool.and_eq_true, decide_eq_true_eq, decide_eq_true_eq] at printable
    rw [units, if_pos (by omega)]
    exact readUnits_plain ‹_› ‹_› printable.1 left more
  next =>
    have bounded : c.toNat < 0x110000 := by
      have valid := toNat_lt_or_gt c
      omega
    exact readUnits_flatMap_unitEscape (units_lt bounded) left followed

/-- The written characters of a text are read as its units, up to the closing quote. -/
theorem readUnits_flatMap_escapeChar (cs : List Char) (left : Nat) (rest : List Char) :
    readUnits left (cs.flatMap escapeChar ++ '"' :: rest) =
      .ok (cs.flatMap fun c => units c.toNat, rest) := by
  induction cs with
  | nil =>
      rw [List.flatMap_nil, List.nil_append, readUnits.eq_def]
      rfl
  | cons c others ih =>
      rw [List.flatMap_cons, List.append_assoc, readUnits_escapeChar c left (by simp), ih]
      rfl

/-- A written text is read back. -/
theorem readText_writeText (s : String) (rest : List Char) :
    ∃ body, writeText s = '"' :: body ∧ readText (body ++ rest) = .ok (s, rest) := by
  refine ⟨s.toList.flatMap escapeChar ++ ['"'], rfl, ?_⟩
  rw [readText, List.append_assoc, List.singleton_append, readUnits_flatMap_escapeChar]
  simp only [Except.map, joinUnits_flatMap_units, String.ofList_toList]

/-! ## Integers -/

/-- Whether nothing in front of a text could go on with a number. -/
def EndsNumber (rest : List Char) : Prop :=
  ∀ c, rest.head? = some c → c.isDigit = false ∧ c ≠ '.' ∧ c ≠ 'e' ∧ c ≠ 'E'

/-- Decimal digits do not begin with zero, but for zero itself. -/
theorem head?_toDigits_ne {n : Nat} (positive : 0 < n) :
    (Nat.toDigits 10 n).head? ≠ some '0' := by
  induction n using Nat.strongRecOn with
  | ind n ih =>
      rw [Nat.toDigits_eq_if (by decide)]
      split
      next =>
        intro zero
        have isZero := Nat.digitChar_eq_zero.mp (Option.some.inj zero)
        omega
      next =>
        have higher := ih (n / 10) (by omega) (by omega)
        cases digits : Nat.toDigits 10 (n / 10) with
        | nil => exact absurd digits Nat.toDigits_ne_nil
        | cons c others =>
            rw [digits] at higher
            exact higher

theorem isDigit_of_mem_toDigits (n : Nat) : ∀ c ∈ Nat.toDigits 10 n, c.isDigit = true :=
  fun _ member => Nat.isDigit_of_mem_toDigits (by decide) (by decide) member

theorem takeWhile_isDigit_append {digits rest : List Char}
    (areDigits : ∀ c ∈ digits, c.isDigit = true) (ends : EndsNumber rest) :
    (digits ++ rest).takeWhile Char.isDigit = digits ∧
      (digits ++ rest).dropWhile Char.isDigit = rest := by
  have stops : rest.takeWhile Char.isDigit = [] ∧ rest.dropWhile Char.isDigit = rest := by
    cases rest with
    | nil => exact ⟨rfl, rfl⟩
    | cons c others =>
        have notDigit : ¬ c.isDigit = true := by
          rw [(ends c rfl).1]
          decide
        exact ⟨List.takeWhile_cons_of_neg notDigit, List.dropWhile_cons_of_neg notDigit⟩
  rw [List.takeWhile_append_of_pos areDigits, List.dropWhile_append_of_pos areDigits, stops.1,
    stops.2, List.append_nil]
  exact ⟨rfl, rfl⟩

/-- There is a first digit. -/
theorem exists_cons_toDigits (n : Nat) :
    ∃ c others, Nat.toDigits 10 n = c :: others ∧ c.isDigit = true := by
  cases digits : Nat.toDigits 10 n with
  | nil => exact absurd digits Nat.toDigits_ne_nil
  | cons c others =>
      refine ⟨c, others, rfl, isDigit_of_mem_toDigits n c ?_⟩
      rw [digits]
      exact List.mem_cons_self

/-- The digits of a natural are read as its whole digits. -/
theorem wholeDigits?_toDigits (n : Nat) {rest : List Char} (ends : EndsNumber rest) :
    wholeDigits? (Nat.toDigits 10 n ++ rest) = some (Nat.toDigits 10 n, rest) := by
  by_cases zero : n = 0
  · rw [zero]
    rfl
  · have head := head?_toDigits_ne (Nat.pos_of_ne_zero zero)
    obtain ⟨taken, dropped⟩ := takeWhile_isDigit_append (isDigit_of_mem_toDigits n) ends
    cases digits : Nat.toDigits 10 n with
    | nil => exact absurd digits Nat.toDigits_ne_nil
    | cons c others =>
        rw [digits] at head taken dropped
        have notZero : c ≠ '0' := fun same => head (congrArg some same)
        rw [List.cons_append, wholeDigits?, ← List.cons_append, taken, dropped]
        · rfl
        · intro more same
          exact notZero (List.cons.inj same).1

theorem fractionDigits_of_endsNumber {rest : List Char} (ends : EndsNumber rest) :
    fractionDigits rest = ([], rest) := by
  cases rest with
  | nil => rfl
  | cons c others =>
      rw [fractionDigits]
      intro more same
      exact (ends c rfl).2.1 (List.cons.inj same).1

theorem exponentPart?_of_endsNumber {rest : List Char} (ends : EndsNumber rest) :
    exponentPart? rest = none := by
  cases rest with
  | nil => rfl
  | cons c others =>
      obtain ⟨_, _, notLower, notUpper⟩ := ends c rfl
      simp [exponentPart?, notLower, notUpper]

theorem naturalOfDigits_toDigits (n : Nat) : naturalOfDigits (Nat.toDigits 10 n) = n :=
  Nat.ofDigitChars_ten_toDigits

/-- An integer has at most as many digits as readers allow. -/
def HasFewDigits (n : Int) : Prop :=
  (Nat.repr n.natAbs).length ≤ maxIntegerDigits

theorem length_toDigits_of_hasFewDigits {n : Int} (few : HasFewDigits n) :
    ¬ maxIntegerDigits < (Nat.toDigits 10 n.natAbs).length := by
  rw [← Nat.toList_repr, String.length_toList]
  exact Nat.not_lt.mpr few

/-- A written integer is read back. -/
theorem readNumber_decimalText {n : Int} (few : HasFewDigits n) {rest : List Char}
    (ends : EndsNumber rest) :
    readNumber ((decimalText n).toList ++ rest) = .ok (.int n, rest) := by
  have short := length_toDigits_of_hasFewDigits few
  by_cases negative : n < 0
  · have text : (decimalText n).toList ++ rest = '-' :: (Nat.toDigits 10 n.natAbs ++ rest) := by
      rw [decimalText, if_pos negative, String.toList_append, Nat.toList_repr]
      rfl
    have value : Binary64.signed true n.natAbs = n := by
      rw [Binary64.signed, if_pos rfl]
      omega
    rw [text, readNumber]
    simp only [wholeDigits?_toDigits n.natAbs ends, fractionDigits_of_endsNumber ends,
      exponentPart?_of_endsNumber ends, naturalOfDigits_toDigits, value, if_neg short]
    rfl
  · have text : (decimalText n).toList ++ rest = Nat.toDigits 10 n.natAbs ++ rest := by
      rw [decimalText, if_neg negative, Nat.toList_repr]
    have value : Binary64.signed false n.natAbs = n := by
      rw [Binary64.signed, if_neg (by decide)]
      omega
    rw [text, readNumber]
    · simp only [wholeDigits?_toDigits n.natAbs ends, fractionDigits_of_endsNumber ends,
        exponentPart?_of_endsNumber ends, naturalOfDigits_toDigits, value, if_neg short]
      rfl
    · intro more same
      obtain ⟨c, others, digits, isDigit⟩ := exists_cons_toDigits n.natAbs
      rw [digits] at same
      rw [(List.cons.inj same).1] at isDigit
      cases isDigit

end RowMapper.Json
