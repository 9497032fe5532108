import RowMapper.Proofs.Schema.QuotedDefinition
import RowMapper.Proofs.Schema.TypeGrammar

/-!
# Physical types that are accepted

The form of physical types is meant in ASCII: ASCII letters in either case, and ASCII digits. The
storage check lets through more than that, digits of other scripts and three letters that are taken
for `S` and `I`. On texts of ASCII characters and blanks it is exact, and whatever it lets through
has none of the marks in it that could end a statement or begin something else.
-/

namespace RowMapper

namespace PhysicalType

open Text

/-! ## Characters of a type -/

section Ascii

variable {a b : Alphabet} {cs : List Char}

/-- Whether a character that one alphabet knows is the same in another one. -/
structure Alphabet.Keeps (a b : Alphabet) (c : Char) : Prop where
  digit : a.isDigit c = true → b.isDigit c = true
  nameLetter : ∀ k, a.nameLetter c = some k → b.nameLetter c = some k
  keyLetter : ∀ k, a.keyLetter c = some k → b.keyLetter c = some k

/-- Whether a character can stand in a physical type. -/
def Alphabet.Allows (a : Alphabet) (c : Char) : Prop :=
  isBlank c = true ∨ a.isDigit c = true ∨ (∃ k, a.nameLetter c = some k) ∨
    (∃ k, a.keyLetter c = some k) ∨ c = '(' ∨ c = ',' ∨ c = ')'

theorem Spells.exists_letter {letter : Char → Option Char} {word : String}
    (spelled : Spells letter cs word) {c : Char} (member : c ∈ cs) : ∃ k, letter c = some k := by
  have listed : letter c ∈ word.toList.map some := by
    rw [← spelled]
    exact List.mem_map_of_mem member
  obtain ⟨k, _, same⟩ := List.mem_map.mp listed
  exact ⟨k, same.symm⟩

theorem Spells.keep {f g : Char → Option Char} {word : String} (spelled : Spells f cs word)
    (kept : ∀ c ∈ cs, ∀ k, f c = some k → g c = some k) : Spells g cs word := by
  rw [Spells, ← spelled]
  refine List.map_congr_left fun c member => ?_
  obtain ⟨k, letter⟩ := spelled.exists_letter member
  rw [letter, kept c member k letter]

theorem IsNumberText.keep {p q : Char → Bool} (isNumber : IsNumberText p cs)
    (kept : ∀ c ∈ cs, p c = true → q c = true) : IsNumberText q cs := by
  obtain ⟨before, digits, after, rfl, beforeBlank, some_digit, areDigits, afterBlank⟩ := isNumber
  exact ⟨before, digits, after, rfl, beforeBlank, some_digit,
    fun c member => kept c (by simp [member]) (areDigits c member), afterBlank⟩

theorem IsSize.keep {p q : Char → Bool} (isSize : IsSize p cs)
    (kept : ∀ c ∈ cs, p c = true → q c = true) : IsSize q cs := by
  cases isSize with
  | one isNumber => exact .one (isNumber.keep kept)
  | two isNumber isOther =>
      exact .two (isNumber.keep fun c member => kept c (by simp [member]))
        (isOther.keep fun c member => kept c (by simp [member]))

theorem IsEndText.keep {f g : Char → Option Char} (isEnd : IsEndText f cs)
    (kept : ∀ c ∈ cs, ∀ k, f c = some k → g c = some k) : IsEndText g cs := by
  cases isEnd with
  | blank blank => exact .blank blank
  | unsigned blank some_blank spelled trailBlank =>
      exact .unsigned blank some_blank
        (spelled.keep fun c member => kept c (by simp [member])) trailBlank

theorem IsTailText.keep (isTail : IsTailText a cs) (kept : ∀ c ∈ cs, a.Keeps b c) :
    IsTailText b cs := by
  cases isTail with
  | bare isEnd => exact .bare (isEnd.keep fun c member => (kept c member).keyLetter)
  | sized gapBlank isSize isEnd =>
      exact .sized gapBlank (isSize.keep fun c member => (kept c (by simp [member])).digit)
        (isEnd.keep fun c member => (kept c (by simp [member])).keyLetter)

/-- A text keeps its form where an alphabet keeps its characters. -/
theorem IsTypeText.keep (isType : IsTypeText a cs) (kept : ∀ c ∈ cs, a.Keeps b c) :
    IsTypeText b cs := by
  cases isType with
  | type blank isKnown spelled isTail =>
      exact .type blank isKnown
        (spelled.keep fun c member => (kept c (by simp [member])).nameLetter)
        (isTail.keep fun c member => kept c (by simp [member]))

theorem Alphabet.allows_of_isBlankText (a : Alphabet) (blank : IsBlankText cs) :
    ∀ c ∈ cs, a.Allows c :=
  fun c member => .inl (blank c member)

theorem IsNumberText.allows (isNumber : IsNumberText a.isDigit cs) : ∀ c ∈ cs, a.Allows c := by
  obtain ⟨before, digits, after, rfl, beforeBlank, _, areDigits, afterBlank⟩ := isNumber
  simp only [List.forall_mem_append]
  exact ⟨a.allows_of_isBlankText beforeBlank, fun c member => .inr (.inl (areDigits c member)),
    a.allows_of_isBlankText afterBlank⟩

theorem IsSize.allows (isSize : IsSize a.isDigit cs) : ∀ c ∈ cs, a.Allows c := by
  cases isSize with
  | one isNumber => exact isNumber.allows
  | two isNumber isOther =>
      simp only [List.forall_mem_append, List.forall_mem_cons]
      exact ⟨isNumber.allows, by simp [Alphabet.Allows], isOther.allows⟩

theorem IsEndText.allows (isEnd : IsEndText a.keyLetter cs) : ∀ c ∈ cs, a.Allows c := by
  cases isEnd with
  | blank blank => exact a.allows_of_isBlankText blank
  | unsigned blank _ spelled trailBlank =>
      simp only [List.forall_mem_append]
      exact ⟨a.allows_of_isBlankText blank,
        fun c member => .inr (.inr (.inr (.inl (spelled.exists_letter member)))),
        a.allows_of_isBlankText trailBlank⟩

theorem IsTailText.allows (isTail : IsTailText a cs) : ∀ c ∈ cs, a.Allows c := by
  cases isTail with
  | bare isEnd => exact isEnd.allows
  | sized gapBlank isSize isEnd =>
      simp only [List.forall_mem_append, List.forall_mem_cons]
      exact ⟨a.allows_of_isBlankText gapBlank, by simp [Alphabet.Allows], isSize.allows,
        by simp [Alphabet.Allows], isEnd.allows⟩

theorem IsTypeText.allows (isType : IsTypeText a cs) : ∀ c ∈ cs, a.Allows c := by
  cases isType with
  | type blank _ spelled isTail =>
      simp only [List.forall_mem_append]
      exact ⟨a.allows_of_isBlankText blank,
        fun c member => .inr (.inr (.inl (spelled.exists_letter member))), isTail.allows⟩

theorem Alphabet.asciiCapital?_eq_some_iff {c k : Char} :
    asciiCapital? c = some k ↔ c.isAlpha = true ∧ c.toUpper = k := by
  simp [asciiCapital?]

/-- Beyond ASCII there are more digits and letters, and those of ASCII stay what they are. -/
theorem Alphabet.ascii_keeps_unicode (c : Char) : ascii.Keeps unicode c := by
  have folded : ∀ k, asciiCapital? c = some k → foldLetter? c = some k := by
    intro k letter
    obtain ⟨alpha, rfl⟩ := asciiCapital?_eq_some_iff.mp letter
    rw [foldLetter?, if_pos alpha]
  refine ⟨fun digit => ?_, fun k letter => ?_, folded⟩
  · have low : c.toNat < 128 :=
      Sql.toNat_lt_of_isAsciiWord (by
        simp [isAsciiWord, Char.isAlphanum, show c.isDigit = true from digit])
    exact isDecimal_iff.mpr (by rw [if_pos low]; exact digit)
  · obtain ⟨alpha, rfl⟩ := asciiCapital?_eq_some_iff.mp letter
    have isLetter : isCaselessLetter c = true := isCaselessLetter_iff.mpr (.inl alpha)
    change (if isCaselessLetter c then some (capital c) else none) = _
    rw [if_pos isLetter, capital, if_pos alpha]

/-- An ASCII character is a digit or letter in ASCII if it is one at all, and so is a blank, which
never is one. -/
theorem Alphabet.unicode_keeps_ascii {c : Char} (inside : c.toNat < 128 ∨ isBlank c = true) :
    unicode.Keeps ascii c := by
  have alpha (letter : isCaselessLetter c = true) : c.isAlpha = true := by
    have low : c.toNat < 128 := inside.resolve_right fun blank =>
      Bool.eq_false_iff.mp (isBlank_of_isCaselessLetter letter) blank
    rcases isCaselessLetter_iff.mp letter with ascii | rfl | rfl | rfl | rfl
    · exact ascii
    all_goals exact absurd low (by decide)
  constructor
  · intro digit
    have low : c.toNat < 128 := inside.resolve_right fun blank =>
      Bool.eq_false_iff.mp (isBlank_of_isDecimal digit) blank
    have isDigit := isDecimal_iff.mp digit
    rwa [if_pos low] at isDigit
  · intro k letter
    change (if isCaselessLetter c then some (capital c) else none) = some k at letter
    split at letter
    next isLetter =>
      rw [capital, if_pos (alpha isLetter)] at letter
      exact asciiCapital?_eq_some_iff.mpr ⟨alpha isLetter, Option.some.inj letter⟩
    next => cases letter
  · intro k letter
    change foldLetter? c = some k at letter
    have isAlpha : c.isAlpha = true := alpha (by rw [isCaselessLetter, letter]; rfl)
    rw [foldLetter?, if_pos isAlpha] at letter
    exact asciiCapital?_eq_some_iff.mpr ⟨isAlpha, Option.some.inj letter⟩

theorem Alphabet.toNat_lt_of_allows {c : Char} (allowed : ascii.Allows c) :
    c.toNat < 128 ∨ isBlank c = true := by
  have ofWord (word : isAsciiWord c = true) : c.toNat < 128 ∨ isBlank c = true :=
    .inl (Sql.toNat_lt_of_isAsciiWord word)
  have ofLetter {k : Char} (letter : asciiCapital? c = some k) :
      c.toNat < 128 ∨ isBlank c = true :=
    ofWord (by simp [isAsciiWord, Char.isAlphanum, (asciiCapital?_eq_some_iff.mp letter).1])
  rcases allowed with blank | digit | ⟨k, letter⟩ | ⟨k, letter⟩ | rfl | rfl | rfl
  · exact .inr blank
  · exact ofWord (by simp [isAsciiWord, Char.isAlphanum, show c.isDigit = true from digit])
  · exact ofLetter letter
  · exact ofLetter letter
  all_goals exact .inl (by decide)

/-- On texts of ASCII characters and blanks the two readings are one. -/
theorem isTypeText_ascii_iff :
    IsTypeText .ascii cs ↔
      IsTypeText .unicode cs ∧ ∀ c ∈ cs, c.toNat < 128 ∨ isBlank c = true := by
  constructor
  · intro isType
    exact ⟨isType.keep fun c _ => Alphabet.ascii_keeps_unicode c,
      fun c member => Alphabet.toNat_lt_of_allows (isType.allows c member)⟩
  · rintro ⟨isType, inside⟩
    exact isType.keep fun c member => Alphabet.unicode_keeps_ascii (inside c member)

end Ascii

/-- The marks by which a text between others could end a statement or begin something else in
it. -/
def forbiddenMarks : List Char :=
  ['\'', '"', '\x60', '\\', '?', ':', ';', '#', '-', '/']

theorem notMem_of_isTypeText {d : String} (isType : IsTypeText .unicode d.toList) {mark : Char}
    (forbidden : mark ∈ forbiddenMarks) : mark ∉ d.toList := by
  have excluded : forbiddenMarks.all (!isTypeChar ·) = true := by decide
  intro member
  have allowed := isTypeChar_of_isKnown (isKnown_iff.mpr isType) mark member
  have marked := List.all_eq_true.mp excluded mark forbidden
  rw [allowed] at marked
  cases marked

end PhysicalType

/-! ## The storage check -/

namespace ColumnTraits

variable {traits : ColumnTraits} {type given : Value} {d : String}

theorem verdict_eq_ok_iff {checked : CheckedType} :
    traits.verdict checked = .ok ↔ traits.hasKnownDatabaseType = true ∧
      traits.hasSupportedDefault checked = true ∧ traits.hasValidAutoUpdate checked = true := by
  rw [verdict]
  cases traits.hasKnownDatabaseType <;> cases traits.hasSupportedDefault checked <;>
    cases traits.hasValidAutoUpdate checked <;> simp

/-- A field that passes the check has a known logical type, and with any other traits the check goes
by the same type. -/
theorem exists_checkedType (passed : traits.verdictFor type = .ok .ok) :
    ∃ checked, ∀ others : ColumnTraits, others.verdictFor type = .ok (others.verdict checked) := by
  simp only [verdictFor] at passed ⊢
  cases keyed : type.asKey with
  | error fault => rw [keyed] at passed; cases passed
  | ok key =>
      rw [keyed] at passed
      simp only [bind, Except.bind, pure, Except.pure] at passed ⊢
      split at passed
      next known => exact ⟨⟨known, true⟩, fun _ => rfl⟩
      next =>
        split at passed
        next known _ => exact ⟨⟨known, false⟩, fun _ => rfl⟩
        next => cases passed

/-- What a physical type decides of a field that is valid without one. -/
theorem verdictFor_databaseType
    (valid : { traits with databaseType := .null }.verdictFor type = .ok .ok)
    (isText : given.text? = some d) :
    { traits with databaseType := given }.verdictFor type =
      .ok (if PhysicalType.isKnown d then .ok else .unknownType) := by
  obtain ⟨checked, goesBy⟩ := exists_checkedType valid
  rw [goesBy, Except.ok.injEq] at valid
  rw [goesBy, Except.ok.injEq]
  obtain ⟨_, supported, current⟩ := verdict_eq_ok_iff.mp valid
  have notNull : given.isNull = false := by
    cases given with
    | null => cases isText
    | _ => rfl
  have known : { traits with databaseType := given }.hasKnownDatabaseType =
      PhysicalType.isKnown d := by
    simp [hasKnownDatabaseType, notNull, isText]
  cases isKnown : PhysicalType.isKnown d with
  | true =>
      rw [if_pos rfl]
      exact verdict_eq_ok_iff.mpr ⟨known.trans isKnown, supported, current⟩
  | false => simp [verdict, known, isKnown]

end ColumnTraits

namespace Column

variable {column : Column} {d : String}

theorem text?_physicalType (isText : column.databaseType.text? = some d)
    (isType : PhysicalType.IsTypeText .unicode d.toList) :
    column.physicalType.text? = some d := by
  have nonempty : d.toList ≠ [] := by
    intro empty
    rw [empty] at isType
    have accepted : PhysicalType.isKnown "" = true := PhysicalType.isKnown_iff.mpr isType
    exact absurd accepted (by decide)
  have truthy : column.databaseType.truthy = true := by
    rw [Value.truthy_of_text? isText]
    simpa [String.isEmpty_iff] using nonempty
  rw [physicalType, if_pos truthy, isText]

end Column

/-- A physical type is accepted for a field that is valid without one just when it is a known name,
perhaps with a size and `UNSIGNED`, where digits may be those of any script and letters are read
without regard to case. Any other is unknown. It is of this form in ASCII just when it is accepted
and has no characters beyond ASCII but blanks. What is accepted is put as it is into the definition
of the column, and has none of the forbidden marks in it. -/
theorem databaseType_accepted_iff {traits : ColumnTraits} {type given : Value} {d : String}
    (valid : { traits with databaseType := .null }.verdictFor type = .ok .ok)
    (isText : given.text? = some d) :
    ({ traits with databaseType := given }.verdictFor type = .ok .ok ↔
      PhysicalType.IsTypeText .unicode d.toList) ∧
    ({ traits with databaseType := given }.verdictFor type = .ok .unknownType ↔
      ¬ PhysicalType.IsTypeText .unicode d.toList) ∧
    (PhysicalType.IsTypeText .ascii d.toList ↔
      { traits with databaseType := given }.verdictFor type = .ok .ok ∧
        ∀ c ∈ d.toList, c.toNat < 128 ∨ Text.isBlank c = true) ∧
    ({ traits with databaseType := given }.verdictFor type = .ok .ok →
      (∀ mark ∈ PhysicalType.forbiddenMarks, mark ∉ d.toList) ∧
      ∀ (column : Column) (sql : String), column.databaseType = given →
        column.definition = .ok sql → ∃ clauses,
          sql = String.intercalate " " (Sql.quoteName column.name :: d :: clauses)) := by
  have accepted : { traits with databaseType := given }.verdictFor type = .ok .ok ↔
      PhysicalType.IsTypeText .unicode d.toList := by
    rw [ColumnTraits.verdictFor_databaseType valid isText, ← PhysicalType.isKnown_iff]
    cases PhysicalType.isKnown d <;> simp
  have refused : { traits with databaseType := given }.verdictFor type = .ok .unknownType ↔
      ¬ PhysicalType.IsTypeText .unicode d.toList := by
    rw [ColumnTraits.verdictFor_databaseType valid isText, ← PhysicalType.isKnown_iff]
    cases PhysicalType.isKnown d <;> simp
  refine ⟨accepted, refused, PhysicalType.isTypeText_ascii_iff.trans
    (and_congr_left fun _ => accepted.symm), ?_⟩
  intro passed
  have isType := accepted.mp passed
  refine ⟨fun mark => PhysicalType.notMem_of_isTypeText isType, ?_⟩
  rintro column sql rfl defined
  obtain ⟨comment, _, parts⟩ :=
    Column.exists_comment_of_definition (Column.text?_physicalType isText isType) defined
  exact ⟨column.clauses comment, parts⟩

/-- A decimal type with blanks of several kinds is accepted as one of the form in ASCII, and a type
with a sign in front of its length is unknown. -/
theorem databaseType_accepted_iff_amount :
    PhysicalType.IsTypeText .ascii "\u2003decimal ( 10 ,\t2) Unsigned\n".toList ∧
      { ColumnTraits.standard with databaseType := .text "INT(-1)" }.verdictFor
        (.fieldType .integer) = .ok .unknownType := by
  have validAmount : { ColumnTraits.standard with databaseType := .null }.verdictFor
      (.fieldType .float) = .ok .ok := rfl
  have validCount : { ColumnTraits.standard with databaseType := .null }.verdictFor
      (.fieldType .integer) = .ok .ok := rfl
  have amountIsText : (Value.text "\u2003decimal ( 10 ,\t2) Unsigned\n").text? =
      some "\u2003decimal ( 10 ,\t2) Unsigned\n" := rfl
  have countIsText : (Value.text "INT(-1)").text? = some "INT(-1)" := rfl
  constructor
  · obtain ⟨accepted, _, inAscii, _⟩ := databaseType_accepted_iff validAmount amountIsText
    have inside : "\u2003decimal ( 10 ,\t2) Unsigned\n".toList.all
        (fun c => c.toNat < 128 || Text.isBlank c) = true := by decide
    refine inAscii.mpr ⟨accepted.mpr (PhysicalType.isKnown_iff.mp (by decide)), ?_⟩
    intro c member
    simpa using List.all_eq_true.mp inside c member
  · obtain ⟨_, refused, _, _⟩ := databaseType_accepted_iff validCount countIsText
    refine refused.mpr fun isType => ?_
    have accepted : PhysicalType.isKnown "INT(-1)" = true := PhysicalType.isKnown_iff.mpr isType
    exact absurd accepted (by decide)

/-- A length in digits of another script is accepted although it is not of the form in ASCII. -/
theorem foreign_digit_accepted :
    ¬ ∀ (traits : ColumnTraits) (type : Value) (d : String),
      { traits with databaseType := .null }.verdictFor type = .ok .ok →
        ({ traits with databaseType := .text d }.verdictFor type = .ok .ok ↔
          PhysicalType.IsTypeText .ascii d.toList) := by
  intro exactly
  have isType := (exactly .standard (.fieldType .integer) "INT(١)" rfl).mp rfl
  have inside := (PhysicalType.isTypeText_ascii_iff.mp isType).2 '١' (by decide)
  exact absurd inside (by decide)

end RowMapper
