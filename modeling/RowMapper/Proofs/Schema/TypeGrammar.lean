import Mathlib.Data.List.Basic
import RowMapper.Proofs.Schema.PhysicalForm
import RowMapper.Proofs.Sql.OperationReading

/-!
# The form of physical types

A physical type is a known name, then perhaps one or two numbers in parentheses, then perhaps
`UNSIGNED`, with blanks around and between these parts. `IsTypeText` is this form, given how
characters are read: which ones are digits, and which capitals letters stand for. The check reads a
type part by part, and it accepts just what has the form when digits are those of any script and
letters are read without regard to case.
-/

namespace RowMapper

/-! ## Characters -/

namespace Text

/-- A text is cut where a class of characters ends. -/
theorem takeWhile_dropWhile_iff {p : Char → Bool} {cs front rest : List Char} :
    (cs.takeWhile p = front ∧ cs.dropWhile p = rest) ↔
      cs = front ++ rest ∧ (∀ c ∈ front, p c = true) ∧ ∀ c ∈ rest.head?, p c = false := by
  constructor
  · rintro ⟨rfl, rfl⟩
    refine ⟨List.takeWhile_append_dropWhile.symm, fun c => List.mem_takeWhile_imp, ?_⟩
    intro c first
    have stops := List.head?_dropWhile_not p cs
    rw [Option.mem_def.mp first] at stops
    exact stops
  · rintro ⟨rfl, inside, ends⟩
    rw [List.takeWhile_append_of_pos inside, List.dropWhile_append_of_pos inside]
    cases rest with
    | nil => simp
    | cons c others => simp [ends c rfl]

theorem isCaselessLetter_iff {c : Char} :
    isCaselessLetter c = true ↔
      c.isAlpha = true ∨ c = 'ſ' ∨ c = '\u212a' ∨ c = 'ı' ∨ c = 'İ' := by
  rw [isCaselessLetter, foldLetter?]
  split
  next letter => simp [letter]
  next other =>
    split
    next isS => simp [isS]
    next notS =>
      split
      next isK => simp [isK]
      next notK =>
        split
        next isI => simpa [other, notS, notK] using isI
        next notI => simpa [other, notS, notK] using notI

theorem isBlank_of_isCaselessLetter {c : Char} (letter : isCaselessLetter c = true) :
    isBlank c = false := by
  rcases isCaselessLetter_iff.mp letter with ascii | rfl | rfl | rfl | rfl
  · exact Sql.isBlank_of_isAsciiWord (by simp [isAsciiWord, Char.isAlphanum, ascii])
  all_goals decide

theorem isDecimal_iff {c : Char} :
    isDecimal c = true ↔ if c.toNat < 128 then c.isDigit = true
      else ∃ first ∈ digitZeros, first ≤ c.toNat ∧ c.toNat < first + 10 := by
  rw [isDecimal, digitValue?]
  split
  next => split <;> simp [*]
  next => simp

theorem isBlank_of_isDecimal {c : Char} (digit : isDecimal c = true) : isBlank c = false := by
  rw [isDecimal_iff] at digit
  split at digit
  next => exact Sql.isBlank_of_isAsciiWord (by simp [isAsciiWord, Char.isAlphanum, digit])
  next outside =>
    obtain ⟨first, member, least, most⟩ := digit
    have apart : ∀ first ∈ digitZeros, ∀ range ∈ blankRanges,
        range.2 < first ∨ first + 10 ≤ range.1 := by decide
    rw [isBlank, if_neg outside, ← Bool.not_eq_true, Ranges.contains_eq_true]
    rintro ⟨range, inRanges, above, below⟩
    have := apart first member range inRanges
    omega

theorem isDecimal_of_isBlank {c : Char} (blank : isBlank c = true) : isDecimal c = false :=
  Bool.eq_false_iff.mpr fun digit => Bool.eq_false_iff.mp (isBlank_of_isDecimal digit) blank

theorem isCaselessLetter_of_isBlank {c : Char} (blank : isBlank c = true) :
    isCaselessLetter c = false :=
  Bool.eq_false_iff.mpr fun letter =>
    Bool.eq_false_iff.mp (isBlank_of_isCaselessLetter letter) blank

end Text

/-! ## The form -/

namespace PhysicalType

open Text

/-- How the characters of physical types are read: which ones are digits, and which capital a letter
of a name and one of a keyword stands for. -/
structure Alphabet where
  isDigit : Char → Bool
  nameLetter : Char → Option Char
  keyLetter : Char → Option Char

namespace Alphabet

/-- The ASCII capital that an ASCII letter stands for. -/
def asciiCapital? (c : Char) : Option Char :=
  if c.isAlpha then some c.toUpper else none

/-- ASCII digits, and ASCII letters in either case. -/
def ascii : Alphabet := ⟨Char.isDigit, asciiCapital?, asciiCapital?⟩

/-- What the storage check goes by: digits of any script, and letters that are ASCII letters when
case is disregarded. Those of a name are turned into capitals, which leaves two of them as they
are. -/
def unicode : Alphabet :=
  ⟨isDecimal, fun c => if isCaselessLetter c then some (capital c) else none, foldLetter?⟩

end Alphabet

/-- Whether characters stand for the capitals of a word. -/
def Spells (letter : Char → Option Char) (cs : List Char) (word : String) : Prop :=
  cs.map letter = word.toList.map some

/-- Whether a text is blank throughout. -/
def IsBlankText (cs : List Char) : Prop :=
  ∀ c ∈ cs, isBlank c = true

/-- Whether a text is a number with blanks around it. -/
def IsNumberText (isDigit : Char → Bool) (cs : List Char) : Prop :=
  ∃ before digits after, cs = before ++ (digits ++ after) ∧ IsBlankText before ∧
    digits ≠ [] ∧ (∀ c ∈ digits, isDigit c = true) ∧ IsBlankText after

/-- Texts that stand between the parentheses: one number or two. -/
inductive IsSize (isDigit : Char → Bool) : List Char → Prop where
  | one {n : List Char} : IsNumberText isDigit n → IsSize isDigit n
  | two {n m : List Char} :
      IsNumberText isDigit n → IsNumberText isDigit m → IsSize isDigit (n ++ ',' :: m)

/-- Texts at the end of a physical type: blanks, perhaps with the keyword among them. -/
inductive IsEndText (letter : Char → Option Char) : List Char → Prop where
  | blank {gap : List Char} : IsBlankText gap → IsEndText letter gap
  | unsigned {gap word trail : List Char} : IsBlankText gap → gap ≠ [] →
      Spells letter word "UNSIGNED" → IsBlankText trail → IsEndText letter (gap ++ (word ++ trail))

/-- Texts behind the name of a physical type, with a size or without. -/
inductive IsTailText (alphabet : Alphabet) : List Char → Prop where
  | bare {ending : List Char} : IsEndText alphabet.keyLetter ending → IsTailText alphabet ending
  | sized {gap size ending : List Char} : IsBlankText gap → IsSize alphabet.isDigit size →
      IsEndText alphabet.keyLetter ending →
      IsTailText alphabet (gap ++ '(' :: (size ++ ')' :: ending))

/-- Texts that have the form of a physical type. -/
inductive IsTypeText (alphabet : Alphabet) : List Char → Prop where
  | type {lead name tail : List Char} {word : String} : IsBlankText lead → word ∈ known →
      Spells alphabet.nameLetter name word → IsTailText alphabet tail →
      IsTypeText alphabet (lead ++ (name ++ tail))

/-! ## Reading the parts -/

section Parts

variable {cs rest gap digits : List Char} {mark : Char}

theorem trimStart_append (blank : IsBlankText gap) (ends : ∀ c ∈ rest.head?, isBlank c = false) :
    trimStart (gap ++ rest) = rest :=
  (takeWhile_dropWhile_iff.mpr ⟨rfl, blank, ends⟩).2

theorem exists_trimStart (cs : List Char) :
    ∃ gap, cs = gap ++ trimStart cs ∧ IsBlankText gap ∧
      ∀ c ∈ (trimStart cs).head?, isBlank c = false :=
  ⟨cs.takeWhile isBlank, takeWhile_dropWhile_iff.mp ⟨rfl, rfl⟩⟩

theorem dropMark?_append (wanted : Char) (blank : IsBlankText gap) (visible : isBlank mark = false)
    (rest : List Char) :
    dropMark? wanted (gap ++ mark :: rest) = if mark = wanted then some rest else none := by
  rw [dropMark?, trimStart_append blank (by simp [visible])]

theorem exists_of_dropMark? (dropped : dropMark? mark cs = some rest) :
    ∃ gap, IsBlankText gap ∧ cs = gap ++ mark :: rest := by
  obtain ⟨gap, split, blank, _⟩ := exists_trimStart cs
  rw [dropMark?] at dropped
  cases trimmed : trimStart cs with
  | nil => rw [trimmed] at dropped; cases dropped
  | cons c others =>
      rw [trimmed] at dropped split
      dsimp only at dropped
      split at dropped
      next isMark =>
        cases dropped
        exact ⟨gap, blank, isMark ▸ split⟩
      next => cases dropped

theorem dropDigits?_append (some_digit : digits ≠ []) (areDigits : ∀ c ∈ digits, isDecimal c = true)
    (ends : ∀ c ∈ rest.head?, isDecimal c = false) : dropDigits? (digits ++ rest) = some rest := by
  cases digits with
  | nil => exact absurd rfl some_digit
  | cons c others =>
      obtain ⟨first, later⟩ := List.forall_mem_cons.mp areDigits
      rw [List.cons_append, dropDigits?, if_pos first,
        (takeWhile_dropWhile_iff.mpr ⟨rfl, later, ends⟩).2]

theorem exists_of_dropDigits? (dropped : dropDigits? cs = some rest) :
    ∃ digits, cs = digits ++ rest ∧ digits ≠ [] ∧ ∀ c ∈ digits, isDecimal c = true := by
  cases cs with
  | nil => cases dropped
  | cons c others =>
      rw [dropDigits?] at dropped
      split at dropped
      next first =>
        cases dropped
        refine ⟨c :: others.takeWhile isDecimal, ?_, List.cons_ne_nil _ _,
          List.forall_mem_cons.mpr ⟨first, fun d => List.mem_takeWhile_imp⟩⟩
        rw [List.cons_append, List.takeWhile_append_dropWhile]
      next => cases dropped

/-- A number is read off in front of a mark, and what is left are the blanks behind it. -/
theorem exists_dropDigits?_of_isNumberText {number : List Char}
    (isNumber : IsNumberText isDecimal number) (noDigit : isDecimal mark = false)
    (rest : List Char) :
    ∃ gap, IsBlankText gap ∧
      dropDigits? (trimStart (number ++ mark :: rest)) = some (gap ++ mark :: rest) := by
  obtain ⟨before, digits, after, rfl, beforeBlank, some_digit, areDigits, afterBlank⟩ := isNumber
  have begins : ∀ c ∈ (digits ++ (after ++ mark :: rest)).head?, isBlank c = false := by
    cases digits with
    | nil => exact absurd rfl some_digit
    | cons d others =>
        intro c first
        cases first
        exact isBlank_of_isDecimal (areDigits d List.mem_cons_self)
  have ends : ∀ c ∈ (after ++ mark :: rest).head?, isDecimal c = false := by
    intro c first
    cases after with
    | nil => cases first; exact noDigit
    | cons d others =>
        cases first
        exact isDecimal_of_isBlank (afterBlank c List.mem_cons_self)
  refine ⟨after, afterBlank, ?_⟩
  rw [List.append_assoc, List.append_assoc, trimStart_append beforeBlank begins,
    dropDigits?_append some_digit areDigits ends]

theorem isNumberText_of_dropDigits? (dropped : dropDigits? (trimStart cs) = some (gap ++ rest))
    (blank : IsBlankText gap) : ∃ number, IsNumberText isDecimal number ∧ cs = number ++ rest := by
  obtain ⟨before, split, beforeBlank, _⟩ := exists_trimStart cs
  obtain ⟨digits, trimmed, some_digit, areDigits⟩ := exists_of_dropDigits? dropped
  refine ⟨before ++ (digits ++ gap), ⟨before, digits, gap, rfl, beforeBlank, some_digit, areDigits,
    blank⟩, ?_⟩
  rw [split, trimmed]
  simp only [List.append_assoc]

/-- A size and its closing parenthesis are read off in front of anything. -/
theorem dropLength?_eq_some_iff :
    dropLength? cs = some rest ↔ ∃ size, IsSize isDecimal size ∧ cs = size ++ ')' :: rest := by
  have comma : isBlank ',' = false ∧ isDecimal ',' = false := by decide
  have closing : isBlank ')' = false ∧ isDecimal ')' = false := by decide
  rw [dropLength?]
  constructor
  · intro dropped
    obtain ⟨afterFirst, first, dropped⟩ := Option.bind_eq_some_iff.mp dropped
    split at dropped
    next more isComma =>
      obtain ⟨afterSecond, second, closed⟩ := Option.bind_eq_some_iff.mp dropped
      obtain ⟨gap, blank, rfl⟩ := exists_of_dropMark? isComma
      obtain ⟨gap', blank', rfl⟩ := exists_of_dropMark? closed
      obtain ⟨n, isNumber, rfl⟩ := isNumberText_of_dropDigits? first blank
      obtain ⟨m, isOther, rfl⟩ := isNumberText_of_dropDigits? second blank'
      exact ⟨n ++ ',' :: m, .two isNumber isOther, by simp⟩
    next =>
      obtain ⟨gap, blank, rfl⟩ := exists_of_dropMark? dropped
      obtain ⟨n, isNumber, rfl⟩ := isNumberText_of_dropDigits? first blank
      exact ⟨n, .one isNumber, rfl⟩
  · rintro ⟨size, isSize, rfl⟩
    cases isSize with
    | one isNumber =>
        obtain ⟨gap, blank, first⟩ :=
          exists_dropDigits?_of_isNumberText isNumber closing.2 rest
        have noComma := dropMark?_append ',' blank closing.1 rest
        have closed := dropMark?_append ')' blank closing.1 rest
        rw [if_neg (by decide)] at noComma
        rw [if_pos rfl] at closed
        simp only [first, Option.bind_eq_bind, Option.bind_some, noComma, closed]
    | @two n m isNumber isOther =>
        obtain ⟨gap, blank, first⟩ :=
          exists_dropDigits?_of_isNumberText isNumber comma.2 (m ++ ')' :: rest)
        obtain ⟨gap', blank', second⟩ :=
          exists_dropDigits?_of_isNumberText isOther closing.2 rest
        have isComma := dropMark?_append ',' blank comma.1 (m ++ ')' :: rest)
        have closed := dropMark?_append ')' blank' closing.1 rest
        rw [if_pos rfl] at isComma closed
        rw [List.append_assoc, List.cons_append]
        simp only [first, Option.bind_eq_bind, Option.bind_some, isComma, second, closed]

theorem dropBlanks?_append (blank : IsBlankText gap) (some_blank : gap ≠ [])
    (ends : ∀ c ∈ rest.head?, isBlank c = false) : dropBlanks? (gap ++ rest) = some rest := by
  cases gap with
  | nil => exact absurd rfl some_blank
  | cons c others =>
      obtain ⟨first, later⟩ := List.forall_mem_cons.mp blank
      rw [List.cons_append, dropBlanks?, if_pos first, trimStart_append later ends]

theorem exists_of_dropBlanks? (dropped : dropBlanks? cs = some rest) :
    ∃ gap, cs = gap ++ rest ∧ IsBlankText gap ∧ gap ≠ [] := by
  cases cs with
  | nil => cases dropped
  | cons c others =>
      rw [dropBlanks?] at dropped
      split at dropped
      next first =>
        cases dropped
        obtain ⟨gap, split, blank, _⟩ := exists_trimStart others
        exact ⟨c :: gap, by rw [List.cons_append, ← split], List.forall_mem_cons.mpr ⟨first, blank⟩,
          List.cons_ne_nil _ _⟩
      next => cases dropped

theorem dropKeyword?_eq_some_iff {keyword : List Char} :
    dropKeyword? keyword cs = some rest ↔
      ∃ word, word.map foldLetter? = keyword.map some ∧ cs = word ++ rest := by
  induction keyword generalizing cs with
  | nil => simp [dropKeyword?]
  | cons k ks ih =>
      cases cs with
      | nil =>
          simp only [dropKeyword?, reduceCtorEq, false_iff, not_exists]
          rintro word ⟨letters, empty⟩
          rw [(List.append_eq_nil_iff.mp empty.symm).1] at letters
          cases letters
      | cons c others =>
          rw [dropKeyword?]
          split
          next letter =>
            rw [ih]
            constructor
            · rintro ⟨word, letters, rfl⟩
              exact ⟨c :: word, by rw [List.map_cons, List.map_cons, letter, letters], rfl⟩
            · rintro ⟨word, letters, split⟩
              cases word with
              | nil => cases letters
              | cons d ds =>
                  cases split
                  exact ⟨ds, (List.cons.inj letters).2, rfl⟩
          next other =>
            simp only [reduceCtorEq, false_iff, not_exists]
            rintro word ⟨letters, split⟩
            cases word with
            | nil => cases letters
            | cons d ds =>
                cases split
                exact other (List.cons.inj letters).1

end Parts

/-! ## Reading the whole -/

section Whole

variable {cs rest : List Char}

/-- The first letter of the keyword is no blank and no parenthesis, whatever follows it. -/
theorem exists_cons_of_spells {word : List Char} (spelled : Spells foldLetter? word "UNSIGNED")
    (trail : List Char) :
    ∃ c others, word ++ trail = c :: others ∧ isBlank c = false ∧ c ≠ '(' := by
  cases word with
  | nil => cases spelled
  | cons c others =>
      have letter : foldLetter? c = some 'U' := (List.cons.inj spelled).1
      refine ⟨c, others ++ trail, rfl,
        isBlank_of_isCaselessLetter (by rw [isCaselessLetter, letter]; rfl), ?_⟩
      rintro rfl
      cases letter

theorem isEnding_iff : isEnding cs = true ↔ IsEndText foldLetter? cs := by
  rw [isEnding, Bool.or_eq_true, List.all_eq_true]
  constructor
  · rintro (blank | ending)
    · exact .blank blank
    · split at ending
      next afterBlanks blanks =>
        split at ending
        next trail keyword =>
          obtain ⟨gap, rfl, blank, some_blank⟩ := exists_of_dropBlanks? blanks
          obtain ⟨word, spelled, rfl⟩ := dropKeyword?_eq_some_iff.mp keyword
          exact .unsigned blank some_blank spelled (List.all_eq_true.mp ending)
        next => cases ending
      next => cases ending
  · intro isEnd
    cases isEnd with
    | blank blank => exact .inl blank
    | @unsigned gap word trail blank some_blank spelled trailBlank =>
        obtain ⟨c, others, split, visible, _⟩ := exists_cons_of_spells spelled trail
        have ends : ∀ d ∈ (word ++ trail).head?, isBlank d = false := by
          rw [split]
          rintro d first
          cases first
          exact visible
        have keyword : dropKeyword? "UNSIGNED".toList (word ++ trail) = some trail :=
          dropKeyword?_eq_some_iff.mpr ⟨word, spelled, rfl⟩
        rw [dropBlanks?_append blank some_blank ends]
        dsimp only
        rw [keyword]
        exact .inr (List.all_eq_true.mpr trailBlank)

/-- No parenthesis opens behind the blanks of an ending. -/
theorem dropMark?_of_isEndText (isEnd : IsEndText foldLetter? cs) : dropMark? '(' cs = none := by
  rw [dropMark?]
  cases isEnd with
  | blank blank =>
      have trimmed : trimStart cs = [] := by
        rw [← List.append_nil cs]
        exact trimStart_append blank (by simp)
      rw [trimmed]
  | @unsigned gap word trail blank some_blank spelled trailBlank =>
      obtain ⟨c, others, split, visible, noParenthesis⟩ :=
        exists_cons_of_spells spelled trail
      rw [split, trimStart_append blank (by simp [visible])]
      exact if_neg noParenthesis

/-- What is read behind the name of a physical type. -/
theorem isTailText_iff :
    IsTailText .unicode cs ↔ match dropMark? '(' cs with
      | some more => ∃ rest, dropLength? more = some rest ∧ isEnding rest = true
      | none => isEnding cs = true := by
  constructor
  · intro isTail
    cases isTail with
    | bare isEnd =>
        rw [dropMark?_of_isEndText isEnd]
        exact isEnding_iff.mpr isEnd
    | @sized gap size ending blank isSize isEnd =>
        rw [dropMark?_append '(' blank (by decide), if_pos rfl]
        exact ⟨ending, dropLength?_eq_some_iff.mpr ⟨size, isSize, rfl⟩, isEnding_iff.mpr isEnd⟩
  · intro read
    split at read
    next more opened =>
      obtain ⟨rest, length, ending⟩ := read
      obtain ⟨gap, blank, rfl⟩ := exists_of_dropMark? opened
      obtain ⟨size, isSize, rfl⟩ := dropLength?_eq_some_iff.mp length
      exact .sized blank isSize (isEnding_iff.mp ending)
    next => exact .bare (isEnding_iff.mp read)

/-- What stands behind the name of a physical type does not lengthen it. -/
theorem isCaselessLetter_of_head?_of_isTailText (isTail : IsTailText .unicode cs) :
    ∀ c ∈ cs.head?, isCaselessLetter c = false := by
  have blankFirst {gap : List Char} (blank : IsBlankText gap) :
      ∀ c ∈ gap.head?, isCaselessLetter c = false :=
    fun c first => isCaselessLetter_of_isBlank (blank c (List.mem_of_head? first))
  intro c first
  cases isTail with
  | bare isEnd =>
      cases isEnd with
      | blank blank => exact blankFirst blank c first
      | @unsigned gap word trail blank some_blank _ _ =>
          rw [List.head?_append_of_ne_nil gap some_blank] at first
          exact blankFirst blank c first
  | @sized gap size ending blank _ _ =>
      cases gap with
      | nil =>
          cases first
          decide
      | cons d others => exact blankFirst blank c first

/-- The name is the run of letters at the front, if there is one and the rest is of the form. -/
theorem name?_eq_some_iff_takeWhile {name : List Char} :
    name? cs = some name ↔ (trimStart cs).takeWhile isCaselessLetter = name ∧ name ≠ [] ∧
      IsTailText .unicode ((trimStart cs).dropWhile isCaselessLetter) := by
  rw [isTailText_iff, name?]
  split
  next empty =>
    simp only [reduceCtorEq, false_iff]
    rintro ⟨taken, some_letter, _⟩
    exact some_letter (taken ▸ List.isEmpty_iff.mp empty)
  next nonempty =>
    rw [List.isEmpty_iff] at nonempty
    cases opened : dropMark? '(' ((trimStart cs).dropWhile isCaselessLetter) with
    | none =>
        dsimp only
        split <;> grind
    | some more =>
        dsimp only
        cases dropLength? more with
        | none => simp
        | some rest =>
            dsimp only
            split <;> grind

theorem name?_eq_some_iff {name : List Char} :
    name? cs = some name ↔ ∃ lead tail, cs = lead ++ (name ++ tail) ∧ IsBlankText lead ∧
      name ≠ [] ∧ (∀ c ∈ name, isCaselessLetter c = true) ∧ IsTailText .unicode tail := by
  rw [name?_eq_some_iff_takeWhile]
  constructor
  · rintro ⟨taken, nonempty, isTail⟩
    obtain ⟨lead, split, blank, _⟩ := exists_trimStart cs
    obtain ⟨whole, letters, _⟩ := takeWhile_dropWhile_iff.mp ⟨taken, rfl⟩
    exact ⟨lead, _, by rw [← whole, ← split], blank, nonempty, letters, isTail⟩
  · rintro ⟨lead, tail, rfl, blank, nonempty, letters, isTail⟩
    have begins : ∀ c ∈ (name ++ tail).head?, isBlank c = false := by
      cases name with
      | nil => exact absurd rfl nonempty
      | cons d others =>
          rintro c first
          cases first
          exact isBlank_of_isCaselessLetter (letters d List.mem_cons_self)
    obtain ⟨taken, dropped⟩ := takeWhile_dropWhile_iff.mpr
      ⟨rfl, letters, isCaselessLetter_of_head?_of_isTailText isTail⟩
    rw [trimStart_append blank begins, dropped]
    exact ⟨taken, nonempty, isTail⟩

theorem spells_unicode_iff {name : List Char} {word : String} :
    Spells Alphabet.unicode.nameLetter name word ↔
      (∀ c ∈ name, isCaselessLetter c = true) ∧ String.ofList (name.map capital) = word := by
  rw [← String.toList_inj, String.toList_ofList, Spells]
  generalize word.toList = letters
  induction name generalizing letters with
  | nil => cases letters <;> simp
  | cons c others ih =>
      have letter : Alphabet.unicode.nameLetter c =
          if isCaselessLetter c then some (capital c) else none := rfl
      cases letters with
      | nil => simp
      | cons k ks =>
          simp only [List.map_cons, List.cons.injEq, ih, List.forall_mem_cons, letter]
          cases isCaselessLetter c <;> simp [and_left_comm]

/-- The check of physical types accepts what has their form. -/
theorem isKnown_iff {s : String} : isKnown s = true ↔ IsTypeText .unicode s.toList := by
  have nonempty : ∀ word ∈ known, word.toList ≠ [] := by decide
  rw [isKnown]
  constructor
  · intro accepted
    split at accepted
    next name read =>
      obtain ⟨lead, tail, split, blank, _, letters, isTail⟩ := name?_eq_some_iff.mp read
      rw [split]
      exact .type blank (List.contains_iff_mem.mp accepted)
        (spells_unicode_iff.mpr ⟨letters, rfl⟩) isTail
    next => cases accepted
  · intro isType
    generalize s.toList = cs at isType
    cases isType with
    | @type lead name tail word blank isKnown spelled isTail =>
        obtain ⟨letters, rfl⟩ := spells_unicode_iff.mp spelled
        have some_letter : name ≠ [] := by
          rintro rfl
          exact nonempty _ isKnown rfl
        rw [name?_eq_some_iff.mpr ⟨lead, tail, rfl, blank, some_letter, letters, isTail⟩]
        exact List.contains_iff_mem.mpr isKnown

end Whole

end PhysicalType

end RowMapper
