import Mathlib.Data.List.TakeWhile
import RowMapper.Proofs.Sql.PlainName
import RowMapper.Schema.PhysicalType

/-!
# What physical types are written with

A physical type of a declaration goes into the definition of its table as it was given. Reading it
takes letters, digits, blanks, parentheses and commas off its front until nothing is left, so it
consists of these characters and is plain text in a statement.
-/

namespace RowMapper

namespace Text

/-- Whether a text is another one behind characters of a class. -/
def Precedes (isAllowed : Char → Bool) (cs rest : List Char) : Prop :=
  ∃ front, cs = front ++ rest ∧ ∀ c ∈ front, isAllowed c = true

namespace Precedes

variable {isAllowed : Char → Bool}

theorem refl (cs : List Char) : Precedes isAllowed cs cs :=
  ⟨[], rfl, by simp⟩

theorem trans {cs middle rest : List Char} (first : Precedes isAllowed cs middle)
    (second : Precedes isAllowed middle rest) : Precedes isAllowed cs rest := by
  obtain ⟨front, rfl, frontAllowed⟩ := first
  obtain ⟨more, rfl, moreAllowed⟩ := second
  refine ⟨front ++ more, (List.append_assoc ..).symm, ?_⟩
  intro c member
  rcases List.mem_append.mp member with inFront | inMore
  · exact frontAllowed c inFront
  · exact moreAllowed c inMore

theorem cons {c : Char} {cs rest : List Char} (allowed : isAllowed c = true)
    (later : Precedes isAllowed cs rest) : Precedes isAllowed (c :: cs) rest := by
  obtain ⟨front, rfl, frontAllowed⟩ := later
  exact ⟨c :: front, rfl, List.forall_mem_cons.mpr ⟨allowed, frontAllowed⟩⟩

/-- Characters of a narrower class at the front of a text. -/
theorem dropWhile {p : Char → Bool} (narrower : ∀ c, p c = true → isAllowed c = true)
    (cs : List Char) : Precedes isAllowed cs (cs.dropWhile p) :=
  ⟨cs.takeWhile p, List.takeWhile_append_dropWhile.symm,
    fun c member => narrower c (List.mem_takeWhile_imp member)⟩

/-- A text of characters of the class, since what is behind the others is. -/
theorem all {cs rest : List Char} (precedes : Precedes isAllowed cs rest)
    (restAllowed : ∀ c ∈ rest, isAllowed c = true) : ∀ c ∈ cs, isAllowed c = true := by
  obtain ⟨front, rfl, frontAllowed⟩ := precedes
  exact List.forall_mem_append.mpr ⟨frontAllowed, restAllowed⟩

end Precedes

end Text

namespace PhysicalType

open Text

/-- The characters of which a physical type consists. -/
def isTypeChar (c : Char) : Bool :=
  isBlank c || isCaselessLetter c || isDecimal c || c = '(' || c = ',' || c = ')'

theorem isTypeChar_of_isBlank {c : Char} (blank : isBlank c = true) : isTypeChar c = true := by
  simp [isTypeChar, blank]

theorem isTypeChar_of_isCaselessLetter {c : Char} (letter : isCaselessLetter c = true) :
    isTypeChar c = true := by
  simp [isTypeChar, letter]

theorem isTypeChar_of_isDecimal {c : Char} (digit : isDecimal c = true) :
    isTypeChar c = true := by
  simp [isTypeChar, digit]

variable {cs rest : List Char}

theorem precedes_trimStart (cs : List Char) : Precedes isTypeChar cs (trimStart cs) :=
  .dropWhile (fun _ => isTypeChar_of_isBlank) cs

theorem precedes_of_dropMark? {mark : Char} (allowed : isTypeChar mark = true)
    (dropped : dropMark? mark cs = some rest) : Precedes isTypeChar cs rest := by
  apply (precedes_trimStart cs).trans
  rw [dropMark?] at dropped
  cases trimmed : trimStart cs with
  | nil => rw [trimmed] at dropped; cases dropped
  | cons c others =>
      rw [trimmed] at dropped
      dsimp only at dropped
      split at dropped
      next isMark =>
        cases dropped
        exact (Precedes.refl _).cons (isMark ▸ allowed)
      next => cases dropped

theorem precedes_of_dropDigits? (dropped : dropDigits? cs = some rest) :
    Precedes isTypeChar cs rest := by
  cases cs with
  | nil => cases dropped
  | cons c others =>
      rw [dropDigits?] at dropped
      split at dropped
      next digit =>
        cases dropped
        exact (Precedes.dropWhile (fun _ => isTypeChar_of_isDecimal) others).cons
          (isTypeChar_of_isDecimal digit)
      next => cases dropped

theorem precedes_of_dropLength? (dropped : dropLength? cs = some rest) :
    Precedes isTypeChar cs rest := by
  simp only [dropLength?, Option.bind_eq_bind, Option.bind_eq_some_iff] at dropped
  obtain ⟨afterFirst, first, dropped⟩ := dropped
  apply ((precedes_trimStart cs).trans (precedes_of_dropDigits? first)).trans
  split at dropped
  next more comma =>
    obtain ⟨afterSecond, second, closed⟩ := Option.bind_eq_some_iff.mp dropped
    exact (((precedes_of_dropMark? (by decide) comma).trans (precedes_trimStart more)).trans
      (precedes_of_dropDigits? second)).trans (precedes_of_dropMark? (by decide) closed)
  next => exact precedes_of_dropMark? (by decide) dropped

theorem precedes_of_dropBlanks? (dropped : dropBlanks? cs = some rest) :
    Precedes isTypeChar cs rest := by
  cases cs with
  | nil => cases dropped
  | cons c others =>
      rw [dropBlanks?] at dropped
      split at dropped
      next blank =>
        cases dropped
        exact (precedes_trimStart others).cons (isTypeChar_of_isBlank blank)
      next => cases dropped

theorem precedes_of_dropKeyword? {keyword : List Char}
    (dropped : dropKeyword? keyword cs = some rest) : Precedes isTypeChar cs rest := by
  induction keyword generalizing cs with
  | nil =>
      cases dropped
      exact .refl _
  | cons k ks ih =>
      cases cs with
      | nil => cases dropped
      | cons c others =>
          rw [dropKeyword?] at dropped
          split at dropped
          next folds =>
            have letter : isCaselessLetter c = true := by rw [isCaselessLetter, folds]; rfl
            exact (ih dropped).cons (isTypeChar_of_isCaselessLetter letter)
          next => cases dropped

theorem isTypeChar_of_isEnding (ending : isEnding cs = true) :
    ∀ c ∈ cs, isTypeChar c = true := by
  have ofBlanks {text : List Char} (blank : text.all isBlank = true) :
      ∀ c ∈ text, isTypeChar c = true :=
    fun c member => isTypeChar_of_isBlank (List.all_eq_true.mp blank c member)
  rw [isEnding, Bool.or_eq_true] at ending
  rcases ending with blank | ending
  · exact ofBlanks blank
  · split at ending
    next afterBlanks blanks =>
      split at ending
      next afterKeyword keyword =>
        exact ((precedes_of_dropBlanks? blanks).trans (precedes_of_dropKeyword? keyword)).all
          (ofBlanks ending)
      next => cases ending
    next => cases ending

/-- Whatever has the form of a physical type consists of the characters of one. -/
theorem isTypeChar_of_name? {name : List Char} (read : name? cs = some name) :
    ∀ c ∈ cs, isTypeChar c = true := by
  have afterName : Precedes isTypeChar cs ((trimStart cs).dropWhile isCaselessLetter) :=
    (precedes_trimStart cs).trans (.dropWhile (fun _ => isTypeChar_of_isCaselessLetter) _)
  simp only [name?] at read
  split at read
  next => cases read
  next =>
    split at read
    next more opened =>
      split at read
      next rest length =>
        split at read
        next ending =>
          exact (((afterName.trans (precedes_of_dropMark? (by decide) opened)).trans
            (precedes_of_dropLength? length))).all (isTypeChar_of_isEnding ending)
        next => cases read
      next => cases read
    next =>
      split at read
      next ending => exact afterName.all (isTypeChar_of_isEnding ending)
      next => cases read

theorem isTypeChar_of_isKnown {type : String} (known : isKnown type = true) :
    ∀ c ∈ type.toList, isTypeChar c = true := by
  rw [isKnown] at known
  split at known
  next name read => exact isTypeChar_of_name? read
  next => cases known

/-- A physical type is plain text. -/
theorem isPlain_of_isKnown {type : String} (known : isKnown type = true) :
    Sql.IsPlain type.toList :=
  .of_class (p := isTypeChar) (by decide) (isTypeChar_of_isKnown known)

end PhysicalType

theorem FieldType.isPlain_physical (type : FieldType) : Sql.IsPlain type.physical.toList := by
  cases type <;> exact .of_text (by decide)

end RowMapper
