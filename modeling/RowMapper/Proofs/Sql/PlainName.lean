import RowMapper.Proofs.Sql.BoundText
import RowMapper.Sql.Identifier
import RowMapper.Sql.Quoting

/-!
# Plain names in statements

A plain name is an ASCII identifier: a letter or underscore, then letters, digits and underscores.
Between backticks it needs no escaping, and the quoted name is plain text.
-/

namespace RowMapper.Sql

/-- Whether a name is an ASCII identifier. -/
def isPlainName (name : String) : Bool :=
  match name.toList with
  | [] => false
  | c :: rest => startsIdentifier c && rest.all Text.isAsciiWord

theorem isAsciiWord_of_mem_plainName {name : String} (plain : isPlainName name = true) {c : Char}
    (member : c ∈ name.toList) : Text.isAsciiWord c = true := by
  rw [isPlainName] at plain
  cases found : name.toList with
  | nil => rw [found] at member; exact absurd member (by simp)
  | cons d rest =>
      rw [found] at plain member
      simp only [Bool.and_eq_true, List.all_eq_true] at plain
      rcases List.mem_cons.mp member with rfl | inRest
      · have starts := plain.1
        simp only [startsIdentifier, Bool.or_eq_true, decide_eq_true_eq] at starts
        rcases starts with letter | underscore
        · simp [Text.isAsciiWord, Char.isAlphanum, letter]
        · simp [Text.isAsciiWord, underscore]
      · exact plain.2 c inRest

/-- A word character is none of the marks that binding looks for. -/
theorem ne_mark_of_isAsciiWord {c : Char} (word : Text.isAsciiWord c = true) :
    c ≠ '?' ∧ c ≠ ':' ∧ c ≠ '\x60' := by
  refine ⟨?_, ?_, ?_⟩ <;>
    intro equal <;>
    rw [equal] at word <;>
    exact absurd word (by decide)

theorem escapeNameChar_of_isAsciiWord {c : Char} (word : Text.isAsciiWord c = true) :
    escapeNameChar c = [c] := by
  rw [escapeNameChar, if_neg (ne_mark_of_isAsciiWord word).2.2]

/-- Between backticks a plain name stands as it is. -/
theorem toList_quoteName_of_plain {name : String} (plain : isPlainName name = true) :
    (quoteName name).toList = '\x60' :: (name.toList ++ ['\x60']) := by
  have same : ∀ cs : List Char, (∀ c ∈ cs, Text.isAsciiWord c = true) →
      cs.flatMap escapeNameChar = cs := by
    intro cs word
    induction cs with
    | nil => rfl
    | cons c rest ih =>
        rw [List.flatMap_cons, escapeNameChar_of_isAsciiWord (word c List.mem_cons_self),
          ih fun d member => word d (List.mem_cons_of_mem c member)]
        rfl
  rw [toList_quoteName, quoteNameChars,
    same _ fun c member => isAsciiWord_of_mem_plainName plain member]
  rfl

/-- A word character does not end a part between backticks. -/
theorem step_quoted_of_isAsciiWord {c : Char} (word : Text.isAsciiWord c = true) :
    (Context.quoted '\x60').step c = .quoted '\x60' := by
  simp [Context.step, (ne_mark_of_isAsciiWord word).2.2]

theorem isPlain_quoteName {name : String} (plain : isPlainName name = true) :
    IsPlain (quoteName name).toList := by
  have word := fun c member => isAsciiWord_of_mem_plainName (c := c) plain member
  rw [toList_quoteName_of_plain plain]
  constructor
  · intro c member
    rcases List.mem_cons.mp member with rfl | later
    · decide
    · rcases List.mem_append.mp later with inName | last
      · exact ⟨(ne_mark_of_isAsciiWord (word c inName)).1,
          (ne_mark_of_isAsciiWord (word c inName)).2.1⟩
      · have equal : c = '\x60' := by simpa using last
        rw [equal]
        decide
  · have opens : Context.plain.step '\x60' = .quoted '\x60' := by decide
    have closes : (Context.quoted '\x60').step '\x60' = .plain := by decide
    rw [Context.after_cons, opens, Context.after_append,
      Context.after_eq_self fun c member => step_quoted_of_isAsciiWord (word c member),
      Context.after_cons, closes, Context.after_nil]

/-- Text of characters from a class without placeholders, colons and quotes is plain. -/
theorem IsPlain.of_class {p : Char → Bool}
    (excludes : ['?', ':', '\'', '"', '\x60'].all (fun mark => !p mark) = true) {cs : List Char}
    (within : ∀ c ∈ cs, p c = true) : IsPlain cs := by
  simp only [List.all_cons, List.all_nil, Bool.and_true, Bool.and_eq_true,
    Bool.not_eq_true'] at excludes
  obtain ⟨placeholder, colon, apostrophe, double, backtick⟩ := excludes
  have ne_of_excluded : ∀ c ∈ cs, ∀ mark, p mark = false → c ≠ mark := by
    intro c member mark excluded equal
    rw [← equal, within c member] at excluded
    cases excluded
  constructor
  · intro c member
    exact ⟨ne_of_excluded c member _ placeholder, ne_of_excluded c member _ colon⟩
  · apply Context.after_eq_self
    intro c member
    have noMark : Context.isMark c = false := by
      simp only [Context.isMark, Bool.or_eq_false_iff, decide_eq_false_iff_not]
      exact ⟨⟨ne_of_excluded c member _ apostrophe, ne_of_excluded c member _ double⟩,
        ne_of_excluded c member _ backtick⟩
    rw [Context.step, noMark]
    rfl

/-- Decimal digits are plain text. -/
theorem isPlain_repr (n : Nat) : IsPlain (Nat.repr n).toList :=
  .of_class (p := Char.isDigit) (by decide) fun _ => isDigit_of_mem_repr

end RowMapper.Sql
