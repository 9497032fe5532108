import RowMapper.Proofs.Sql.PlainName
import RowMapper.Proofs.Sql.Rendering

/-!
# Text without placeholders

A text is closed when it leaves every quoted part that it enters and meets no placeholder on the
way. Unlike plain text it may hold question marks and colons within its quotes, as a string literal
does whatever it was made of. A closed statement is one piece, takes no parameters, and the bound
text has no binds: every colon that a word follows has a backslash in front.
-/

namespace RowMapper.Sql

/-- Whether no character read from a context on is a placeholder. -/
def HasNoPlaceholder (context : Context) : List Char → Prop
  | [] => True
  | c :: rest => ¬ (context = .plain ∧ c = '?') ∧ HasNoPlaceholder (context.step c) rest

theorem hasNoPlaceholder_append {context : Context} {front back : List Char} :
    HasNoPlaceholder context (front ++ back) ↔
      HasNoPlaceholder context front ∧ HasNoPlaceholder (context.after front) back := by
  induction front generalizing context with
  | nil => simp [HasNoPlaceholder]
  | cons c rest ih => simp [HasNoPlaceholder, ih, and_assoc]

theorem hasNoPlaceholder_of_ne {context : Context} {cs : List Char}
    (unmarked : ∀ c ∈ cs, c ≠ '?') : HasNoPlaceholder context cs := by
  induction cs generalizing context with
  | nil => trivial
  | cons c rest ih =>
      refine ⟨fun placeholder => unmarked c List.mem_cons_self placeholder.2, ?_⟩
      exact ih fun d member => unmarked d (List.mem_cons_of_mem c member)

/-! ## What binding does to it -/

/-- Text without placeholders is one piece. -/
theorem pieces_of_hasNoPlaceholder {context : Context} {cs : List Char}
    (without : HasNoPlaceholder context cs) : pieces context cs = [cs] := by
  induction cs generalizing context with
  | nil => rfl
  | cons c rest ih =>
      have ordinary : ¬ (decide (context = .plain) && decide (c = '?')) = true := by
        simpa using without.1
      rw [pieces, if_neg ordinary, ih without.2]
      rfl

/-- Binding starts no word where none starts in the text. -/
theorem startsWord_bindFrom_of_not_startsWord {context : Context} {index : Nat} {cs : List Char}
    (notWord : startsWord cs = false) : startsWord (bindFrom context index cs) = false := by
  cases cs with
  | nil => rfl
  | cons c rest => exact startsWord_bindFrom context index rest notWord

/-- A statement without placeholders takes no parameters. -/
theorem bindPositional_of_hasNoPlaceholder {sql : String}
    (without : HasNoPlaceholder .plain sql.toList) :
    bindPositional sql (.tuple []) = .ok ⟨boundText sql, []⟩ := by
  have none : placeholderCount sql = 0 := by
    rw [placeholderCount, pieces_of_hasNoPlaceholder without]
    rfl
  simp [bindPositional, Value.size, Value.items?, none, nameParameters]

/-- Once bound, a character that is no placeholder starts no bind: a colon either has a backslash in
front or no word behind. -/
theorem bindNamesAfter_bindFrom_cons {context : Context} {c : Char} (previous : Option Char)
    (index : Nat) (rest : List Char) (ordinary : ¬ (context = .plain ∧ c = '?')) :
    bindNamesAfter previous (bindFrom context index (c :: rest)) =
      bindNamesAfter (some c) (bindFrom (context.step c) index rest) := by
  rw [bindFrom, if_neg (by simpa using ordinary)]
  split
  next escaped =>
    simp only [Bool.and_eq_true, decide_eq_true_eq] at escaped
    simp [bindNamesAfter, allowsBind, escaped.1]
  next unescaped =>
    have noBind : (decide (c = ':') && allowsBind previous &&
        startsWord (bindFrom (context.step c) index rest) &&
        !colonAfterWord (bindFrom (context.step c) index rest)) = false := by
      by_cases colon : c = ':'
      · have notWord : startsWord rest = false := by simpa [colon] using unescaped
        simp [startsWord_bindFrom_of_not_startsWord notWord]
      · simp [colon]
    simp [bindNamesAfter, noBind]

/-- Once bound, text without placeholders holds no bind. -/
theorem bindNamesAfter_bindFrom {context : Context} {cs : List Char} (previous : Option Char)
    (index : Nat) (without : HasNoPlaceholder context cs) :
    bindNamesAfter previous (bindFrom context index cs) = [] := by
  induction cs generalizing context previous with
  | nil => rfl
  | cons c rest ih =>
      rw [bindNamesAfter_bindFrom_cons previous index rest without.1]
      exact ih (some c) without.2

/-! ## Closed text -/

/-- Text that meets no placeholder and is outside every quoted part at its end. -/
structure IsClosed (cs : List Char) : Prop where
  noPlaceholder : HasNoPlaceholder .plain cs
  balanced : Context.plain.after cs = .plain

theorem IsPlain.isClosed {cs : List Char} (plain : IsPlain cs) : IsClosed cs where
  noPlaceholder := hasNoPlaceholder_of_ne fun c member => (plain.unmarked c member).1
  balanced := plain.balanced

namespace IsClosed

theorem append {front back : List Char} (frontClosed : IsClosed front)
    (backClosed : IsClosed back) : IsClosed (front ++ back) where
  noPlaceholder := by
    rw [hasNoPlaceholder_append, frontClosed.balanced]
    exact ⟨frontClosed.noPlaceholder, backClosed.noPlaceholder⟩
  balanced := by
    rw [Context.after_append, frontClosed.balanced, backClosed.balanced]

theorem intercalate {separator : List Char} {texts : List (List Char)}
    (separatorClosed : IsClosed separator) (allClosed : ∀ text ∈ texts, IsClosed text) :
    IsClosed (separator.intercalate texts) :=
  intercalate_of_append IsPlain.nil.isClosed append separatorClosed allClosed

end IsClosed

/-! ## Quoted names and literals -/

/-- Whether an escaped character leaves the reader inside the quoted part that it stands in, and
shows it no placeholder. -/
def StaysInside (mark : Char) (text : List Char) : Prop :=
  (Context.quoted mark).after text = .quoted mark ∧ HasNoPlaceholder (.quoted mark) text

theorem StaysInside.flatMap {mark : Char} {escape : Char → List Char}
    (each : ∀ c, StaysInside mark (escape c)) (cs : List Char) :
    StaysInside mark (cs.flatMap escape) := by
  induction cs with
  | nil => exact ⟨rfl, trivial⟩
  | cons c rest ih =>
      obtain ⟨stays, without⟩ := each c
      rw [StaysInside, List.flatMap_cons, Context.after_append, hasNoPlaceholder_append, stays]
      exact ⟨ih.1, without, ih.2⟩

/-- What stays inside is closed between two marks. -/
theorem StaysInside.isClosed {mark : Char} {text : List Char} (inside : StaysInside mark text)
    (opens : Context.plain.step mark = .quoted mark)
    (closes : (Context.quoted mark).step mark = .plain) : IsClosed (mark :: text ++ [mark]) := by
  obtain ⟨stays, without⟩ := inside
  have ordinary : mark ≠ '?' := by
    intro placeholder
    rw [placeholder] at opens
    exact absurd opens (by decide)
  constructor
  · simp [HasNoPlaceholder, hasNoPlaceholder_append, opens, stays, without, ordinary]
  · rw [List.cons_append, Context.after_cons, opens, Context.after_append, stays,
      Context.after_cons, closes, Context.after_nil]

theorem staysInside_escapeNameChar (c : Char) : StaysInside '\x60' (escapeNameChar c) := by
  by_cases backtick : c = '\x60'
  · subst backtick
    exact ⟨by decide, by simp [escapeNameChar, HasNoPlaceholder]⟩
  · simp [StaysInside, escapeNameChar, HasNoPlaceholder, backtick, Context.step]

/-- A quoted name is closed, whatever the name. -/
theorem isClosed_quoteName (name : String) : IsClosed (quoteName name).toList := by
  rw [toList_quoteName, quoteNameChars]
  exact (StaysInside.flatMap staysInside_escapeNameChar _).isClosed (by decide) (by decide)

theorem staysInside_escapeLiteralChar (c : Char) : StaysInside '\'' (escapeLiteralChar c) := by
  by_cases backslash : c = '\\'
  · subst backslash
    exact ⟨by decide, by simp [escapeLiteralChar, HasNoPlaceholder]⟩
  · by_cases apostrophe : c = '\''
    · subst apostrophe
      exact ⟨by decide, by simp [escapeLiteralChar, HasNoPlaceholder]⟩
    · simp [StaysInside, escapeLiteralChar, HasNoPlaceholder, backslash, apostrophe, Context.step]

/-- A string literal is closed, whatever its content. -/
theorem isClosed_quoteLiteral (s : String) : IsClosed (quoteLiteral s).toList := by
  rw [toList_quoteLiteral, quoteLiteralChars]
  exact (StaysInside.flatMap staysInside_escapeLiteralChar _).isClosed (by decide) (by decide)

end RowMapper.Sql
