import RowMapper.Sql.Binding

/-!
# What binding does to a text

Binding takes a statement apart at its placeholders and puts it together again with numbered binds
between the pieces. `bindFrom` does the same in one pass over the characters: that is the form in
which facts about the bound text are proved. A text is plain when it holds neither placeholders nor
colons and leaves every quoted part that it enters; plain text passes through unchanged.
-/

namespace RowMapper.Sql

/-! ## One pass over the characters -/

/-- The bound text of a statement that is read from a context on, with the binds numbered from an
index on. -/
def bindFrom (context : Context) (index : Nat) : List Char → List Char
  | [] => []
  | c :: rest =>
      if context = .plain && c = '?' then
        ':' :: (bindName index).toList ++ bindFrom .plain (index + 1) rest
      else if c = ':' && startsWord rest then
        '\\' :: ':' :: bindFrom (context.step c) index rest
      else c :: bindFrom (context.step c) index rest

/-- Pieces put together behind the first one, with the binds numbered from an index on. -/
def joinFrom (index : Nat) : List (List Char) → List Char
  | [] => []
  | piece :: rest => piece ++ joinBinds index rest

theorem startsWord_consFirst (c : Char) (pieces : List (List Char)) :
    startsWord ((consFirst c pieces).headD []) = Text.isWord c := by
  cases pieces <;> rfl

/-- A piece starts with a word just when the text it was cut from does: a placeholder, which would
end the piece at once, is no word character. -/
theorem startsWord_head_pieces (context : Context) (cs : List Char) :
    startsWord ((pieces context cs).headD []) = startsWord cs := by
  cases cs with
  | nil => rfl
  | cons c rest =>
      simp only [pieces]
      split
      next placeholder =>
        simp only [Bool.and_eq_true, decide_eq_true_eq] at placeholder
        rw [placeholder.2]
        rfl
      next => exact startsWord_consFirst c _

theorem joinFrom_cons_piece (index : Nat) (piece : List Char) (rest : List (List Char)) :
    joinFrom index (piece :: rest) = piece ++ joinBinds index rest := rfl

/-- Escaping and joining the pieces of a text is one pass over its characters. -/
theorem joinFrom_pieces (context : Context) (index : Nat) (cs : List Char) :
    joinFrom index ((pieces context cs).map escapeColons) = bindFrom context index cs := by
  induction cs generalizing context index with
  | nil => rfl
  | cons c rest ih =>
      simp only [pieces, bindFrom]
      split
      next placeholder =>
        have joined := ih .plain (index + 1)
        cases found : pieces .plain rest with
        | nil => exact absurd found (pieces_ne_nil _ _)
        | cons piece others =>
            rw [found, List.map_cons, joinFrom_cons_piece] at joined
            simp only [List.map_cons, escapeColons, joinFrom_cons_piece, joinBinds]
            rw [← joined]
            simp
      next =>
        have joined := ih (context.step c) index
        have first := startsWord_head_pieces (context.step c) rest
        cases found : pieces (context.step c) rest with
        | nil => exact absurd found (pieces_ne_nil _ _)
        | cons piece others =>
            rw [found, List.map_cons, joinFrom_cons_piece] at joined
            rw [found, List.headD_cons] at first
            simp only [consFirst, List.map_cons, escapeColons, first, joinFrom_cons_piece]
            rw [← joined]
            split <;> rfl

theorem joinPieces_eq_joinFrom (pieces : List (List Char)) :
    joinPieces pieces = joinFrom 0 pieces := by
  cases pieces <;> rfl

/-- The bound text of a statement, in one pass. -/
theorem toList_boundText (sql : String) :
    (boundText sql).toList = bindFrom .plain 0 sql.toList := by
  rw [boundText, String.toList_ofList, joinPieces_eq_joinFrom, joinFrom_pieces]

/-! ## Names of binds -/

theorem isDigit_of_mem_repr {index : Nat} {c : Char} (member : c ∈ (Nat.repr index).toList) :
    c.isDigit = true := by
  rw [Nat.toList_repr] at member
  exact Nat.isDigit_of_mem_toDigits (by decide) (by decide) member

theorem toNat_lt_of_isAlphanum {c : Char} (alphanumeric : c.isAlphanum = true) :
    c.toNat < 128 := by
  have below : ∀ bound : UInt32, c.val ≤ bound → bound.toNat < 128 → c.toNat < 128 := by
    intro bound small bounded
    exact Nat.lt_of_le_of_lt (UInt32.le_iff_toNat_le.mp small) bounded
  rcases Bool.or_eq_true_iff.mp alphanumeric with letter | digit
  · rcases Bool.or_eq_true_iff.mp letter with upper | lower
    · exact below 'Z'.val (of_decide_eq_true upper).2 (by decide)
    · exact below 'z'.val (of_decide_eq_true (Bool.and_eq_true_iff.mp lower).2) (by decide)
  · exact below '9'.val (of_decide_eq_true (Bool.and_eq_true_iff.mp digit).2) (by decide)

theorem toNat_lt_of_isAsciiWord {c : Char} (word : Text.isAsciiWord c = true) :
    c.toNat < 128 := by
  rw [Text.isAsciiWord, Bool.or_eq_true, decide_eq_true_eq] at word
  rcases word with alphanumeric | rfl
  · exact toNat_lt_of_isAlphanum alphanumeric
  · decide

theorem isWord_of_isAsciiWord {c : Char} (word : Text.isAsciiWord c = true) :
    Text.isWord c = true := by
  rw [Text.isWord, if_pos (toNat_lt_of_isAsciiWord word), word]

theorem isWord_of_mem_bindName {index : Nat} {c : Char} (member : c ∈ (bindName index).toList) :
    Text.isWord c = true := by
  simp only [bindName, String.toList_append, List.mem_append] at member
  rcases member with letter | digit
  · have equal : c = 'p' := by simpa using letter
    rw [equal]
    decide
  · apply isWord_of_isAsciiWord
    simp [Text.isAsciiWord, Char.isAlphanum, isDigit_of_mem_repr digit]

theorem bindName_ne_nil (index : Nat) : (bindName index).toList ≠ [] := by
  simp [bindName]

/-- A word at the front of a text is read off whole where no word character follows it. -/
theorem takeWhile_word_append {name rest : List Char} (word : ∀ c ∈ name, Text.isWord c = true)
    (ends : startsWord rest = false) :
    (name ++ rest).takeWhile Text.isWord = name ∧ (name ++ rest).dropWhile Text.isWord = rest := by
  have stops : rest.takeWhile Text.isWord = [] ∧ rest.dropWhile Text.isWord = rest := by
    cases rest with
    | nil => exact ⟨rfl, rfl⟩
    | cons c others =>
        have notWord : Text.isWord c = false := ends
        simp [notWord]
  constructor
  · rw [List.takeWhile_append_of_pos word, stops.1, List.append_nil]
  · rw [List.dropWhile_append_of_pos word, stops.2]

/-- Whether the text behind a bind leaves its name alone: it starts with no word character, which
would lengthen the name, and with no colon, which would undo the bind. -/
def endsBind (cs : List Char) : Bool :=
  !startsWord cs && cs.head? ≠ some ':'

/-- A text without colons holds no bind. -/
theorem bindNamesAfter_append {text : List Char} (previous : Option Char) (rest : List Char)
    (noColon : ∀ c ∈ text, c ≠ ':') :
    bindNamesAfter previous (text ++ rest) = bindNamesAfter (text.getLast?.or previous) rest := by
  induction text generalizing previous with
  | nil => rfl
  | cons c others ih =>
      have notColon : c ≠ ':' := noColon c List.mem_cons_self
      simp only [List.cons_append, bindNamesAfter, notColon, decide_false, Bool.false_and,
        Bool.false_eq_true, if_false]
      rw [ih _ fun d member => noColon d (List.mem_cons_of_mem c member)]
      cases others with
      | nil => rfl
      | cons d tail => simp [List.getLast?_cons]

/-- A bind that nothing before it or behind it spoils is found, under its whole name. -/
theorem bindNamesAfter_bind {previous : Option Char} {name rest : List Char}
    (allowed : allowsBind previous = true) (nonempty : name ≠ [])
    (wordChars : ∀ c ∈ name, Text.isWord c = true) (ends : endsBind rest = true) :
    bindNamesAfter previous (':' :: (name ++ rest)) =
      name :: bindNamesAfter name.getLast? rest := by
  simp only [endsBind, Bool.and_eq_true, Bool.not_eq_true', decide_eq_true_eq] at ends
  have noColon : ∀ c ∈ name, c ≠ ':' := by
    intro c member equal
    have isWord := wordChars c member
    rw [equal] at isWord
    exact absurd isWord (by decide)
  have read := takeWhile_word_append wordChars ends.1
  have starts : startsWord (name ++ rest) = true := by
    cases name with
    | nil => exact absurd rfl nonempty
    | cons c others => exact wordChars c List.mem_cons_self
  have noColonAfter : colonAfterWord (name ++ rest) = false := by
    simp [colonAfterWord, read.2, ends.2]
  have later : bindNamesAfter (some ':') (name ++ rest) = bindNamesAfter name.getLast? rest := by
    rw [bindNamesAfter_append _ _ noColon]
    cases found : name.getLast? with
    | none => exact absurd (List.getLast?_eq_none_iff.mp found) nonempty
    | some c => rfl
  rw [bindNamesAfter]
  simp only [allowed, starts, noColonAfter, decide_true, Bool.and_self, Bool.not_false, if_true,
    later]
  rw [word, read.1]

/-! ## Plain text -/

/-- What holds of texts that are put together holds of texts with a separator between them. -/
theorem intercalate_of_append {holds : List Char → Prop} (nil : holds [])
    (append : ∀ {front back : List Char}, holds front → holds back → holds (front ++ back))
    {separator : List Char} {texts : List (List Char)} (ofSeparator : holds separator)
    (ofEach : ∀ text ∈ texts, holds text) : holds (separator.intercalate texts) := by
  induction texts with
  | nil => exact nil
  | cons text others ih =>
      have ofText := ofEach text List.mem_cons_self
      have ofOthers := ih fun other member => ofEach other (List.mem_cons_of_mem text member)
      by_cases last : others = []
      · rw [last, List.intercalate_singleton]
        exact ofText
      · rw [List.intercalate_cons_of_ne_nil last]
        exact append (append ofText ofSeparator) ofOthers

/-- Text that binding passes through: without placeholders, without colons, and outside every
quoted part at its end. -/
structure IsPlain (cs : List Char) : Prop where
  unmarked : ∀ c ∈ cs, c ≠ '?' ∧ c ≠ ':'
  balanced : Context.plain.after cs = .plain

/-- The test for plain text, which looks at each character of a text once. -/
def isPlainText (text : String) : Bool :=
  text.toList.all (fun c => c ≠ '?' && c ≠ ':') && Context.plain.after text.toList = .plain

namespace IsPlain

/-- The test finds plain text. -/
theorem of_text {text : String} (plain : isPlainText text = true) : IsPlain text.toList := by
  simp only [isPlainText, Bool.and_eq_true, List.all_eq_true, decide_eq_true_eq] at plain
  exact ⟨plain.1, plain.2⟩

theorem nil : IsPlain [] := ⟨by simp, rfl⟩

theorem append {front back : List Char} (frontPlain : IsPlain front) (backPlain : IsPlain back) :
    IsPlain (front ++ back) where
  unmarked c member := by
    rcases List.mem_append.mp member with inFront | inBack
    · exact frontPlain.unmarked c inFront
    · exact backPlain.unmarked c inBack
  balanced := by
    rw [Context.after_append, frontPlain.balanced, backPlain.balanced]

theorem intercalate {separator : List Char} {texts : List (List Char)}
    (separatorPlain : IsPlain separator) (allPlain : ∀ text ∈ texts, IsPlain text) :
    IsPlain (separator.intercalate texts) :=
  intercalate_of_append nil append separatorPlain allPlain

end IsPlain

/-- A reader stays where each character of a text leaves it. -/
theorem Context.after_eq_self {context : Context} {cs : List Char}
    (stays : ∀ c ∈ cs, context.step c = context) : context.after cs = context := by
  induction cs with
  | nil => rfl
  | cons c rest ih =>
      rw [Context.after_cons, stays c List.mem_cons_self]
      exact ih fun d member => stays d (List.mem_cons_of_mem c member)

/-- Text without placeholders and colons passes through, and the reading goes on behind it. -/
theorem bindFrom_append {text : List Char} (context : Context) (index : Nat) (rest : List Char)
    (unmarked : ∀ c ∈ text, c ≠ '?' ∧ c ≠ ':') :
    bindFrom context index (text ++ rest) = text ++ bindFrom (context.after text) index rest := by
  induction text generalizing context with
  | nil => rfl
  | cons c others ih =>
      have head := unmarked c List.mem_cons_self
      simp only [List.cons_append, bindFrom, head.1, head.2, decide_false, Bool.and_false,
        Bool.false_and, Bool.false_eq_true, if_false, Context.after_cons]
      rw [ih _ fun d member => unmarked d (List.mem_cons_of_mem c member)]

theorem bindFrom_plain_append {text : List Char} (index : Nat) (rest : List Char)
    (textPlain : IsPlain text) :
    bindFrom .plain index (text ++ rest) = text ++ bindFrom .plain index rest := by
  rw [bindFrom_append _ _ _ textPlain.unmarked, textPlain.balanced]

theorem length_consFirst {c : Char} {pieces : List (List Char)} (nonempty : pieces ≠ []) :
    (consFirst c pieces).length = pieces.length := by
  cases pieces with
  | nil => exact absurd rfl nonempty
  | cons piece others => rfl

/-- Plain text adds no piece. -/
theorem length_pieces_plain_append {text : List Char} (rest : List Char)
    (textPlain : IsPlain text) :
    (pieces .plain (text ++ rest)).length = (pieces .plain rest).length := by
  have general : ∀ context : Context,
      (pieces context (text ++ rest)).length = (pieces (context.after text) rest).length := by
    have unmarked := textPlain.unmarked
    clear textPlain
    induction text with
    | nil => exact fun context => rfl
    | cons c others ih =>
        intro context
        have head := unmarked c List.mem_cons_self
        simp only [List.cons_append, pieces, head.1, decide_false, Bool.and_false,
          Bool.false_eq_true, if_false, Context.after_cons]
        rw [length_consFirst (pieces_ne_nil _ _)]
        exact ih (fun d member => unmarked d (List.mem_cons_of_mem c member)) _
  rw [general, textPlain.balanced]

theorem length_pieces_placeholder (rest : List Char) :
    (pieces .plain ('?' :: rest)).length = (pieces .plain rest).length + 1 := by
  simp [pieces]

end RowMapper.Sql
