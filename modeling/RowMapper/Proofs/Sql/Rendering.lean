import RowMapper.Proofs.Sql.BoundText

/-!
# The text that is sent on

Binding puts a backslash before every colon that a word follows, and the layer below takes
backslashes before colons away again. The two do not look at the same thing: the first looks one
character ahead, the second passes over the word behind the colon and leaves the backslash where
another colon follows. A colon is bare if it gets no backslash, because it belongs to the bind of a
placeholder or because no word follows it. `SentAsWritten` says, in terms of the statement alone,
where bare colons may stand for the two to be inverse to each other.
-/

namespace RowMapper.Sql

/-- A statement with its placeholders replaced, the one at each position by the bind of that
position, when it is read from a context on. -/
def numberPlaceholders (context : Context) (index : Nat) : List Char → List Char
  | [] => []
  | c :: rest =>
      if context = .plain && c = '?' then
        ':' :: (bindName index).toList ++ numberPlaceholders .plain (index + 1) rest
      else c :: numberPlaceholders (context.step c) index rest

/-- Whether a text starts with a bare colon: with a placeholder, or with a colon that no word
follows. -/
def startsBareColon (context : Context) : List Char → Bool
  | [] => false
  | c :: rest => (context = .plain && c = '?') || (c = ':' && !startsWord rest)

/-- Whether a bare colon follows the word, be it an empty one, at the front of a text. -/
def bareColonAfterWord (context : Context) (cs : List Char) : Bool :=
  startsBareColon (context.after (word cs)) (cs.dropWhile Text.isWord)

/-- Whether a statement that is read from a context on is sent on as it was written. No bare colon
follows a name behind a colon, and a backslash stands before a bare colon only if the word behind
that colon ends at another one. -/
structure SentAsWritten (context : Context) (cs : List Char) : Prop where
  names : ∀ front rest, cs = front ++ ':' :: rest → startsWord rest = true →
    bareColonAfterWord (context.after (front ++ [':'])) rest = false
  backslashes : ∀ front c rest, cs = front ++ '\\' :: c :: rest →
    startsBareColon (context.after (front ++ ['\\'])) (c :: rest) = true →
    bareColonAfterWord (context.after (front ++ ['\\', c])) rest = true

namespace SentAsWritten

variable {context : Context} {c : Char} {rest : List Char}

theorem nil (context : Context) : SentAsWritten context [] where
  names := by simp
  backslashes := by simp

/-- What a statement keeps to is kept by its first character and by the text behind it. -/
theorem cons_iff :
    SentAsWritten context (c :: rest) ↔
      (c = ':' → startsWord rest = true →
        bareColonAfterWord (context.step ':') rest = false) ∧
      (c = '\\' → ∀ d tail, rest = d :: tail →
        startsBareColon (context.step '\\') (d :: tail) = true →
        bareColonAfterWord ((context.step '\\').step d) tail = true) ∧
      SentAsWritten (context.step c) rest := by
  constructor
  · intro written
    refine ⟨?_, ?_, ?_, ?_⟩
    · rintro rfl starts
      exact written.names [] rest rfl starts
    · rintro rfl d tail rfl bare
      exact written.backslashes [] d tail rfl bare
    · rintro front tail rfl starts
      exact written.names (c :: front) tail rfl starts
    · rintro front d tail rfl bare
      exact written.backslashes (c :: front) d tail rfl bare
  · rintro ⟨name, backslash, written⟩
    constructor
    · intro front tail split starts
      cases front with
      | nil =>
          cases split
          exact name rfl starts
      | cons first others =>
          cases split
          exact written.names others tail rfl starts
    · intro front d tail split bare
      cases front with
      | nil =>
          cases split
          exact backslash rfl d tail rfl bare
      | cons first others =>
          cases split
          exact written.backslashes others d tail rfl bare

/-- Characters other than colons and backslashes are always sent on as they were written. -/
theorem cons_iff_of_ne (notColon : c ≠ ':') (notBackslash : c ≠ '\\') :
    SentAsWritten context (c :: rest) ↔ SentAsWritten (context.step c) rest := by
  simp [cons_iff, notColon, notBackslash]

end SentAsWritten

/-! ## Bare colons and the bound text -/

/-- The bound text starts with a colon just when the statement starts with a bare one. -/
theorem head?_bindFrom_eq_colon (context : Context) (index : Nat) (cs : List Char) :
    (bindFrom context index cs).head? = some ':' ↔ startsBareColon context cs = true := by
  cases cs with
  | nil => simp [bindFrom, startsBareColon]
  | cons c rest =>
      simp only [bindFrom, startsBareColon]
      split
      next placeholder => simp [placeholder]
      next notPlaceholder =>
        split
        next escaped =>
          simp only [Bool.and_eq_true, decide_eq_true_eq] at escaped
          simp [notPlaceholder, escaped.2]
        next plain => grind

/-- A word passes through binding. -/
theorem bindFrom_cons_of_isWord {c : Char} (isWord : Text.isWord c = true) (context : Context)
    (index : Nat) (rest : List Char) :
    bindFrom context index (c :: rest) = c :: bindFrom (context.step c) index rest := by
  have notMark : c ≠ '?' ∧ c ≠ ':' := by
    constructor <;>
      rintro rfl <;>
      exact absurd isWord (by decide)
  simp [bindFrom, notMark.1, notMark.2]

/-- Where no word starts in the statement, none starts in the bound text. -/
theorem startsWord_bindFrom (context : Context) (index : Nat) {c : Char} (rest : List Char)
    (notWord : Text.isWord c = false) :
    startsWord (bindFrom context index (c :: rest)) = false := by
  simp only [bindFrom]
  split
  · rfl
  · split
    · rfl
    · exact notWord

theorem dropWhile_isWord_of_not_startsWord {cs : List Char} (notWord : startsWord cs = false) :
    cs.dropWhile Text.isWord = cs := by
  cases cs with
  | nil => rfl
  | cons c rest => exact List.dropWhile_cons_of_neg (by simpa [startsWord] using notWord)

/-- In the bound text a colon follows the first word just when a bare one does in the statement. -/
theorem colonAfterWord_bindFrom (context : Context) (index : Nat) (cs : List Char) :
    colonAfterWord (bindFrom context index cs) = bareColonAfterWord context cs := by
  induction cs generalizing context with
  | nil => rfl
  | cons c rest ih =>
      cases isWord : Text.isWord c with
      | true =>
          have later := ih (context.step c)
          rw [bindFrom_cons_of_isWord isWord]
          simpa [colonAfterWord, bareColonAfterWord, word, isWord] using later
      | false =>
          have stops := dropWhile_isWord_of_not_startsWord
            (startsWord_bindFrom context index rest isWord)
          rw [Bool.eq_iff_iff, colonAfterWord, stops, decide_eq_true_iff, head?_bindFrom_eq_colon]
          simp [bareColonAfterWord, word, isWord]

/-! ## Taking the backslashes away again -/

theorem unescapeChars_cons_of_ne {c : Char} (notBackslash : c ≠ '\\') (rest : List Char) :
    unescapeChars (c :: rest) = c :: unescapeChars rest := by
  simp [unescapeChars, notBackslash]

/-- Text without backslashes is sent on as it is. -/
theorem unescapeChars_append {text : List Char} (rest : List Char)
    (noBackslash : ∀ c ∈ text, c ≠ '\\') :
    unescapeChars (text ++ rest) = text ++ unescapeChars rest := by
  induction text with
  | nil => rfl
  | cons c others ih =>
      rw [List.cons_append, unescapeChars_cons_of_ne (noBackslash c List.mem_cons_self),
        ih fun d member => noBackslash d (List.mem_cons_of_mem c member)]
      rfl

theorem ne_backslash_of_mem_bindName {index : Nat} {c : Char}
    (member : c ∈ (bindName index).toList) : c ≠ '\\' := by
  rintro rfl
  exact absurd (isWord_of_mem_bindName member) (by decide)

/-- The backslash before a colon goes just when no colon follows the word behind that colon. -/
theorem unescapeChars_backslash_colon (rest : List Char) :
    unescapeChars ('\\' :: ':' :: rest) =
      if colonAfterWord rest then '\\' :: ':' :: unescapeChars rest
      else ':' :: unescapeChars rest := by
  cases follows : colonAfterWord rest <;> simp [unescapeChars, follows]

/-- A backslash stays before anything but a colon. -/
theorem unescapeChars_backslash_of_ne {rest : List Char} (notColon : rest.head? ≠ some ':') :
    unescapeChars ('\\' :: rest) = '\\' :: unescapeChars rest := by
  simp [unescapeChars, notColon]

/-- A word in front does not change whether a colon follows the word there. -/
theorem colonAfterWord_append {name : List Char} (isWord : ∀ c ∈ name, Text.isWord c = true)
    (rest : List Char) : colonAfterWord (name ++ rest) = colonAfterWord rest := by
  rw [colonAfterWord, colonAfterWord, List.dropWhile_append_of_pos isWord]

/-- A bare colon is one in the bound text, where a colon follows the word behind it just when a
bare one does in the statement. -/
theorem exists_bindFrom_of_startsBareColon {context : Context} {c : Char} {rest : List Char}
    (index : Nat) (bare : startsBareColon context (c :: rest) = true) :
    ∃ tail, bindFrom context index (c :: rest) = ':' :: tail ∧
      colonAfterWord tail = bareColonAfterWord (context.step c) rest := by
  simp only [startsBareColon, Bool.or_eq_true, Bool.and_eq_true, decide_eq_true_eq,
    Bool.not_eq_true'] at bare
  rcases bare with ⟨rfl, rfl⟩ | ⟨rfl, noWord⟩
  · refine ⟨(bindName index).toList ++ bindFrom .plain (index + 1) rest, by simp [bindFrom], ?_⟩
    rw [colonAfterWord_append fun c member => isWord_of_mem_bindName member,
      colonAfterWord_bindFrom]
    rfl
  · refine ⟨bindFrom (context.step ':') index rest, by simp [bindFrom, noWord], ?_⟩
    exact colonAfterWord_bindFrom _ _ _

/-- Whether a statement that is read from a context on is sent on as it was written, with its binds
numbered from an index on. -/
def Renders (context : Context) (index : Nat) (cs : List Char) : Prop :=
  unescapeChars (bindFrom context index cs) = numberPlaceholders context index cs

namespace Renders

variable {context : Context} {index : Nat} {c : Char} {rest : List Char}

theorem placeholder_iff : Renders .plain index ('?' :: rest) ↔ Renders .plain (index + 1) rest := by
  have bound : bindFrom .plain index ('?' :: rest) =
      (':' :: (bindName index).toList) ++ bindFrom .plain (index + 1) rest := by
    simp [bindFrom]
  have noBackslash : ∀ c ∈ ':' :: (bindName index).toList, c ≠ '\\' := by
    intro c member
    rcases List.mem_cons.mp member with rfl | inName
    · decide
    · exact ne_backslash_of_mem_bindName inName
  rw [Renders, Renders, bound, unescapeChars_append _ noBackslash]
  simp [numberPlaceholders]

/-- The backslash that binding puts before a colon has to go again. -/
theorem colon_iff (starts : startsWord rest = true) :
    Renders context index (':' :: rest) ↔
      bareColonAfterWord (context.step ':') rest = false ∧
        Renders (context.step ':') index rest := by
  rw [Renders, Renders, bindFrom, if_neg (by simp), if_pos (by simpa using starts),
    numberPlaceholders, if_neg (by simp), unescapeChars_backslash_colon, colonAfterWord_bindFrom]
  cases bareColonAfterWord (context.step ':') rest <;> simp

/-- A backslash that stands before a bare colon has to stay. -/
theorem backslash_iff (bare : startsBareColon (context.step '\\') (c :: rest) = true) :
    Renders context index ('\\' :: c :: rest) ↔
      bareColonAfterWord ((context.step '\\').step c) rest = true ∧
        Renders (context.step '\\') index (c :: rest) := by
  obtain ⟨tail, bound, follows⟩ := exists_bindFrom_of_startsBareColon index bare
  rw [Renders, Renders, bindFrom, if_neg (by simp), if_neg (by simp), numberPlaceholders,
    if_neg (by simp), bound, unescapeChars_backslash_colon, follows,
    unescapeChars_cons_of_ne (by decide)]
  cases bareColonAfterWord ((context.step '\\').step c) rest <;> simp

/-- Any other character is sent on as it is. -/
theorem other_iff (notPlaceholder : ¬ (context = .plain ∧ c = '?'))
    (notName : ¬ (c = ':' ∧ startsWord rest = true))
    (notBare : ¬ (c = '\\' ∧ startsBareColon (context.step '\\') rest = true)) :
    Renders context index (c :: rest) ↔ Renders (context.step c) index rest := by
  have sent : unescapeChars (c :: bindFrom (context.step c) index rest) =
      c :: unescapeChars (bindFrom (context.step c) index rest) := by
    by_cases backslash : c = '\\'
    · subst backslash
      apply unescapeChars_backslash_of_ne
      rw [Ne, head?_bindFrom_eq_colon]
      exact fun bare => notBare ⟨rfl, bare⟩
    · exact unescapeChars_cons_of_ne backslash _
  rw [Renders, Renders, bindFrom, if_neg (by simpa using notPlaceholder),
    if_neg (by simpa using notName), numberPlaceholders, if_neg (by simpa using notPlaceholder),
    sent, List.cons.injEq]
  simp

end Renders

/-- A statement is sent on as it was written just where its bare colons allow it. -/
theorem renders_iff_sentAsWritten (context : Context) (index : Nat) (cs : List Char) :
    Renders context index cs ↔ SentAsWritten context cs := by
  induction cs generalizing context index with
  | nil => simp [Renders, bindFrom, numberPlaceholders, unescapeChars, SentAsWritten.nil]
  | cons c rest ih =>
      -- Binding treats the first two kinds of character and unescaping the third; they exclude
      -- one another, and each has its clause in what a statement keeps to.
      by_cases placeholder : context = .plain ∧ c = '?'
      · obtain ⟨rfl, rfl⟩ := placeholder
        rw [Renders.placeholder_iff, ih, SentAsWritten.cons_iff_of_ne (by decide) (by decide)]
        rfl
      by_cases name : c = ':' ∧ startsWord rest = true
      · obtain ⟨rfl, starts⟩ := name
        rw [Renders.colon_iff starts, ih, SentAsWritten.cons_iff]
        simp [starts]
      by_cases bare : c = '\\' ∧ startsBareColon (context.step '\\') rest = true
      · obtain ⟨rfl, bare⟩ := bare
        cases rest with
        | nil => cases bare
        | cons d tail =>
            rw [Renders.backslash_iff bare, ih, SentAsWritten.cons_iff (c := '\\')]
            simp [bare]
      rw [Renders.other_iff placeholder name bare, ih, SentAsWritten.cons_iff]
      have noName : c = ':' → startsWord rest = true →
          bareColonAfterWord (context.step ':') rest = false :=
        fun colon starts => absurd ⟨colon, starts⟩ name
      have noBare : c = '\\' → ∀ d tail, rest = d :: tail →
          startsBareColon (context.step '\\') (d :: tail) = true →
          bareColonAfterWord ((context.step '\\').step d) tail = true := by
        rintro isBackslash d tail rfl starts
        exact absurd ⟨isBackslash, starts⟩ bare
      exact ⟨fun written => ⟨noName, noBare, written⟩, fun written => written.2.2⟩

/-! ## Backslashes -/

/-- A text without its backslashes. -/
def withoutBackslashes (cs : List Char) : List Char :=
  cs.filter (· ≠ '\\')

@[simp] theorem withoutBackslashes_append (front back : List Char) :
    withoutBackslashes (front ++ back) = withoutBackslashes front ++ withoutBackslashes back :=
  List.filter_append _ _

@[simp] theorem withoutBackslashes_cons (c : Char) (rest : List Char) :
    withoutBackslashes (c :: rest) =
      if c = '\\' then withoutBackslashes rest else c :: withoutBackslashes rest := by
  by_cases backslash : c = '\\' <;> simp [withoutBackslashes, backslash]

/-- Binding adds nothing but backslashes to a statement with numbered placeholders. -/
theorem withoutBackslashes_bindFrom (context : Context) (index : Nat) (cs : List Char) :
    withoutBackslashes (bindFrom context index cs) =
      withoutBackslashes (numberPlaceholders context index cs) := by
  induction cs generalizing context index with
  | nil => rfl
  | cons c rest ih =>
      simp only [bindFrom, numberPlaceholders]
      split
      next => simp [ih]
      next =>
        split
        next escaped =>
          simp only [Bool.and_eq_true, decide_eq_true_eq] at escaped
          simp [escaped.1, ih]
        next => simp [ih]

/-- The layer below takes nothing but backslashes away. -/
theorem withoutBackslashes_unescapeChars (cs : List Char) :
    withoutBackslashes (unescapeChars cs) = withoutBackslashes cs := by
  induction cs with
  | nil => rfl
  | cons c rest ih =>
      simp only [unescapeChars]
      split
      next dropped =>
        simp only [Bool.and_eq_true, decide_eq_true_eq] at dropped
        simp [dropped.1.1, ih]
      next => simp [ih]

/-! ## Bound statements -/

theorem bindPositional_eq_ok {sql : String} {parameters : Value} {bound : BoundStatement}
    (binds : bindPositional sql parameters = .ok bound) : bound.text = boundText sql := by
  simp only [bindPositional] at binds
  split at binds
  · cases binds
  · split at binds
    · cases binds
      rfl
    · cases binds

/-- What is sent on for a bound statement differs from the statement with numbered placeholders in
backslashes alone, and it does not differ just where the bare colons of the statement allow it. -/
theorem rendered_as_written_iff {sql : String} {parameters : Value} {bound : BoundStatement}
    (binds : bindPositional sql parameters = .ok bound) :
    (unescape bound.text = .ofList (numberPlaceholders .plain 0 sql.toList) ↔
      SentAsWritten .plain sql.toList) ∧
    withoutBackslashes (unescape bound.text).toList =
      withoutBackslashes (numberPlaceholders .plain 0 sql.toList) := by
  rw [bindPositional_eq_ok binds, unescape, toList_boundText]
  constructor
  · rw [String.ofList_inj]
    exact renders_iff_sentAsWritten .plain 0 sql.toList
  · rw [String.toList_ofList, withoutBackslashes_unescapeChars, withoutBackslashes_bindFrom]

/-- Times, doubled colons and a placeholder leave a statement as it was written. -/
theorem rendered_as_written_time :
    ∃ bound, bindPositional "SELECT 'a::b at 10:20' WHERE `n`=?" (.tuple [.int 5]) = .ok bound ∧
      unescape bound.text = "SELECT 'a::b at 10:20' WHERE `n`=:p0" ∧
      SentAsWritten .plain "SELECT 'a::b at 10:20' WHERE `n`=?".toList := by
  have binds : bindPositional "SELECT 'a::b at 10:20' WHERE `n`=?" (.tuple [.int 5]) =
      .ok ⟨"SELECT 'a:\\:b at 10\\:20' WHERE `n`=:p0", [("p0", .int 5)]⟩ := rfl
  exact ⟨_, binds, rfl, (rendered_as_written_iff binds).1.mp rfl⟩

/-- A name between two colons is sent on with a backslash that was not written. -/
theorem enclosed_name_gains_backslash :
    ∃ bound, bindPositional "SELECT ':abc:' AS q" (.tuple []) = .ok bound ∧
      unescape bound.text ≠ .ofList (numberPlaceholders .plain 0 "SELECT ':abc:' AS q".toList) ∧
      unescape bound.text = "SELECT '\\:abc:' AS q" := by
  refine ⟨⟨"SELECT '\\:abc:' AS q", []⟩, rfl, ?_, rfl⟩
  decide

end RowMapper.Sql
