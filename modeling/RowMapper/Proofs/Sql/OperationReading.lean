import RowMapper.Proofs.Sql.PlainName
import RowMapper.Sql.Operation

/-!
# Where the table of a statement is found

A keyword holds no blank, so it lies within a word of the text or not at all. What is looked for is
the keyword `FROM` with a blank behind it: a word that ends in another letter than `M` does not hold
it, whatever its letters are, and the search goes on behind the blank. A plain name between
backticks is such a word, also where it is spelled like a keyword.
-/

namespace RowMapper.Sql

open Text

/-! ## Keywords within words -/

/-- A keyword that is read off a word with a blank behind it ends within the word, and its letters
are the first letters of the word. -/
theorem dropKeyword?_of_blank {keyword word rest left : List Char}
    (dropped : dropKeyword? keyword (word ++ ' ' :: rest) = some left) :
    ∃ taken kept, word = taken ++ kept ∧ left = kept ++ ' ' :: rest ∧
      taken.map foldLetter? = keyword.map some := by
  induction keyword generalizing word with
  | nil => exact ⟨[], word, rfl, (Option.some.inj dropped).symm, rfl⟩
  | cons k ks ih =>
      cases word with
      | nil =>
          have noLetter : foldLetter? ' ' = none := by decide
          rw [List.nil_append, dropKeyword?, noLetter, if_neg (by simp)] at dropped
          cases dropped
      | cons c others =>
          rw [List.cons_append, dropKeyword?] at dropped
          split at dropped
          next letter =>
            obtain ⟨taken, kept, whole, remains, letters⟩ := ih dropped
            refine ⟨c :: taken, kept, ?_, remains, ?_⟩
            · rw [whole, List.cons_append]
            · rw [List.map_cons, List.map_cons, letter, letters]
          next => cases dropped

/-- Whether a word can stand before a blank without being taken for the keyword `FROM`: it has no
blank of its own and does not end in the last letter of the keyword. -/
structure PassesAsWord (word : List Char) : Prop where
  noBlank : ∀ c ∈ word, isBlank c = false
  noLastLetter : ∀ c ∈ word.getLast?, foldLetter? c ≠ some 'M'

namespace PassesAsWord

theorem iff_all {word : List Char} : PassesAsWord word ↔
    (word.all fun c => !isBlank c) = true ∧
      (word.getLast?.all fun c => foldLetter? c ≠ some 'M') = true := by
  rw [List.all_eq_true]
  constructor
  · rintro ⟨noBlank, noLastLetter⟩
    refine ⟨fun c member => by rw [noBlank c member, Bool.not_false], ?_⟩
    cases last : word.getLast? with
    | none => rfl
    | some c => exact decide_eq_true (noLastLetter c last)
  · rintro ⟨noBlank, noLastLetter⟩
    refine ⟨fun c member => by simpa using noBlank c member, fun c last => ?_⟩
    rw [Option.mem_def.mp last] at noLastLetter
    exact of_decide_eq_true noLastLetter

instance (word : List Char) : Decidable (PassesAsWord word) :=
  decidable_of_iff _ iff_all.symm

theorem tail {c : Char} {word : List Char} (passes : PassesAsWord (c :: word)) :
    PassesAsWord word where
  noBlank d member := passes.noBlank d (List.mem_cons_of_mem c member)
  noLastLetter d last := by
    apply passes.noLastLetter d
    cases word with
    | nil => cases last
    | cons e others => rwa [List.getLast?_cons_cons]

theorem tableBehindFrom? {word : List Char} (passes : PassesAsWord word) (rest : List Char) :
    tableBehindFrom? (word ++ ' ' :: rest) = none := by
  rw [Sql.tableBehindFrom?]
  cases dropped : dropKeyword? "FROM".toList (word ++ ' ' :: rest) with
  | none => rfl
  | some left =>
      obtain ⟨taken, kept, rfl, rfl, letters⟩ := dropKeyword?_of_blank dropped
      have noBlanks : dropBlanks? (kept ++ ' ' :: rest) = none := by
        cases kept with
        | nil =>
            -- The word is the keyword and nothing else, so it ends in the keyword's last letter.
            have last := congrArg List.getLast? letters
            rw [List.getLast?_map] at last
            obtain ⟨c, isLast, letter⟩ := Option.map_eq_some_iff.mp last
            rw [← List.append_nil taken] at isLast
            exact absurd letter (passes.noLastLetter c isLast)
        | cons c others =>
            have noBlank := passes.noBlank c (by simp)
            rw [List.cons_append, dropBlanks?, noBlank]
            rfl
      change (do tableName? isCaselessTableChar (← dropBlanks? (kept ++ ' ' :: rest))) = none
      rw [noBlanks]
      rfl

/-- The search for a table goes on behind the word. -/
theorem findTable? {word : List Char} (passes : PassesAsWord word) (insideWord : Bool)
    (rest : List Char) : findTable? insideWord (word ++ ' ' :: rest) = findTable? false rest := by
  have stepped (passed : List Char) (passes : PassesAsWord passed) (insideWord : Bool) :
      (if insideWord then none else Sql.tableBehindFrom? (passed ++ ' ' :: rest)) = none := by
    rw [passes.tableBehindFrom?, ite_self]
  induction word generalizing insideWord with
  | nil =>
      have noWord : isWord ' ' = false := by decide
      rw [List.nil_append, Sql.findTable?]
      have passed := stepped [] passes insideWord
      rw [List.nil_append] at passed
      rw [passed, noWord]
  | cons c others ih =>
      rw [List.cons_append, Sql.findTable?, ← List.cons_append, stepped _ passes]
      exact ih passes.tail _

end PassesAsWord

/-! ## Plain names -/

/-- A word character is not blank. -/
theorem isBlank_of_isAsciiWord {c : Char} (word : isAsciiWord c = true) : isBlank c = false := by
  have ascii : ∀ n < 128, isAsciiWord (.ofNat n) = true → isBlank (.ofNat n) = false := by decide
  rw [← Char.ofNat_toNat c] at word ⊢
  exact ascii _ (toNat_lt_of_isAsciiWord (by rwa [Char.ofNat_toNat] at word)) word

/-- A quoted plain name is a word of which no letter is the last, whatever the name is. -/
theorem passesAsWord_quoteName {name : String} (plain : isPlainName name = true) (mark : List Char)
    (passes : PassesAsWord mark) : PassesAsWord ((quoteName name).toList ++ mark) := by
  have word := fun c member => isAsciiWord_of_mem_plainName (c := c) plain member
  have backtick : isBlank '\x60' = false ∧ foldLetter? '\x60' ≠ some 'M' := by decide
  rw [toList_quoteName_of_plain plain]
  constructor
  · simp only [List.forall_mem_append, List.forall_mem_cons]
    exact ⟨⟨backtick.1, fun c member => isBlank_of_isAsciiWord (word c member), backtick.1,
      by simp⟩, passes.noBlank⟩
  · intro c last
    cases found : mark.getLast? with
    | none =>
        rw [List.getLast?_eq_none_iff.mp found, List.append_nil, List.getLast?_cons,
          List.getLast?_append] at last
        cases last
        exact backtick.2
    | some d =>
        rw [List.getLast?_append, found] at last
        exact passes.noLastLetter c (found.trans last)

/-- The search for a table passes over quoted plain names with commas between them. -/
theorem findTable?_names {names : List String} (nonempty : names ≠ [])
    (plain : ∀ name ∈ names, isPlainName name = true) (insideWord : Bool) (rest : List Char) :
    findTable? insideWord
        ((String.intercalate ", " (names.map quoteName)).toList ++ ' ' :: rest) =
      findTable? false rest := by
  induction names generalizing insideWord with
  | nil => exact absurd rfl nonempty
  | cons name others ih =>
      have isPlain := plain name List.mem_cons_self
      rw [String.toList_intercalate, List.map_cons, List.map_cons]
      cases others with
      | nil =>
          have passes := passesAsWord_quoteName isPlain [] (by decide)
          rw [List.append_nil] at passes
          rw [List.map_nil, List.map_nil, List.intercalate_singleton, passes.findTable?]
      | cons other others =>
          have passes := passesAsWord_quoteName isPlain [','] (by decide)
          have remains := ih (by simp) (fun n member => plain n (List.mem_cons_of_mem name member))
            false
          rw [String.toList_intercalate] at remains
          rw [List.intercalate_cons_of_ne_nil (by simp), ← remains, ← passes.findTable? insideWord]
          simp

/-! ## Labels -/

theorem toList_quoteName_append {name : String} (plain : isPlainName name = true)
    (rest : List Char) :
    (quoteName name).toList ++ rest = '\x60' :: (name.toList ++ '\x60' :: rest) := by
  rw [toList_quoteName_of_plain plain, List.cons_append, List.append_assoc, List.singleton_append]

/-- A plain name is read whole in front of a backtick. -/
theorem tableName?_of_plain {allowed : Char → Bool} {name : String}
    (plain : isPlainName name = true) (allows : ∀ c, isAsciiWord c = true → allowed c = true)
    (ends : allowed '\x60' = false) (rest : List Char) :
    tableName? allowed ('\x60' :: (name.toList ++ '\x60' :: rest)) = some name.toList := by
  have whole : (name.toList ++ '\x60' :: rest).takeWhile allowed = name.toList := by
    rw [List.takeWhile_append_of_pos fun c member =>
        allows c (isAsciiWord_of_mem_plainName plain member),
      List.takeWhile_cons_of_neg (by simp [ends]), List.append_nil]
  rw [tableName?, if_pos rfl, bareTableName?, whole]
  cases found : name.toList with
  | nil => rw [isPlainName, found] at plain; cases plain
  | cons c others => rfl

/-- Behind the keyword the table is read off its quoted name. -/
theorem findTable?_from {name : String} (plain : isPlainName name = true) (rest : List Char) :
    findTable? false
        ('F' :: 'R' :: 'O' :: 'M' :: ' ' :: ((quoteName name).toList ++ rest)) =
      some name.toList := by
  have allows : ∀ c, isAsciiWord c = true → isCaselessTableChar c = true := by
    intro c word
    rw [isCaselessTableChar, word, Bool.true_or]
  have behind (cs : List Char) :
      tableBehindFrom? ('F' :: 'R' :: 'O' :: 'M' :: ' ' :: '\x60' :: cs) =
        tableName? isCaselessTableChar ('\x60' :: cs) := rfl
  rw [toList_quoteName_append plain, findTable?, behind,
    tableName?_of_plain plain allows (by decide)]
  rfl

namespace Label

/-- The label of a statement that begins with a phrase and the quoted name of its table. -/
theorem ofSql_of_phrase (phrase : String) {sql name : String} {verb : Verb}
    (plain : isPlainName name = true)
    (byPhrase : verb.namesTableByFrom = false)
    (leads : ∀ cs, leadingPhrase? (phrase.toList ++ '\x60' :: cs) = some (verb, '\x60' :: cs))
    (begins : (phrase ++ quoteName name).toList <+: sql.toList) :
    ofSql sql = ⟨some name, some verb⟩ := by
  obtain ⟨rest, written⟩ := begins
  have read := tableName?_of_plain plain (fun c word => word) (by decide) rest
  rw [String.toList_append, List.append_assoc, toList_quoteName_append plain] at written
  simp [ofSql, ← written, leads, byPhrase, read]

/-- The label of a statement that names its table behind the first keyword `FROM`. -/
theorem ofSql_of_from {sql name : String} {verb : Verb} {behind : List Char}
    (byFrom : verb.namesTableByFrom = true)
    (leads : leadingPhrase? sql.toList = some (verb, behind))
    (found : findTable? false sql.toList = some name.toList) :
    ofSql sql = ⟨some name, some verb⟩ := by
  simp [ofSql, leads, byFrom, found]

end Label

end RowMapper.Sql
