import RowMapper.Proofs.Sql.PlainName
import RowMapper.Text.SnakeCase

/-!
# Snake case in one pass

The two passes of snake case find the boundaries between words in two ways, and the second pass
reads what the first has written. On one line of text they separate together what one look at three
neighbours separates: a boundary lies before a capital that follows a small letter or a digit, or
that a small letter follows. Nothing is missed and nothing is separated twice, and a name in snake
case stays as it is.
-/

namespace RowMapper.Text

/-! ## The rule -/

/-- Whether a text starts with a small letter. -/
def startsSmall : List Char → Bool
  | [] => false
  | c :: _ => c.isLower

/-- Whether a boundary between words lies between a character and those that follow it. -/
def isBoundary (c : Char) : List Char → Bool
  | [] => false
  | next :: rest => next.isUpper && (c.isLower || c.isDigit || startsSmall rest)

/-- An underscore at every boundary. -/
def separate : List Char → List Char
  | [] => []
  | c :: rest => if isBoundary c rest then c :: '_' :: separate rest else c :: separate rest

/-- Whether a character can occur in snake case: a small ASCII letter, a digit or an underscore. -/
def isSnakeChar (c : Char) : Bool :=
  c.isLower || c.isDigit || c = '_'

/-! ## ASCII letters and digits -/

section

variable {c : Char}

theorem isUpper_iff_toNat : c.isUpper = true ↔ 65 ≤ c.toNat ∧ c.toNat ≤ 90 :=
  decide_eq_true_iff

theorem isLower_iff_toNat : c.isLower = true ↔ 97 ≤ c.toNat ∧ c.toNat ≤ 122 := by
  change (decide _ && decide _) = true ↔ _
  rw [Bool.and_eq_true, decide_eq_true_iff, decide_eq_true_iff]
  exact Iff.rfl

theorem isAsciiWord_eq : isAsciiWord c = (c.isUpper || c.isLower || c.isDigit || c = '_') := rfl

theorem not_isUpper_of_toNat (outside : c.toNat < 65 ∨ 90 < c.toNat) : c.isUpper = false := by
  rw [Bool.eq_false_iff, Ne, isUpper_iff_toNat]
  omega

theorem not_isUpper_of_isLower (small : c.isLower = true) : c.isUpper = false := by
  rw [isLower_iff_toNat] at small
  apply not_isUpper_of_toNat
  omega

theorem not_isUpper_of_isSnakeChar (snake : isSnakeChar c = true) : c.isUpper = false := by
  simp only [isSnakeChar, Bool.or_eq_true, decide_eq_true_eq] at snake
  rcases snake with (small | digit) | rfl
  · exact not_isUpper_of_isLower small
  · have bounds : 48 ≤ c.toNat ∧ c.toNat ≤ 57 := Char.isDigit_iff_toNat.mp digit
    apply not_isUpper_of_toNat
    omega
  · rfl

theorem isAsciiWord_of_isSnakeChar (snake : isSnakeChar c = true) : isAsciiWord c = true := by
  simp only [isSnakeChar, Bool.or_eq_true] at snake
  simp only [isAsciiWord_eq, Bool.or_eq_true]
  rcases snake with (small | digit) | underscore
  · exact .inl (.inl (.inr small))
  · exact .inl (.inr digit)
  · exact .inr underscore

theorem toLower_of_not_isUpper (notUpper : c.isUpper = false) : c.toLower = c := by
  apply dif_neg
  intro bounds
  rw [isUpper_iff_toNat.mpr bounds] at notUpper
  cases notUpper

/-- A capital is put in lower case by moving it up to the small letters. -/
theorem isLower_toLower (capital : c.isUpper = true) : c.toLower.isLower = true := by
  have bounds := isUpper_iff_toNat.mp capital
  have moved : c.toLower.val = c.val + 32 := congrArg Char.val (dif_pos bounds)
  have small : c.val.toNat ≤ 90 := bounds.2
  have distance : UInt32.toNat 32 = 32 := rfl
  have code : c.toLower.toNat = c.toNat + 32 := by
    change c.toLower.val.toNat = c.val.toNat + 32
    rw [moved, UInt32.toNat_add]
    omega
  rw [isLower_iff_toNat]
  omega

/-- A word character is put in lower case as one of snake case. -/
theorem isSnakeChar_toLower (word : isAsciiWord c = true) : isSnakeChar c.toLower = true := by
  cases capital : c.isUpper with
  | true => rw [isSnakeChar, isLower_toLower capital, Bool.true_or, Bool.true_or]
  | false =>
      rw [toLower_of_not_isUpper capital]
      rw [isAsciiWord_eq, capital, Bool.false_or] at word
      exact word

end

theorem lowercaseAfter_of_ascii {before cs : List Char} (ascii : ∀ c ∈ cs, c.toNat < 128) :
    lowercaseAfter before cs = cs.map Char.toLower := by
  induction cs generalizing before with
  | nil => rfl
  | cons c rest ih =>
      have here := ascii c List.mem_cons_self
      have notSigma : c ≠ 'Σ' := by
        rintro rfl
        exact absurd here (by decide)
      have notDotted : c ≠ 'İ' := by
        rintro rfl
        exact absurd here (by decide)
      rw [lowercaseAfter, if_neg notSigma, if_neg notDotted, lowerChar, if_pos here,
        ih fun other member => ascii other (List.mem_cons_of_mem c member)]
      rfl

/-! ## Two passes -/

theorem isBoundary_of_startsCapitalised {c : Char} {rest : List Char}
    (capitalised : startsCapitalised rest = true) : isBoundary c rest = true := by
  cases rest with
  | nil => cases capitalised
  | cons next others =>
      cases others with
      | nil => cases capitalised
      | cons small _ =>
          rw [startsCapitalised, Bool.and_eq_true] at capitalised
          simp [isBoundary, startsSmall, capitalised]

/-- Where no capitalised word starts, only what stands before a capital makes a boundary. -/
theorem isBoundary_of_not_startsCapitalised {c : Char} {rest : List Char}
    (plain : startsCapitalised rest = false) :
    isBoundary c rest =
      ((c.isLower || c.isDigit) && (rest.head?.map Char.isUpper).getD false) := by
  cases rest with
  | nil => simp [isBoundary]
  | cons next others =>
      cases others with
      | nil => simp [isBoundary, startsSmall, Bool.and_comm]
      | cons small _ =>
          rw [startsCapitalised] at plain
          rw [isBoundary, startsSmall, Bool.and_or_distrib_left, plain, Bool.or_false,
            Bool.and_comm]
          rfl

/-- Behind the capital that a capitalised word starts with there is no boundary. -/
theorem not_isBoundary_of_startsCapitalised {c : Char} {rest : List Char}
    (capitalised : startsCapitalised (c :: rest) = true) : isBoundary c rest = false := by
  cases rest with
  | nil => cases capitalised
  | cons next others =>
      rw [startsCapitalised, Bool.and_eq_true] at capitalised
      simp [isBoundary, not_isUpper_of_isLower capitalised.2]

theorem head?_separateWords (state : WordState) (cs : List Char) :
    (separateWords state cs).head? = cs.head? := by
  cases cs with
  | nil => rfl
  | cons c rest =>
      rw [separateWords]
      split
      · rfl
      · split <;> rfl

/-- Where the first pass put no underscore, the second decides by the character and the next one of
the text. -/
theorem separateCapitals_cons_separateWords (c : Char) (state : WordState) (rest : List Char) :
    separateCapitals (c :: separateWords state rest) =
      if (c.isLower || c.isDigit) && (rest.head?.map Char.isUpper).getD false then
        c :: '_' :: separateCapitals (separateWords state rest)
      else c :: separateCapitals (separateWords state rest) := by
  rw [separateCapitals, head?_separateWords]

/-- The second pass puts nothing beside an underscore of the first. -/
theorem separateCapitals_underscore (c : Char) (cs : List Char) :
    separateCapitals (c :: '_' :: cs) = c :: '_' :: separateCapitals cs := by
  have notUpper : '_'.isUpper = false := rfl
  simp [separateCapitals, notUpper]

/-- The two passes find the boundaries of the rule, wherever the search for capitalised words
stands: if it stands before a capital, a capitalised word has to start there. -/
theorem separateCapitals_separateWords {state : WordState} {cs : List Char} (oneLine : '\n' ∉ cs)
    (found : state = .beforeCapital → startsCapitalised cs = true) :
    separateCapitals (separateWords state cs) = separate cs := by
  induction cs generalizing state with
  | nil => rfl
  | cons c rest ih =>
      have notFeed : c ≠ '\n' := fun feed => oneLine (feed ▸ List.mem_cons_self)
      have restOneLine : '\n' ∉ rest := fun member => oneLine (List.mem_cons_of_mem c member)
      have later {next : WordState} (other : next ≠ .beforeCapital) :
          separateCapitals (separateWords next rest) = separate rest :=
        ih restOneLine fun same => absurd same other
      rw [separateWords, separate]
      split
      next ofWord =>
        -- The first pass is inside a word, so what it leaves is up to the second.
        simp only [Bool.or_eq_true, Bool.and_eq_true, decide_eq_true_eq] at ofWord
        rw [separateCapitals_cons_separateWords, later (by decide)]
        rcases ofWord with atCapital | ⟨_, small⟩
        · have starts := found atCapital
          have notUpper : (rest.head?.map Char.isUpper).getD false = false := by
            cases rest with
            | nil => rfl
            | cons next others =>
                rw [startsCapitalised, Bool.and_eq_true] at starts
                exact not_isUpper_of_isLower starts.2
          rw [not_isBoundary_of_startsCapitalised starts, notUpper, Bool.and_false]
        · cases rest with
          | nil => simp [isBoundary]
          | cons next others => simp [isBoundary, small]
      next =>
        split
        next capitalised =>
          rw [Bool.and_eq_true] at capitalised
          rw [separateCapitals_underscore, ih restOneLine fun _ => capitalised.2,
            if_pos (isBoundary_of_startsCapitalised capitalised.2)]
        next notCapitalised =>
          have plain : startsCapitalised rest = false := by simpa [notFeed] using notCapitalised
          rw [separateCapitals_cons_separateWords, later (by decide),
            isBoundary_of_not_startsCapitalised plain]

/-! ## Separated text -/

theorem mem_separate {c : Char} {cs : List Char} (member : c ∈ separate cs) :
    c ∈ cs ∨ c = '_' := by
  induction cs with
  | nil => exact .inl member
  | cons first rest ih =>
      have behind (inRest : c ∈ separate rest) : c ∈ first :: rest ∨ c = '_' :=
        (ih inRest).imp_left (List.mem_cons_of_mem first)
      rw [separate] at member
      split at member
      · rcases List.mem_cons.mp member with rfl | more
        · exact .inl List.mem_cons_self
        · rcases List.mem_cons.mp more with rfl | inRest
          · exact .inr rfl
          · exact behind inRest
      · rcases List.mem_cons.mp member with rfl | inRest
        · exact .inl List.mem_cons_self
        · exact behind inRest

theorem head?_separate (cs : List Char) : (separate cs).head? = cs.head? := by
  cases cs with
  | nil => rfl
  | cons c rest =>
      rw [separate]
      split <;> rfl

/-- There are fewer boundaries than characters. -/
theorem length_separate_lt (c : Char) (rest : List Char) :
    (separate (c :: rest)).length < 2 * (c :: rest).length := by
  induction rest generalizing c with
  | nil => simp [separate, isBoundary]
  | cons next rest ih =>
      have shorter := ih next
      rw [separate]
      split
      · simp only [List.length_cons] at shorter ⊢
        omega
      · simp only [List.length_cons] at shorter ⊢
        omega

/-- Without capitals there is no boundary. -/
theorem separate_of_forall_not_isUpper {cs : List Char} (small : ∀ c ∈ cs, c.isUpper = false) :
    separate cs = cs := by
  induction cs with
  | nil => rfl
  | cons c rest ih =>
      have noBoundary : isBoundary c rest = false := by
        cases rest with
        | nil => rfl
        | cons next others =>
            have notUpper := small next (List.mem_cons_of_mem c List.mem_cons_self)
            rw [isBoundary, notUpper, Bool.false_and]
      rw [separate, noBoundary, ih fun other member => small other (List.mem_cons_of_mem c member)]
      rfl

/-! ## Names -/

/-- Snake case of word characters is the text separated by the rule, in lower case. -/
theorem toList_snakeCase {name : String} (word : ∀ c ∈ name.toList, isAsciiWord c = true) :
    (snakeCase name).toList = (separate name.toList).map Char.toLower := by
  have oneLine : '\n' ∉ name.toList := fun feed => absurd (word _ feed) (by decide)
  have separated : separateCapitals (separateWords .between name.toList) = separate name.toList :=
    separateCapitals_separateWords oneLine fun impossible => nomatch impossible
  have ascii : ∀ c ∈ separate name.toList, c.toNat < 128 := by
    intro c member
    rcases mem_separate member with inName | rfl
    · exact Sql.toNat_lt_of_isAsciiWord (word c inName)
    · decide
  rw [snakeCase, String.toList_ofList, separated, lowercase, lowercaseAfter_of_ascii ascii]

theorem isSnakeChar_of_mem_snakeCase {name : String}
    (word : ∀ c ∈ name.toList, isAsciiWord c = true) {c : Char}
    (member : c ∈ (snakeCase name).toList) : isSnakeChar c = true := by
  rw [toList_snakeCase word] at member
  obtain ⟨source, inSeparated, rfl⟩ := List.mem_map.mp member
  rcases mem_separate inSeparated with inName | rfl
  · exact isSnakeChar_toLower (word source inName)
  · decide

/-- What is in snake case stays as it is. -/
theorem snakeCase_of_forall_isSnakeChar {name : String}
    (snake : ∀ c ∈ name.toList, isSnakeChar c = true) : snakeCase name = name := by
  have small : ∀ c ∈ name.toList, c.isUpper = false :=
    fun c member => not_isUpper_of_isSnakeChar (snake c member)
  have kept : ∀ c ∈ name.toList, c.toLower = c :=
    fun c member => toLower_of_not_isUpper (small c member)
  rw [← String.toList_inj,
    toList_snakeCase fun c member => isAsciiWord_of_isSnakeChar (snake c member),
    separate_of_forall_not_isUpper small, List.map_congr_left kept, List.map_id']

/-- Snake case of an ASCII identifier is what one pass by the rule gives, in lower case. It consists
of small letters, digits and underscores and starts with the first character of the name in lower
case, it is shorter than twice the name, and it is its own snake case. -/
theorem snakeCase_eq_separate {name : String} (plain : Sql.isPlainName name = true) :
    snakeCase name = .ofList ((separate name.toList).map Char.toLower) ∧
      (∀ c ∈ (snakeCase name).toList, c.isLower = true ∨ c.isDigit = true ∨ c = '_') ∧
      (snakeCase name).toList.head? = name.toList.head?.map Char.toLower ∧
      (snakeCase name).length < 2 * name.length ∧
      snakeCase (snakeCase name) = snakeCase name := by
  have word : ∀ c ∈ name.toList, isAsciiWord c = true :=
    fun c member => Sql.isAsciiWord_of_mem_plainName plain member
  have chars := toList_snakeCase word
  refine ⟨?_, ?_, ?_, ?_, ?_⟩
  · rw [← chars, String.ofList_toList]
  · intro c member
    simpa [isSnakeChar, or_assoc] using isSnakeChar_of_mem_snakeCase word member
  · rw [chars, List.head?_map, head?_separate]
  · rw [← String.length_toList, chars, List.length_map, ← String.length_toList (s := name)]
    cases found : name.toList with
    | nil => simp [Sql.isPlainName, found] at plain
    | cons c rest => exact length_separate_lt c rest
  · exact snakeCase_of_forall_isSnakeChar fun c member => isSnakeChar_of_mem_snakeCase word member

/-- Runs of capitals, digits and underscores are separated by the rule, each boundary once. -/
theorem snakeCase_eq_separate_mixed :
    snakeCase "HTTPServer2DFoo_BarX" = "http_server2_d_foo__bar_x" ∧
      snakeCase "http_server2_d_foo__bar_x" = "http_server2_d_foo__bar_x" := by
  have plain : Sql.isPlainName "HTTPServer2DFoo_BarX" = true := by decide
  have same : snakeCase "HTTPServer2DFoo_BarX" = "http_server2_d_foo__bar_x" := by
    rw [(snakeCase_eq_separate plain).1]
    rfl
  refine ⟨same, ?_⟩
  rw [← same]
  exact (snakeCase_eq_separate plain).2.2.2.2

end RowMapper.Text
