import RowMapper.Proofs.Schema.DeclaredTable
import RowMapper.Proofs.Sql.PlainName

/-!
# Names that are let through

The names of models, tables and fields are to be ASCII identifiers of at most 64 characters. The
check of names lets these through, and one thing more: such a name with a line feed behind it.
Neither has a mark in it that a quoted name would have to double.
-/

namespace RowMapper

namespace Sql

/-! ## The form of names -/

/-- Whether a name has the form that is asked for: an ASCII letter or underscore, then ASCII
letters, digits and underscores, at most 64 characters in all. -/
structure IsProperName (name : String) : Prop where
  form : ∃ first rest, name.toList = first :: rest ∧ (first.isAlpha = true ∨ first = '_') ∧
    ∀ c ∈ rest, c.isAlpha = true ∨ c.isDigit = true ∨ c = '_'
  short : name.length ≤ 64

/-- Whether a name has the form that is asked for, or has it but for one line feed at its end. -/
def IsLetThrough (name : String) : Prop :=
  IsProperName name ∨ ∃ front, IsProperName front ∧ front.length < 64 ∧ name = front ++ "\n"

theorem isAsciiWord_iff {c : Char} :
    Text.isAsciiWord c = true ↔ c.isAlpha = true ∨ c.isDigit = true ∨ c = '_' := by
  simp [Text.isAsciiWord, Char.isAlphanum, or_assoc]

theorem continuesIdentifier_iff {cs : List Char} :
    continuesIdentifier cs = true ↔ (∀ c ∈ cs, Text.isAsciiWord c = true) ∨
      ∃ front, cs = front ++ ['\n'] ∧ ∀ c ∈ front, Text.isAsciiWord c = true := by
  induction cs with
  | nil => simp [continuesIdentifier]
  | cons c rest ih =>
      simp only [continuesIdentifier, Bool.or_eq_true, Bool.and_eq_true, ih, decide_eq_true_eq,
        List.isEmpty_iff, List.forall_mem_cons]
      constructor
      · rintro (⟨word, all | ⟨front, rfl, frontWord⟩⟩ | ⟨rfl, rfl⟩)
        · exact .inl ⟨word, all⟩
        · exact .inr ⟨c :: front, rfl, List.forall_mem_cons.mpr ⟨word, frontWord⟩⟩
        · exact .inr ⟨[], rfl, by simp⟩
      · rintro (⟨word, all⟩ | ⟨front, split, frontWord⟩)
        · exact .inl ⟨word, .inl all⟩
        · cases front with
          | nil =>
              cases split
              exact .inr ⟨rfl, rfl⟩
          | cons d others =>
              cases split
              obtain ⟨word, othersWord⟩ := List.forall_mem_cons.mp frontWord
              exact .inl ⟨word, .inr ⟨others, rfl, othersWord⟩⟩

theorem isIdentifierForm_iff {cs : List Char} :
    isIdentifierForm cs = true ↔ ∃ first rest, cs = first :: rest ∧
      (first.isAlpha = true ∨ first = '_') ∧ continuesIdentifier rest = true := by
  cases cs with
  | nil => simp [isIdentifierForm]
  | cons c rest => simp [isIdentifierForm, startsIdentifier, and_assoc]

/-- What passes the check of names is what is let through. -/
theorem isIdentifier_iff_isLetThrough {name : String} :
    IsIdentifier name ↔ IsLetThrough name := by
  have limit : maxIdentifierLength = 64 := rfl
  constructor
  · intro identifier
    have short : name.length ≤ 64 := identifier.short
    obtain ⟨first, rest, chars, starts, continues⟩ := isIdentifierForm_iff.mp identifier.form
    rcases continuesIdentifier_iff.mp continues with all | ⟨front, rfl, frontWord⟩
    · exact .inl ⟨⟨first, rest, chars, starts, fun c member => isAsciiWord_iff.mp (all c member)⟩,
        short⟩
    · have split : name = String.ofList (first :: front) ++ "\n" := by
        rw [← String.toList_inj, chars, String.toList_append, String.toList_ofList]
        rfl
      have length : (String.ofList (first :: front)).length < 64 := by
        rw [split, String.length_append] at short
        exact Nat.lt_of_succ_le short
      exact .inr ⟨.ofList (first :: front), ⟨⟨first, front, String.toList_ofList, starts,
        fun c member => isAsciiWord_iff.mp (frontWord c member)⟩, Nat.le_of_lt length⟩, length,
        split⟩
  · rintro (proper | ⟨front, proper, length, rfl⟩)
    · obtain ⟨first, rest, chars, starts, all⟩ := proper.form
      have continues := continuesIdentifier_iff.mpr
        (.inl fun c member => isAsciiWord_iff.mpr (all c member))
      exact ⟨isIdentifierForm_iff.mpr ⟨first, rest, chars, starts, continues⟩, proper.short⟩
    · obtain ⟨first, rest, chars, starts, all⟩ := proper.form
      have continues := continuesIdentifier_iff.mpr
        (.inr ⟨rest, rfl, fun c member => isAsciiWord_iff.mpr (all c member)⟩)
      refine ⟨isIdentifierForm_iff.mpr ⟨first, rest ++ ['\n'], ?_, starts, continues⟩, ?_⟩
      · rw [String.toList_append, chars]
        rfl
      · rw [String.length_append]
        exact length

theorem IsProperName.isAsciiWord {name : String} (proper : IsProperName name) {c : Char}
    (member : c ∈ name.toList) : Text.isAsciiWord c = true := by
  obtain ⟨first, rest, chars, starts, all⟩ := proper.form
  rw [chars] at member
  rcases List.mem_cons.mp member with rfl | later
  · exact isAsciiWord_iff.mpr (starts.imp_right .inr)
  · exact isAsciiWord_iff.mpr (all c later)

/-- A line feed tells the names that are let through from those that were asked for. -/
theorem isProperName_iff {name : String} :
    IsProperName name ↔ IsLetThrough name ∧ '\n' ∉ name.toList := by
  constructor
  · intro proper
    exact ⟨.inl proper, fun feed => absurd (proper.isAsciiWord feed) (by decide)⟩
  · rintro ⟨proper | ⟨front, _, _, rfl⟩, noFeed⟩
    · exact proper
    · exact absurd (by simp) noFeed

/-! ## Names between backticks -/

/-- A name without backticks stands between backticks as it is. -/
theorem quoteName_of_notMem {name : String} (unmarked : '\x60' ∉ name.toList) :
    quoteName name = "\x60" ++ name ++ "\x60" := by
  have kept : ∀ c ∈ name.toList, escapeNameChar c = [c] := by
    intro c member
    have noMark : c ≠ '\x60' := by
      rintro rfl
      exact unmarked member
    rw [escapeNameChar, if_neg noMark]
  rw [← String.toList_inj, toList_quoteName, quoteNameChars, List.flatMap_congr kept,
    List.flatMap_singleton', String.toList_append, String.toList_append]
  rfl

theorem IsLetThrough.notMem_backtick {name : String} (passed : IsLetThrough name) :
    '\x60' ∉ name.toList := by
  have proper {name : String} (proper : IsProperName name) : '\x60' ∉ name.toList :=
    fun mark => absurd (proper.isAsciiWord mark) (by decide)
  rcases passed with whole | ⟨front, frontProper, _, rfl⟩
  · exact proper whole
  · rw [String.toList_append, List.mem_append, not_or]
    exact ⟨proper frontProper, by decide⟩

/-- What the check of names answers for a text. -/
theorem checkIdentifier_text_eq_ok_iff {s : String} {name : Name} :
    checkIdentifier (.text s) = .ok name ↔ name = .text s ∧ IsLetThrough s := by
  rw [checkIdentifier_eq_ok_iff]
  constructor
  · rintro ⟨same, identifier⟩
    cases same
    exact ⟨rfl, isIdentifier_iff_isLetThrough.mp identifier⟩
  · rintro ⟨rfl, passed⟩
    exact ⟨rfl, isIdentifier_iff_isLetThrough.mpr passed⟩

end Sql

/-! ## The names of tables -/

namespace Table

variable {name fields label : Value} {check : StorageCheck} {table : Table}

/-- The names of the columns of an accepted table are identifiers, whatever its backend checks. -/
theorem isIdentifier_of_mem_columnNames
    (built : (build name fields check label).result = .ok table) {n : String}
    (member : n ∈ table.columnNames) : Sql.IsIdentifier n := by
  obtain ⟨items, draft, _, tells, finished, _⟩ := exists_draft_of_build built
  obtain ⟨column, inTable, rfl⟩ := List.mem_map.mp member
  rw [finished] at inTable
  exact (Column.checked_of_parsed tells.parsed inTable).1

end Table

/-- A text is accepted as a name just when it has the form that is asked for, or has that form with
room for one more character and ends in a line feed. A text without line feeds is accepted just when
it has the form. The names of an accepted model, of its table and of its columns are of this sort,
and quoting one of them puts it between backticks and changes nothing in it. -/
theorem letThrough_iff_proper_or_fed (s : String) :
    (∀ name, Sql.checkIdentifier (.text s) = .ok name ↔
      name = .text s ∧ (Sql.IsProperName s ∨
        ∃ front, Sql.IsProperName front ∧ front.length < 64 ∧ s = front ++ "\n")) ∧
    (Sql.IsProperName s ↔ Sql.checkIdentifier (.text s) = .ok (.text s) ∧ '\n' ∉ s.toList) ∧
    ∀ name fields label check table,
      (Table.build name fields check label).result = .ok table →
        s ∈ table.model :: table.name :: table.columnNames →
          Sql.IsLetThrough s ∧ (Sql.IsProperName s ↔ '\n' ∉ s.toList) ∧
            Sql.quoteName s = "\x60" ++ s ++ "\x60" := by
  refine ⟨fun name => Sql.checkIdentifier_text_eq_ok_iff, ?_, ?_⟩
  · rw [Sql.checkIdentifier_text_eq_ok_iff, Sql.isProperName_iff]
    simp
  · intro name fields label check table built member
    have identifier : Sql.IsIdentifier s := by
      rcases List.mem_cons.mp member with rfl | other
      · exact (Table.isIdentifier_of_build built).1
      · rcases List.mem_cons.mp other with rfl | isColumn
        · exact (Table.isIdentifier_of_build built).2
        · exact Table.isIdentifier_of_mem_columnNames built isColumn
    have passed := Sql.isIdentifier_iff_isLetThrough.mp identifier
    exact ⟨passed, by simp [Sql.isProperName_iff, passed],
      Sql.quoteName_of_notMem passed.notMem_backtick⟩

/-- The names of posts have the form that is asked for, and a name of 63 characters is accepted with
a line feed behind it. -/
theorem letThrough_iff_proper_or_fed_posts :
    (∃ table, (Table.build (.text "BlogPost") (.list postFields) .standard .null).result =
        .ok table ∧
      table.model :: table.name :: table.columnNames =
        ["BlogPost", "blog_post", "id", "title", "changed", "seen"] ∧
      ∀ n ∈ table.model :: table.name :: table.columnNames,
        Sql.IsProperName n ∧ Sql.quoteName n = "\x60" ++ n ++ "\x60") ∧
      ∃ s : String, s.length = 64 ∧ ¬ Sql.IsProperName s ∧
        Sql.checkIdentifier (.text s) = .ok (.text s) := by
  constructor
  · have built : ∃ table, (Table.build (.text "BlogPost") (.list postFields) .standard
        .null).result = .ok table := ⟨_, rfl⟩
    obtain ⟨table, built⟩ := built
    have names : table.model :: table.name :: table.columnNames =
        ["BlogPost", "blog_post", "id", "title", "changed", "seen"] := by
      cases built
      rfl
    have noFeed : ∀ n ∈ ["BlogPost", "blog_post", "id", "title", "changed", "seen"],
        '\n' ∉ n.toList := by decide
    refine ⟨table, built, names, fun n member => ?_⟩
    obtain ⟨_, _, ofTable⟩ := letThrough_iff_proper_or_fed n
    obtain ⟨_, asked, quoted⟩ := ofTable _ _ _ _ _ built member
    rw [names] at member
    exact ⟨asked.mpr (noFeed n member), quoted⟩
  · obtain ⟨_, ofFront, _⟩ := letThrough_iff_proper_or_fed
      "aaaaaaaaaabbbbbbbbbbccccccccccddddddddddeeeeeeeeeeffffffffffggg"
    obtain ⟨ofWhole, whole, _⟩ := letThrough_iff_proper_or_fed
      ("aaaaaaaaaabbbbbbbbbbccccccccccddddddddddeeeeeeeeeeffffffffffggg" ++ "\n")
    have formed := ofFront.mpr ⟨by rfl, by decide⟩
    exact ⟨_, rfl, fun proper => (whole.mp proper).2 (by simp),
      (ofWhole _).mpr ⟨rfl, .inr ⟨_, formed, by decide, rfl⟩⟩⟩

/-- A name that ends in a line feed is accepted although it has not the form that is asked for. -/
theorem fed_name_accepted :
    ¬ ∀ s, (∃ name, Sql.checkIdentifier (.text s) = .ok name) ↔ Sql.IsProperName s := by
  intro exactly
  have proper := (exactly "id\n").mp ⟨.text "id\n", rfl⟩
  exact (Sql.isProperName_iff.mp proper).2 (by decide)

end RowMapper
