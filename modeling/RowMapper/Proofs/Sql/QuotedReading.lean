import RowMapper.Proofs.Sql.BoundText
import RowMapper.Sql.Quoting

/-!
# Reading quoted parts back

The database reads a quoted name and a string literal by rules of its own. In both a doubled mark
stands for one; in a literal a backslash also takes the character behind it along. What was quoted
is read back as it was, with everything behind the closing mark left over, unless that starts with
the same mark. So whoever reads a whole statement finds in it the parts that were quoted, and no
content ends its part early.
-/

namespace RowMapper.Sql

/-- What was read off the front of a text, and what is left of it. -/
structure Reading where
  content : List Char
  rest : List Char

namespace Reading

/-- A reading with more content in front. -/
def push (front : List Char) (reading : Reading) : Reading :=
  { reading with content := front ++ reading.content }

end Reading

/-! ## The two readers -/

/-- What an escape in a string literal stands for. A backslash in front of a mark or a backslash
gives that character; what it gives in front of any other is up to `meaning`. -/
def unescapeLiteralChar (meaning : Char → List Char) (c : Char) : List Char :=
  if c = '\\' || c = '\'' || c = '"' then [c] else meaning c

/-- Read a string literal behind its opening mark. A doubled mark stands for one. -/
def readLiteralInside (meaning : Char → List Char) : List Char → Option Reading
  | '\'' :: '\'' :: rest => (readLiteralInside meaning rest).map (·.push ['\''])
  | '\'' :: rest => some ⟨[], rest⟩
  | '\\' :: c :: rest =>
      (readLiteralInside meaning rest).map (·.push (unescapeLiteralChar meaning c))
  | ['\\'] => none
  | c :: rest => (readLiteralInside meaning rest).map (·.push [c])
  | [] => none

/-- Read a string literal off the front of a text. -/
def readLiteral (meaning : Char → List Char) : List Char → Option Reading
  | '\'' :: rest => readLiteralInside meaning rest
  | _ => none

/-- Read a quoted name behind its opening mark. A doubled mark stands for one, and nothing else has
a meaning of its own. -/
def readNameInside : List Char → Option Reading
  | '\x60' :: '\x60' :: rest => (readNameInside rest).map (·.push ['\x60'])
  | '\x60' :: rest => some ⟨[], rest⟩
  | c :: rest => (readNameInside rest).map (·.push [c])
  | [] => none

/-- Read a quoted name off the front of a text. -/
def readName : List Char → Option Reading
  | '\x60' :: rest => readNameInside rest
  | _ => none

variable {meaning : Char → List Char}

theorem readLiteralInside_closing {rest : List Char} (ends : rest.head? ≠ some '\'') :
    readLiteralInside meaning ('\'' :: rest) = some ⟨[], rest⟩ := by
  cases rest with
  | nil => rfl
  | cons c others =>
      have other : c ≠ '\'' := fun same => ends (congrArg some same)
      simp [readLiteralInside, other]

/-- An escaped character is read as that character. -/
theorem readLiteralInside_escapeLiteralChar (c : Char) (rest : List Char) :
    readLiteralInside meaning (escapeLiteralChar c ++ rest) =
      (readLiteralInside meaning rest).map (·.push [c]) := by
  by_cases backslash : c = '\\'
  · simp [escapeLiteralChar, readLiteralInside, unescapeLiteralChar, backslash]
  · by_cases apostrophe : c = '\''
    · simp [escapeLiteralChar, readLiteralInside, apostrophe]
    · simp [escapeLiteralChar, readLiteralInside, backslash, apostrophe]

/-- The inside of a literal is read up to the mark that closes it. -/
theorem readLiteralInside_escaped (content : List Char) {rest : List Char}
    (ends : rest.head? ≠ some '\'') :
    readLiteralInside meaning (content.flatMap escapeLiteralChar ++ '\'' :: rest) =
      some ⟨content, rest⟩ := by
  induction content with
  | nil => exact readLiteralInside_closing ends
  | cons c others ih =>
      rw [List.flatMap_cons, List.append_assoc, readLiteralInside_escapeLiteralChar, ih]
      rfl

/-- A string literal is read back, and what is behind it is left. -/
theorem readLiteral_quoteLiteralChars (content : List Char) {rest : List Char}
    (ends : rest.head? ≠ some '\'') :
    readLiteral meaning (quoteLiteralChars content ++ rest) = some ⟨content, rest⟩ := by
  simp only [quoteLiteralChars, List.cons_append, List.append_assoc, List.nil_append, readLiteral]
  exact readLiteralInside_escaped content ends

theorem readNameInside_closing {rest : List Char} (ends : rest.head? ≠ some '\x60') :
    readNameInside ('\x60' :: rest) = some ⟨[], rest⟩ := by
  cases rest with
  | nil => rfl
  | cons c others =>
      have other : c ≠ '\x60' := fun same => ends (congrArg some same)
      simp [readNameInside, other]

theorem readNameInside_escapeNameChar (c : Char) (rest : List Char) :
    readNameInside (escapeNameChar c ++ rest) = (readNameInside rest).map (·.push [c]) := by
  by_cases backtick : c = '\x60'
  · simp [escapeNameChar, readNameInside, backtick]
  · simp [escapeNameChar, readNameInside, backtick]

/-- The inside of a quoted name is read up to the mark that closes it. -/
theorem readNameInside_escaped (content : List Char) {rest : List Char}
    (ends : rest.head? ≠ some '\x60') :
    readNameInside (content.flatMap escapeNameChar ++ '\x60' :: rest) = some ⟨content, rest⟩ := by
  induction content with
  | nil => exact readNameInside_closing ends
  | cons c others ih =>
      rw [List.flatMap_cons, List.append_assoc, readNameInside_escapeNameChar, ih]
      rfl

/-- A quoted name is read back, and what is behind it is left. -/
theorem readName_quoteNameChars (content : List Char) {rest : List Char}
    (ends : rest.head? ≠ some '\x60') :
    readName (quoteNameChars content ++ rest) = some ⟨content, rest⟩ := by
  simp only [quoteNameChars, List.cons_append, List.append_assoc, List.nil_append, readName]
  exact readNameInside_escaped content ends

/-! ## Reading on gets shorter -/

theorem length_rest_of_push {front tail cs : List Char} {read : Option Reading}
    {reading : Reading} (pushed : read.map (·.push front) = some reading)
    (shorter : ∀ later, read = some later → later.rest.length < tail.length)
    (ends : tail <:+ cs) : reading.rest.length < cs.length := by
  obtain ⟨later, found, rfl⟩ := Option.map_eq_some_iff.mp pushed
  exact Nat.lt_of_lt_of_le (shorter later found) ends.length_le

theorem length_rest_readLiteralInside {cs : List Char} {reading : Reading}
    (read : readLiteralInside meaning cs = some reading) : reading.rest.length < cs.length := by
  induction cs using readLiteralInside.induct generalizing reading with
  | case1 rest ih => exact length_rest_of_push read (fun _ => ih) ⟨[_, _], rfl⟩
  | case2 rest single =>
      simp only [readLiteralInside] at read
      cases read
      exact Nat.lt_succ_self _
  | case3 c rest ih => exact length_rest_of_push read (fun _ => ih) ⟨[_, _], rfl⟩
  | case4 => cases read
  | case5 c rest doubled closing escaped last ih =>
      simp only [readLiteralInside] at read
      exact length_rest_of_push read (fun _ => ih) ⟨[_], rfl⟩
  | case6 => cases read

theorem length_rest_readNameInside {cs : List Char} {reading : Reading}
    (read : readNameInside cs = some reading) : reading.rest.length < cs.length := by
  induction cs using readNameInside.induct generalizing reading with
  | case1 rest ih => exact length_rest_of_push read (fun _ => ih) ⟨[_, _], rfl⟩
  | case2 rest single =>
      simp only [readNameInside] at read
      cases read
      exact Nat.lt_succ_self _
  | case3 c rest doubled closing ih =>
      simp only [readNameInside] at read
      exact length_rest_of_push read (fun _ => ih) ⟨[_], rfl⟩
  | case4 => cases read

theorem length_rest_readLiteral {cs : List Char} {reading : Reading}
    (read : readLiteral meaning cs = some reading) : reading.rest.length < cs.length := by
  rw [readLiteral.eq_def] at read
  split at read
  · exact Nat.lt_succ_of_lt (length_rest_readLiteralInside read)
  · cases read

theorem length_rest_readName {cs : List Char} {reading : Reading}
    (read : readName cs = some reading) : reading.rest.length < cs.length := by
  rw [readName.eq_def] at read
  split at read
  · exact Nat.lt_succ_of_lt (length_rest_readNameInside read)
  · cases read

/-! ## The quoted parts of a statement -/

/-- A quoted part of a statement, by what it quotes. -/
inductive Quoted where
  | name (n : String)
  | literal (s : String)
  deriving DecidableEq

namespace Quoted

/-- A quoted part as it stands in a statement. -/
def sql : Quoted → String
  | .name n => quoteName n
  | .literal s => quoteLiteral s

/-- Read a quoted part off the front of a text, with the text behind it. -/
def read? (meaning : Char → List Char) (cs : List Char) : Option (Quoted × List Char) :=
  match readLiteral meaning cs with
  | some reading => some (.literal (.ofList reading.content), reading.rest)
  | none => (readName cs).map fun reading => (.name (.ofList reading.content), reading.rest)

theorem length_of_read? {cs rest : List Char} {part : Quoted}
    (read : read? meaning cs = some (part, rest)) : rest.length < cs.length := by
  simp only [read?] at read
  split at read
  next reading found =>
    cases read
    exact length_rest_readLiteral found
  next =>
    obtain ⟨reading, found, same⟩ := Option.map_eq_some_iff.mp read
    cases same
    exact length_rest_readName found

/-- A quoted part is read off as what it quotes, unless its own mark follows. -/
theorem read?_sql (part : Quoted) {rest : List Char}
    (ends : ∀ c, rest.head? = some c → Context.isMark c = false) :
    read? meaning (part.sql.toList ++ rest) = some (part, rest) := by
  have endsAt {mark : Char} (isMark : Context.isMark mark = true) : rest.head? ≠ some mark := by
    intro same
    rw [ends mark same] at isMark
    cases isMark
  cases part with
  | name n =>
      rw [sql, toList_quoteName, read?, readName_quoteNameChars _ (endsAt (by decide))]
      simp [quoteNameChars, readLiteral]
  | literal s =>
      rw [sql, toList_quoteLiteral, read?, readLiteral_quoteLiteralChars _ (endsAt (by decide))]
      simp

theorem exists_toList_sql (part : Quoted) :
    ∃ mark inside, part.sql.toList = mark :: inside ∧ Context.isMark mark = true := by
  cases part with
  | name n => exact ⟨'\x60', _, toList_quoteName n, by decide⟩
  | literal s => exact ⟨'\'', _, toList_quoteLiteral s, by decide⟩

end Quoted

/-- The quoted parts that a reader finds in a text from left to right, if each of them ends. The
text outside of them is passed over. -/
def quotedParts (meaning : Char → List Char) (cs : List Char) : Option (List Quoted) :=
  match cs with
  | [] => some []
  | c :: rest =>
      if Context.isMark c then
        match _read : Quoted.read? meaning (c :: rest) with
        | none => none
        | some (part, others) => (quotedParts meaning others).map (part :: ·)
      else quotedParts meaning rest
termination_by cs.length
decreasing_by
  · exact Quoted.length_of_read? _read
  · exact Nat.lt_succ_self _

/-- Whether no character of a text is a mark. -/
def IsUnquoted (cs : List Char) : Prop :=
  ∀ c ∈ cs, Context.isMark c = false

namespace IsUnquoted

/-- The test looks at each character of a text once. -/
theorem of_text {text : String} (unmarked : text.toList.all (!Context.isMark ·) = true) :
    IsUnquoted text.toList := by
  intro c member
  simpa using List.all_eq_true.mp unmarked c member

/-- Text of characters from a class without marks. -/
theorem of_class {p : Char → Bool}
    (excludes : ['\'', '"', '\x60'].all (fun mark => !p mark) = true) {cs : List Char}
    (within : ∀ c ∈ cs, p c = true) : IsUnquoted cs := by
  simp only [List.all_cons, List.all_nil, Bool.and_true, Bool.and_eq_true,
    Bool.not_eq_true'] at excludes
  obtain ⟨apostrophe, double, backtick⟩ := excludes
  intro c member
  have other {mark : Char} (excluded : p mark = false) : c ≠ mark := by
    intro same
    rw [← same, within c member] at excluded
    cases excluded
  simp [Context.isMark, other apostrophe, other double, other backtick]

end IsUnquoted

/-- Text without marks is passed over. -/
theorem quotedParts_unquoted {cs : List Char} (unquoted : IsUnquoted cs) (rest : List Char) :
    quotedParts meaning (cs ++ rest) = quotedParts meaning rest := by
  induction cs with
  | nil => rfl
  | cons c others ih =>
      obtain ⟨first, later⟩ := List.forall_mem_cons.mp unquoted
      rw [List.cons_append, quotedParts, first]
      exact ih later

/-- Whether a text is read as certain quoted parts, whatever stands behind it, as long as that does
not start with a mark. -/
def ReadsAs (meaning : Char → List Char) (cs : List Char) (parts : List Quoted) : Prop :=
  ∀ rest : List Char, (∀ c, rest.head? = some c → Context.isMark c = false) →
    quotedParts meaning (cs ++ rest) = (quotedParts meaning rest).map (parts ++ ·)

namespace ReadsAs

variable {front back : List Char} {parts more : List Quoted}

/-- The whole text is read as its parts. -/
theorem quotedParts_eq (reads : ReadsAs meaning front parts) :
    quotedParts meaning front = some parts := by
  have read := reads [] (by simp)
  rw [List.append_nil] at read
  rw [read, quotedParts, Option.map_some, List.append_nil]

theorem of_unquoted (unquoted : IsUnquoted front) : ReadsAs meaning front [] := by
  intro rest _
  rw [quotedParts_unquoted unquoted]
  simp

/-- A quoted part is read as itself. -/
theorem sql (part : Quoted) : ReadsAs meaning part.sql.toList [part] := by
  intro rest ends
  obtain ⟨mark, inside, chars, isMark⟩ := part.exists_toList_sql
  have read : Quoted.read? meaning (part.sql.toList ++ rest) = some (part, rest) :=
    part.read?_sql ends
  rw [chars, List.cons_append] at read ⊢
  rw [quotedParts, if_pos isMark]
  split
  next none => rw [read] at none; cases none
  next found =>
    rw [read] at found
    cases found
    rfl

theorem quoteName (n : String) : ReadsAs meaning (quoteName n).toList [.name n] :=
  sql (.name n)

theorem quoteLiteral (s : String) : ReadsAs meaning (quoteLiteral s).toList [.literal s] :=
  sql (.literal s)

/-- Unquoted text in front of a text adds no part. -/
theorem unquoted_append (unquoted : IsUnquoted front) (reads : ReadsAs meaning back parts) :
    ReadsAs meaning (front ++ back) parts := by
  intro rest ends
  rw [List.append_assoc, quotedParts_unquoted unquoted]
  exact reads rest ends

/-- Two texts with unquoted text between them, of which there is some. -/
theorem append_unquoted {separator : List Char} (reads : ReadsAs meaning front parts)
    (nonempty : separator ≠ []) (unquoted : IsUnquoted separator)
    (later : ReadsAs meaning back more) :
    ReadsAs meaning (front ++ separator ++ back) (parts ++ more) := by
  intro rest ends
  have separated : ∀ d, (separator ++ (back ++ rest)).head? = some d →
      Context.isMark d = false := by
    intro d first
    obtain ⟨c, others, rfl⟩ := List.exists_cons_of_ne_nil nonempty
    cases first
    exact unquoted _ List.mem_cons_self
  rw [List.append_assoc, List.append_assoc, reads _ separated, quotedParts_unquoted unquoted,
    later rest ends, Option.map_map]
  simp [Function.comp_def]

/-- Unquoted text behind a text adds no part. -/
theorem append_of_unquoted (reads : ReadsAs meaning front parts) (unquoted : IsUnquoted back) :
    ReadsAs meaning (front ++ back) parts := by
  cases back with
  | nil => rwa [List.append_nil]
  | cons c others =>
      have nothing : ReadsAs meaning [] [] := of_unquoted (by simp [IsUnquoted])
      have all := reads.append_unquoted (List.cons_ne_nil c others) unquoted nothing
      rwa [List.append_nil, List.append_nil] at all

end ReadsAs

/-- Texts that are read as certain quoted parts one after the other. -/
inductive EachReads (meaning : Char → List Char) : List (List Char) → List Quoted → Prop
  | nil : EachReads meaning [] []
  | cons {text : List Char} {texts : List (List Char)} {parts more : List Quoted} :
      ReadsAs meaning text parts → EachReads meaning texts more →
      EachReads meaning (text :: texts) (parts ++ more)

namespace EachReads

variable {texts others : List (List Char)} {parts more : List Quoted}

theorem singleton {text : List Char} (reads : ReadsAs meaning text parts) :
    EachReads meaning [text] parts := by
  have each := cons reads nil
  rwa [List.append_nil] at each

theorem append (first : EachReads meaning texts parts) (second : EachReads meaning others more) :
    EachReads meaning (texts ++ others) (parts ++ more) := by
  induction first with
  | nil => exact second
  | cons reads _ ih =>
      rw [List.append_assoc]
      exact .cons reads ih

/-- Texts without marks have no parts. -/
theorem of_unquoted (unquoted : ∀ text ∈ texts, IsUnquoted text) : EachReads meaning texts [] := by
  induction texts with
  | nil => exact .nil
  | cons text others ih =>
      obtain ⟨first, later⟩ := List.forall_mem_cons.mp unquoted
      exact .cons (.of_unquoted first) (ih later)

/-- What each of some things is written as, of which there may be nothing. -/
theorem flatMap {α : Type} {write : α → List (List Char)} {partsOf : α → List Quoted}
    {items : List α} (each : ∀ item ∈ items, EachReads meaning (write item) (partsOf item)) :
    EachReads meaning (items.flatMap write) (items.flatMap partsOf) := by
  induction items with
  | nil => exact .nil
  | cons item rest ih =>
      obtain ⟨first, later⟩ := List.forall_mem_cons.mp each
      exact append first (ih later)

/-- Texts with unquoted text between them, of which there is some. -/
theorem intercalate {separator : List Char} (each : EachReads meaning texts parts)
    (nonempty : separator ≠ []) (unquoted : IsUnquoted separator) :
    ReadsAs meaning (separator.intercalate texts) parts := by
  induction each with
  | nil => exact .of_unquoted (by simp [IsUnquoted])
  | @cons text others parts more reads rest ih =>
      cases others with
      | nil =>
          cases rest
          rw [List.intercalate_singleton, List.append_nil]
          exact reads
      | cons next others =>
          rw [List.intercalate_cons_of_ne_nil (List.cons_ne_nil next others)]
          exact reads.append_unquoted nonempty unquoted ih

end EachReads

end RowMapper.Sql
