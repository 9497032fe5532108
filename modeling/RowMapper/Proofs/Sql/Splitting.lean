import RowMapper.Proofs.Sql.ClosedText
import RowMapper.Proofs.Sql.QuotedReading

/-!
# Where a statement is split

A statement is split at its placeholders, and question marks between the pieces give it back. Of a
statement that was put together from ordinary text and quoted parts, the pieces are known: the
ordinary text is cut at every question mark, and the quoted parts go whole into the pieces where
they stand, with whatever question marks they hold.
-/

namespace RowMapper.Sql

/-! ## Joining the pieces -/

theorem intercalate_consFirst {separator : List Char} (c : Char) {pieces : List (List Char)}
    (nonempty : pieces ≠ []) :
    separator.intercalate (consFirst c pieces) = c :: separator.intercalate pieces := by
  cases pieces with
  | nil => exact absurd rfl nonempty
  | cons piece others =>
      cases others with
      | nil => simp [consFirst, List.intercalate_singleton]
      | cons next others => simp [consFirst, List.intercalate_cons_cons]

/-- The pieces of a text with question marks between them are the text, wherever the reader stands
at its start and at its end. -/
theorem intercalate_pieces (context : Context) (cs : List Char) :
    ['?'].intercalate (pieces context cs) = cs := by
  induction cs generalizing context with
  | nil => rfl
  | cons c rest ih =>
      rw [pieces]
      split
      next placeholder =>
        simp only [Bool.and_eq_true, decide_eq_true_eq] at placeholder
        rw [List.intercalate_cons_of_ne_nil (pieces_ne_nil _ _), ih, placeholder.2]
        rfl
      next => rw [intercalate_consFirst c (pieces_ne_nil _ _), ih]

/-! ## Pieces side by side -/

section Attach

variable {α β : Type}

/-- Something in front of the first of several pieces. -/
def appendFirst (front : List α) : List (List α) → List (List α)
  | [] => [front]
  | piece :: others => (front ++ piece) :: others

/-- Pieces behind others, where the last of the one and the first of the other make one piece. -/
def attach : List (List α) → List (List α) → List (List α)
  | [], others => others
  | [last], others => appendFirst last others
  | piece :: next :: rest, others => piece :: attach (next :: rest) others

theorem attach_cons (piece : List α) {rest : List (List α)} (nonempty : rest ≠ [])
    (others : List (List α)) : attach (piece :: rest) others = piece :: attach rest others := by
  cases rest with
  | nil => exact absurd rfl nonempty
  | cons next rest => rfl

theorem attach_nothing {others : List (List α)} (nonempty : others ≠ []) :
    attach [[]] others = others := by
  cases others with
  | nil => exact absurd rfl nonempty
  | cons piece others => rfl

theorem attach_ne_nil {pieces : List (List α)} (nonempty : pieces ≠ []) (others : List (List α)) :
    attach pieces others ≠ [] := by
  cases pieces with
  | nil => exact absurd rfl nonempty
  | cons piece rest =>
      cases rest with
      | nil => cases others <;> exact List.cons_ne_nil _ _
      | cons next rest => exact List.cons_ne_nil _ _

theorem length_attach {pieces others : List (List α)} (nonempty : pieces ≠ [])
    (othersNonempty : others ≠ []) :
    (attach pieces others).length + 1 = pieces.length + others.length := by
  induction pieces with
  | nil => exact absurd rfl nonempty
  | cons piece rest ih =>
      cases rest with
      | nil =>
          cases others with
          | nil => exact absurd rfl othersNonempty
          | cons first others => simp [attach, appendFirst]; omega
      | cons next rest =>
          have later := ih (List.cons_ne_nil next rest)
          simp only [attach, List.length_cons] at later ⊢
          omega

/-- Pieces side by side hold what both hold. -/
theorem flatten_attach (pieces others : List (List α)) :
    (attach pieces others).flatten = pieces.flatten ++ others.flatten := by
  induction pieces with
  | nil => rfl
  | cons piece rest ih =>
      cases rest with
      | nil => cases others <;> simp [attach, appendFirst]
      | cons next rest =>
          rw [attach, List.flatten_cons, ih, List.flatten_cons (l := piece), List.append_assoc]

/-- Writing pieces out goes with putting them side by side. -/
theorem map_attach {write : List α → List β}
    (append : ∀ front back, write (front ++ back) = write front ++ write back)
    (pieces others : List (List α)) :
    (attach pieces others).map write = attach (pieces.map write) (others.map write) := by
  induction pieces with
  | nil => rfl
  | cons piece rest ih =>
      cases rest with
      | nil => cases others <;> simp [attach, appendFirst, append]
      | cons next rest => rw [attach, List.map_cons, ih]; rfl

end Attach

theorem attach_consFirst (c : Char) {pieces others : List (List Char)} (nonempty : pieces ≠ []) :
    attach (consFirst c pieces) others = consFirst c (attach pieces others) := by
  cases pieces with
  | nil => exact absurd rfl nonempty
  | cons piece rest =>
      cases rest with
      | nil => cases others <;> rfl
      | cons next rest => rfl

/-- A text is split as its two parts are, one behind the other. -/
theorem pieces_append (context : Context) (front back : List Char) :
    pieces context (front ++ back) =
      attach (pieces context front) (pieces (context.after front) back) := by
  induction front generalizing context with
  | nil => exact (attach_nothing (pieces_ne_nil _ _)).symm
  | cons c rest ih =>
      rw [List.cons_append, pieces, pieces, Context.after_cons]
      split
      next placeholder =>
        have stays : context.step c = .plain := by
          simp only [Bool.and_eq_true, decide_eq_true_eq] at placeholder
          rw [placeholder.1, placeholder.2]
          decide
        rw [attach_cons _ (pieces_ne_nil _ _), ih, stays]
      next => rw [attach_consFirst c (pieces_ne_nil _ _), ih]

/-! ## Ordinary text -/

/-- Outside quotes text is split at every question mark. -/
theorem pieces_unquoted {cs : List Char} (unquoted : IsUnquoted cs) :
    pieces .plain cs = cs.splitOn '?' := by
  induction cs with
  | nil => rfl
  | cons c rest ih =>
      obtain ⟨first, later⟩ := List.forall_mem_cons.mp unquoted
      have stays : Context.plain.step c = .plain := by rw [Context.step, first]; rfl
      rw [pieces, List.splitOn_cons_eq_if_modifyHead, stays, ih later]
      by_cases placeholder : c = '?'
      · simp [placeholder]
      · cases found : rest.splitOn '?' with
        | nil => exact absurd found (List.splitOn_ne_nil _ _)
        | cons piece others => simp [placeholder, consFirst]

theorem after_unquoted {cs : List Char} (unquoted : IsUnquoted cs) :
    Context.plain.after cs = .plain :=
  Context.after_eq_self fun c member => by rw [Context.step, unquoted c member]; rfl

theorem length_splitOn (mark : Char) (cs : List Char) :
    (cs.splitOn mark).length = cs.count mark + 1 := by
  induction cs with
  | nil => rfl
  | cons c rest ih =>
      rw [List.splitOn_cons_eq_if_modifyHead, List.count_cons]
      split
      · rw [List.length_cons, ih]
      · rw [List.length_modifyHead, ih]

theorem not_mem_of_mem_splitOn {mark : Char} {cs piece : List Char}
    (member : piece ∈ cs.splitOn mark) : mark ∉ piece := by
  induction cs generalizing piece with
  | nil =>
      rw [List.mem_singleton.mp member]
      simp
  | cons c rest ih =>
      rw [List.splitOn_cons_eq_if_modifyHead] at member
      split at member
      next =>
        rcases List.mem_cons.mp member with rfl | later
        · simp
        · exact ih later
      next other =>
        cases found : rest.splitOn mark with
        | nil => exact absurd found (List.splitOn_ne_nil _ _)
        | cons first others =>
            rw [found] at ih member
            rcases List.mem_cons.mp member with rfl | later
            · have different : mark ≠ c := fun same => other (by simp [same])
              simp [different, ih List.mem_cons_self]
            · exact ih (List.mem_cons_of_mem first later)

/-! ## Statements made of segments -/

/-- A quoted part is closed, whatever it quotes. -/
theorem Quoted.isClosed_sql (part : Quoted) : IsClosed part.sql.toList := by
  cases part with
  | name n => exact isClosed_quoteName n
  | literal s => exact isClosed_quoteLiteral s

/-- A segment of a statement: ordinary text, or a quoted part. -/
inductive Segment where
  | text (s : String)
  | quoted (part : Quoted)

namespace Segment

/-- A segment as it stands in a statement. -/
def sql : Segment → String
  | .text s => s
  | .quoted part => part.sql

/-- The statement that segments make one behind the other. -/
def joined (segments : List Segment) : String :=
  .join (segments.map sql)

/-- The ordinary text of a segment. -/
def ordinary : Segment → List Char
  | .text s => s.toList
  | .quoted _ => []

/-- The quoted part that a segment is. -/
def quoted? : Segment → Option Quoted
  | .text _ => none
  | .quoted part => some part

/-- A segment cut at its placeholders: a text at every question mark, a quoted part nowhere. -/
def cut : Segment → List (List Segment)
  | .text s => (s.toList.splitOn '?').map fun cs => [.text (.ofList cs)]
  | .quoted part => [[.quoted part]]

/-- Segments cut at their placeholders. What stands between two cuts stays together. -/
def cutAll : List Segment → List (List Segment)
  | [] => [[]]
  | segment :: rest => attach segment.cut (cutAll rest)

/-- Whether every mark in a segment belongs to a quoted part. -/
def MarksQuoted : Segment → Prop
  | .text s => IsUnquoted s.toList
  | .quoted _ => True

theorem toList_joined (segments : List Segment) :
    (joined segments).toList = segments.flatMap fun segment => segment.sql.toList := by
  rw [joined, String.toList_join, List.flatMap_map]

theorem toList_joined_append (front back : List Segment) :
    (joined (front ++ back)).toList = (joined front).toList ++ (joined back).toList := by
  simp only [toList_joined, List.flatMap_append]

theorem toList_joined_cons (segment : Segment) (rest : List Segment) :
    (joined (segment :: rest)).toList = segment.sql.toList ++ (joined rest).toList :=
  toList_joined_append [segment] rest

variable {segment : Segment} {segments : List Segment}

theorem cut_ne_nil (segment : Segment) : segment.cut ≠ [] := by
  cases segment with
  | text s => simp [cut]
  | quoted part => simp [cut]

theorem cutAll_ne_nil (segments : List Segment) : cutAll segments ≠ [] := by
  cases segments with
  | nil => exact List.cons_ne_nil _ _
  | cons segment rest => exact attach_ne_nil segment.cut_ne_nil _

/-- A segment is split as it is cut, and leaves the reader outside quotes. -/
theorem pieces_sql (marksQuoted : segment.MarksQuoted) :
    pieces .plain segment.sql.toList = segment.cut.map (fun piece => (joined piece).toList) ∧
      Context.plain.after segment.sql.toList = .plain := by
  cases segment with
  | text s =>
      refine ⟨?_, after_unquoted marksQuoted⟩
      rw [sql, pieces_unquoted marksQuoted, cut, List.map_map]
      simp [Function.comp_def, toList_joined, sql]
  | quoted part =>
      have closed := part.isClosed_sql
      refine ⟨?_, closed.balanced⟩
      rw [sql, pieces_of_hasNoPlaceholder closed.noPlaceholder]
      simp [cut, toList_joined, sql]

/-- A statement made of segments is split as they are cut. -/
theorem pieces_joined (marksQuoted : ∀ segment ∈ segments, segment.MarksQuoted) :
    pieces .plain (joined segments).toList =
      (cutAll segments).map (fun piece => (joined piece).toList) := by
  induction segments with
  | nil => rfl
  | cons segment rest ih =>
      obtain ⟨first, later⟩ := List.forall_mem_cons.mp marksQuoted
      obtain ⟨split, balanced⟩ := pieces_sql first
      rw [toList_joined_cons, pieces_append, split, balanced, ih later, cutAll,
        map_attach toList_joined_append]

theorem flatten_cut_text (s : String) :
    (cut (.text s)).flatten = (s.toList.splitOn '?').map fun cs => .text (.ofList cs) := by
  rw [cut, ← List.flatMap_def, ← List.map_eq_flatMap]

theorem length_cut (segment : Segment) : segment.cut.length = segment.ordinary.count '?' + 1 := by
  cases segment with
  | text s => rw [cut, List.length_map, length_splitOn, ordinary]
  | quoted part => rfl

theorem length_cutAll (segments : List Segment) :
    (cutAll segments).length = (segments.flatMap ordinary).count '?' + 1 := by
  induction segments with
  | nil => rfl
  | cons segment rest ih =>
      have lengths := length_attach segment.cut_ne_nil (cutAll_ne_nil rest)
      rw [segment.length_cut, ih] at lengths
      rw [cutAll, List.flatMap_cons, List.count_append]
      omega

/-- Cutting keeps every quoted part whole, and their order. -/
theorem quoted_cutAll (segments : List Segment) :
    (cutAll segments).flatten.filterMap quoted? = segments.filterMap quoted? := by
  induction segments with
  | nil => rfl
  | cons segment rest ih =>
      have first : segment.cut.flatten.filterMap quoted? = segment.quoted?.toList := by
        cases segment with
        | text s =>
            rw [flatten_cut_text, List.filterMap_map]
            exact List.filterMap_eq_nil_iff.mpr fun _ _ => rfl
        | quoted part => rfl
      rw [cutAll, flatten_attach, List.filterMap_append, ih, first]
      cases segment <;> rfl

/-- Cutting leaves no placeholder in ordinary text. -/
theorem not_mem_of_text_mem_cutAll {s : String} (member : .text s ∈ (cutAll segments).flatten) :
    '?' ∉ s.toList := by
  induction segments with
  | nil => cases member
  | cons segment rest ih =>
      rw [cutAll, flatten_attach, List.mem_append] at member
      rcases member with inFirst | later
      · cases segment with
        | text t =>
            rw [flatten_cut_text] at inFirst
            obtain ⟨cs, isPiece, same⟩ := List.mem_map.mp inFirst
            cases same
            rw [String.toList_ofList]
            exact not_mem_of_mem_splitOn isPiece
        | quoted part => simp [cut] at inFirst
      · exact ih later

end Segment

/-- The pieces of any statement with question marks between them are the statement. A statement made
of ordinary text and quoted parts is split at exactly the question marks of the ordinary text: its
pieces are made of the same quoted parts, each of them whole, and of text without a question
mark. -/
theorem splitPlaceholders_cuts_text :
    (∀ sql, String.intercalate "?" (splitPlaceholders sql) = sql) ∧
    ∀ segments : List Segment, (∀ segment ∈ segments, segment.MarksQuoted) →
      splitPlaceholders (Segment.joined segments) =
        (Segment.cutAll segments).map Segment.joined ∧
      (splitPlaceholders (Segment.joined segments)).length =
        (segments.flatMap Segment.ordinary).count '?' + 1 ∧
      (Segment.cutAll segments).flatten.filterMap Segment.quoted? =
        segments.filterMap Segment.quoted? ∧
      ∀ s, .text s ∈ (Segment.cutAll segments).flatten → '?' ∉ s.toList := by
  constructor
  · intro sql
    apply String.toList_inj.mp
    rw [String.toList_intercalate, splitPlaceholders, List.map_map]
    simp only [Function.comp_def, String.toList_ofList, List.map_id']
    exact intercalate_pieces .plain sql.toList
  · intro segments marksQuoted
    have split : splitPlaceholders (Segment.joined segments) =
        (Segment.cutAll segments).map Segment.joined := by
      rw [splitPlaceholders, Segment.pieces_joined marksQuoted, List.map_map]
      simp only [Function.comp_def, String.ofList_toList]
    refine ⟨split, ?_, Segment.quoted_cutAll segments,
      fun s member => Segment.not_mem_of_text_mem_cutAll member⟩
    rw [split, List.length_map, Segment.length_cutAll]

/-- A literal with a question mark and a backslash at its end, right in front of a placeholder and a
name. -/
theorem splitPlaceholders_cuts_text_literal :
    splitPlaceholders (Segment.joined
      [.text "SELECT ", .quoted (.literal "why?\\"), .text "?, ", .quoted (.name "a`?")]) =
        ["SELECT 'why?\\\\'", ", `a``?`"] := by
  have unquoted : ∀ segment ∈ [Segment.text "SELECT ", .quoted (.literal "why?\\"), .text "?, ",
      .quoted (.name "a`?")], segment.MarksQuoted := by
    simp only [List.forall_mem_cons]
    exact ⟨.of_text rfl, trivial, .of_text rfl, trivial, by simp⟩
  rw [(splitPlaceholders_cuts_text.2 _ unquoted).1]
  decide

end RowMapper.Sql
