import Mathlib.Data.List.Forall2
import RowMapper.Proofs.Assignments
import RowMapper.Proofs.Json.Token

/-!
# Written documents are read back

The values that a JSON text can hold are null, truth values, integers, texts, lists, and
dictionaries under texts. Each of them is written as a text that reads back as an equal value, as
long as it is nested no deeper than readers follow. What is proved of a value is that its text reads
back in front of anything that could not belong to a number, so that the items of a list and the
entries of a dictionary can be read one after the other.
-/

namespace RowMapper.Json

/-- The values that JSON texts hold, with a bound on their nesting. A field type counts as the text
of its name. -/
inductive IsDocument : Nat → Value → Prop where
  | null (depth : Nat) : IsDocument depth .null
  | bool (depth : Nat) (b : Bool) : IsDocument depth (.bool b)
  | int (depth : Nat) {n : Int} (few : HasFewDigits n) : IsDocument depth (.int n)
  | text (depth : Nat) {v : Value} {s : String} (text : v.text? = some s) : IsDocument depth v
  | list {depth : Nat} {items : List Value} (each : ∀ item ∈ items, IsDocument depth item) :
      IsDocument (depth + 1) (.list items)
  | dict {depth : Nat} {entries : Entries}
      (named : ∀ entry ∈ entries, ∃ name, entry.1.text? = some name)
      (distinct : (entries.map fun entry => entry.1.text?).Nodup)
      (each : ∀ entry ∈ entries, IsDocument depth entry.2) :
      IsDocument (depth + 1) (.dict entries)

/-! ## The front of a written text -/

/-- Only blanks are dropped between tokens. -/
theorem skipSpaces_cons {c : Char} (notSpace : isSpace c = false) (rest : List Char) :
    skipSpaces (c :: rest) = c :: rest :=
  List.dropWhile_cons_of_neg (Bool.eq_false_iff.mp notSpace)

/-- Whether a text begins with something that is no blank and neither ends a container nor is a byte
order mark. -/
def Begins (text : List Char) : Prop :=
  ∃ c rest, text = c :: rest ∧ isSpace c = false ∧ c ≠ ']' ∧ c ≠ '\x7d' ∧ c ≠ '\ufeff'

namespace Begins

variable {text : List Char}

theorem append (begins : Begins text) (more : List Char) : Begins (text ++ more) := by
  obtain ⟨c, rest, rfl, known⟩ := begins
  exact ⟨c, rest ++ more, rfl, known⟩

theorem length_pos (begins : Begins text) : 0 < text.length := by
  obtain ⟨c, rest, rfl, _⟩ := begins
  exact Nat.succ_pos _

theorem skipSpaces_eq (begins : Begins text) : skipSpaces text = text := by
  obtain ⟨c, rest, rfl, notSpace, _⟩ := begins
  exact skipSpaces_cons notSpace rest

theorem skipSpaces_space (begins : Begins text) : skipSpaces (' ' :: text) = text :=
  (List.dropWhile_cons_of_pos rfl).trans begins.skipSpaces_eq

end Begins

theorem endsNumber_cons {c : Char} (rest : List Char)
    (ends : c.isDigit = false ∧ c ≠ '.' ∧ c ≠ 'e' ∧ c ≠ 'E') : EndsNumber (c :: rest) := by
  intro d head
  cases head
  exact ends

/-! ## Reading back -/

/-- Whether a text reads as a value in front of anything that could not belong to a number. -/
def ReadsAs (depth : Nat) (text : List Char) (w : Value) : Prop :=
  ∀ fuel rest, 2 * text.length ≤ fuel + 1 → EndsNumber rest →
    readValue (fuel + 1) depth (text ++ rest) = .ok (w, rest)

/-- Whether a value is written as a text that reads back as an equal value. -/
def ReadsBack (depth : Nat) (v : Value) : Prop :=
  ∃ text w, write v = .ok text ∧ Begins text ∧ w.equal v = true ∧ ReadsAs depth text w

theorem readsBack_null (depth : Nat) : ReadsBack depth .null :=
  ⟨_, .null, rfl, ⟨'n', _, rfl, by decide⟩, rfl, fun _ _ _ _ => rfl⟩

theorem readsBack_bool (depth : Nat) (b : Bool) : ReadsBack depth (.bool b) := by
  cases b with
  | false => exact ⟨_, .bool false, rfl, ⟨'f', _, rfl, by decide⟩, rfl, fun _ _ _ _ => rfl⟩
  | true => exact ⟨_, .bool true, rfl, ⟨'t', _, rfl, by decide⟩, rfl, fun _ _ _ _ => rfl⟩

theorem readsBack_text (depth : Nat) {v : Value} {s : String} (text : v.text? = some s) :
    ReadsBack depth v := by
  have written : write v = .ok (writeText s) := by
    cases v with
    | text t => cases text; rfl
    | fieldType type => cases text; rfl
    | _ => cases text
  have equal : (Value.text s).equal v = true := by
    simp only [Value.equal, Value.sameItem, text, decide_true]
  refine ⟨writeText s, .text s, written, ⟨'"', _, rfl, by decide⟩, equal, ?_⟩
  intro fuel rest _ _
  obtain ⟨body, begins, read⟩ := readText_writeText s rest
  rw [begins, List.cons_append, readValue]
  simp only [read, Except.map]

/-- Whether a text begins as integers do, with a digit or with a minus sign and a digit. -/
def BeginsNumber (text : List Char) : Prop :=
  ∃ digit rest, digit.isDigit = true ∧ (text = digit :: rest ∨ text = '-' :: digit :: rest)

namespace BeginsNumber

variable {text : List Char}

theorem of_decimalText (n : Int) : BeginsNumber (decimalText n).toList := by
  obtain ⟨digit, rest, digits, isDigit⟩ := exists_cons_toDigits n.natAbs
  refine ⟨digit, rest, isDigit, ?_⟩
  by_cases negative : n < 0
  · right
    rw [decimalText, if_pos negative, String.toList_append, Nat.toList_repr, digits]
    rfl
  · left
    rw [decimalText, if_neg negative, Nat.toList_repr, digits]

theorem append (begins : BeginsNumber text) (more : List Char) : BeginsNumber (text ++ more) := by
  obtain ⟨digit, rest, isDigit, rfl | rfl⟩ := begins
  · exact ⟨digit, rest ++ more, isDigit, .inl rfl⟩
  · exact ⟨digit, rest ++ more, isDigit, .inr rfl⟩

/-- A digit differs from everything else. -/
theorem ne_of_isDigit {digit c : Char} (isDigit : digit.isDigit = true)
    (other : c.isDigit = false) : digit ≠ c := by
  intro same
  rw [same, other] at isDigit
  cases isDigit

theorem begins (begins : BeginsNumber text) : Begins text := by
  obtain ⟨digit, rest, isDigit, rfl | rfl⟩ := begins
  · refine ⟨digit, rest, rfl, ?_, ne_of_isDigit isDigit rfl, ne_of_isDigit isDigit rfl,
      ne_of_isDigit isDigit rfl⟩
    simp [isSpace, ne_of_isDigit (c := ' ') isDigit rfl, ne_of_isDigit (c := '\t') isDigit rfl,
      ne_of_isDigit (c := '\n') isDigit rfl, ne_of_isDigit (c := '\r') isDigit rfl]
  · exact ⟨'-', _, rfl, by decide⟩

/-- Such a text is no word. -/
theorem readWord?_eq_none (begins : BeginsNumber text) : readWord? text = none := by
  obtain ⟨digit, rest, isDigit, beginning⟩ := begins
  have ne : ∀ {c : Char}, c.isDigit = false → c ≠ digit :=
    fun other => (ne_of_isDigit isDigit other).symm
  rcases beginning with rfl | rfl
  · simp [readWord?, words, dropExact?, ne (c := 'n') rfl, ne (c := 't') rfl, ne (c := 'f') rfl,
      ne (c := 'N') rfl, ne (c := 'I') rfl, ne (c := '-') rfl]
  · simp [readWord?, words, dropExact?, ne (c := 'I') rfl]

/-- So it is read as a number. -/
theorem readValue_eq (begins : BeginsNumber text) (fuel depth : Nat) :
    readValue (fuel + 1) depth text = readNumber text := by
  have noWord := begins.readWord?_eq_none
  -- Neither a digit nor a minus sign opens a text or a container.
  obtain ⟨digit, rest, isDigit, rfl | rfl⟩ := begins
  · rw [readValue, noWord]
    · intro impossible
      cases impossible
    · intro more same
      exact ne_of_isDigit isDigit rfl (List.cons.inj same).1
    · intro more same
      exact ne_of_isDigit isDigit rfl (List.cons.inj same).1
    · intro more same
      exact ne_of_isDigit isDigit rfl (List.cons.inj same).1
  · rw [readValue, noWord]
    · intro impossible
      cases impossible
    · intro more impossible
      cases impossible
    · intro more impossible
      cases impossible
    · intro more impossible
      cases impossible

end BeginsNumber

theorem readsBack_int (depth : Nat) {n : Int} (few : HasFewDigits n) :
    ReadsBack depth (.int n) := by
  have begins := BeginsNumber.of_decimalText n
  have equal : (Value.int n).equal (.int n) = true := by
    simp [Value.equal, Value.sameItem, Value.number?]
  refine ⟨(decimalText n).toList, .int n, rfl, begins.begins, equal, ?_⟩
  intro fuel rest _ ends
  rw [(begins.append rest).readValue_eq, readNumber_decimalText few ends]

/-! ## Lists -/

/-- Whether a text reads as the items of a list up to its end. -/
def ItemsRead (depth : Nat) (body : List Char) (ws : List Value) : Prop :=
  ∀ fuel rest, 2 * body.length ≤ fuel →
    readItems (fuel + 1) depth (body ++ ']' :: rest) = .ok (ws, rest)

/-- A last item, with the end of the list behind it. -/
theorem itemsRead_last {depth : Nat} {text : List Char} {w : Value} (begins : Begins text)
    (reads : ReadsAs depth text w) : ItemsRead depth text [w] := by
  intro fuel rest enough
  have some := begins.length_pos
  obtain ⟨less, rfl⟩ : ∃ less, fuel = less + 1 := ⟨fuel - 1, by omega⟩
  have item := reads less (']' :: rest) (by omega) (endsNumber_cons rest (by decide))
  rw [readItems, item]
  rfl

/-- An item with others behind it. -/
theorem itemsRead_cons {depth : Nat} {text body : List Char} {w : Value} {ws : List Value}
    (reads : ReadsAs depth text w) (begins : Begins body)
    (others : ItemsRead depth body ws) :
    ItemsRead depth (text ++ ',' :: ' ' :: body) (w :: ws) := by
  intro fuel rest enough
  simp only [List.length_append, List.length_cons] at enough
  obtain ⟨less, rfl⟩ : ∃ less, fuel = less + 1 := ⟨fuel - 1, by omega⟩
  have item := reads less (',' :: ' ' :: (body ++ ']' :: rest)) (by omega)
    (endsNumber_cons _ (by decide))
  have skipped := (begins.append (']' :: rest)).skipSpaces_space
  have more := others less rest (by omega)
  rw [List.append_assoc, List.cons_append, List.cons_append, readItems, item]
  change (readItems (less + 1) depth (skipSpaces (' ' :: (body ++ ']' :: rest))) >>=
    fun reading => .ok (w :: reading.1, reading.2)) = _
  rw [skipped, more]
  rfl

theorem exists_itemsRead {depth : Nat} {items : List Value} (nonempty : items ≠ [])
    (each : ∀ item ∈ items, ReadsBack depth item) :
    ∃ body ws, writeItems items = .ok body ∧ Begins body ∧
      Value.sameItems ws items = true ∧ ItemsRead depth body ws := by
  induction items with
  | nil => exact absurd rfl nonempty
  | cons item rest ih =>
      obtain ⟨text, w, written, begins, equal, reads⟩ := each item List.mem_cons_self
      have same := Value.sameItem_of_equal equal
      cases rest with
      | nil =>
          refine ⟨text, [w], ?_, begins, ?_, itemsRead_last begins reads⟩
          · simp only [writeItems, written]
            rfl
          · simp [Value.sameItems, same]
      | cons next others =>
          obtain ⟨body, ws, bodyWritten, bodyBegins, sameRest, readsRest⟩ :=
            ih (by simp) fun other member => each other (List.mem_cons_of_mem item member)
          refine ⟨text ++ ',' :: ' ' :: body, w :: ws, ?_, begins.append _, ?_,
            itemsRead_cons reads bodyBegins readsRest⟩
          · rw [writeItems, written, bodyWritten]
            rfl
          · simp only [Value.sameItems, same, sameRest, Bool.and_self]

/-- A list of documents is one. -/
theorem readsBack_list {depth : Nat} {items : List Value}
    (each : ∀ item ∈ items, ReadsBack depth item) : ReadsBack (depth + 1) (.list items) := by
  cases items with
  | nil =>
      refine ⟨['[', ']'], .list [], rfl, ⟨'[', _, rfl, by decide⟩, rfl, ?_⟩
      intro fuel rest _ _
      rfl
  | cons item others =>
      obtain ⟨body, ws, written, begins, same, reads⟩ := exists_itemsRead (by simp) each
      refine ⟨'[' :: body ++ [']'], .list ws, ?_, ⟨'[', _, rfl, by decide⟩, same, ?_⟩
      · rw [write, written]
        rfl
      · intro fuel rest enough _
        simp only [List.length_append, List.length_cons, List.length_nil] at enough
        obtain ⟨less, rfl⟩ : ∃ less, fuel = less + 1 := ⟨fuel - 1, by omega⟩
        have skipped := (begins.append (']' :: rest)).skipSpaces_eq
        have more := reads less rest (by omega)
        have text : '[' :: body ++ [']'] ++ rest = '[' :: (body ++ ']' :: rest) := by simp
        rw [text, readValue]
        dsimp only
        rw [skipped]
        split
        next closing =>
          obtain ⟨c, front, rfl, _, notClosing, _⟩ := begins
          exact absurd (List.cons.inj closing).1 notClosing
        next =>
          rw [more]
          rfl

/-! ## Dictionaries -/

/-- Whether an entry that was read has the name and the value of one that was written. -/
def SameEntry (read written : Value × Value) : Prop :=
  ∃ name, read.1 = .text name ∧ written.1.text? = some name ∧ read.2.equal written.2 = true

/-- Whether a text reads as the entries of a dictionary up to its end, behind others with other
names. -/
def EntriesRead (depth : Nat) (body : List Char) (ws : Entries) : Prop :=
  ∀ fuel rest (done : Entries), 2 * body.length ≤ fuel →
    (∀ entry ∈ ws, ∀ name, entry.1.text? = some name → ¬ done.Sets name) →
      readEntries (fuel + 1) depth done (body ++ '\x7d' :: rest) = .ok (done ++ ws, rest)

section

variable {depth less : Nat} {name : String} {text : List Char} {w : Value} {done : Entries}

/-- An entry with the end of the dictionary behind it is read as the last one. -/
theorem readEntries_last (begins : Begins text) (reads : ReadsAs depth text w)
    (fresh : ¬ done.Sets name) (enough : 2 * text.length ≤ less + 1) (rest : List Char) :
    readEntries (less + 2) depth done (writeText name ++ ':' :: ' ' :: (text ++ '\x7d' :: rest)) =
      .ok (done ++ [(.text name, w)], rest) := by
  obtain ⟨quoted, written, read⟩ :=
    readText_writeText name (':' :: ' ' :: (text ++ '\x7d' :: rest))
  have skipped := (begins.append ('\x7d' :: rest)).skipSpaces_space
  have value := reads less ('\x7d' :: rest) enough (endsNumber_cons rest (by decide))
  have added := @Entries.insert_of_not_sets done (.text name) name w rfl fresh
  rw [written, List.cons_append, readEntries, read]
  simp only [bind, Except.bind, skipSpaces_cons (c := ':') rfl, skipped, value,
    skipSpaces_cons (c := '\x7d') rfl, added]

/-- An entry with a comma behind it is read, and then the others. -/
theorem readEntries_next (begins : Begins text) (reads : ReadsAs depth text w)
    (fresh : ¬ done.Sets name) (enough : 2 * text.length ≤ less + 1) (rest : List Char) :
    readEntries (less + 2) depth done (writeText name ++ ':' :: ' ' :: (text ++ ',' :: rest)) =
      readEntries (less + 1) depth (done ++ [(.text name, w)]) (skipSpaces rest) := by
  obtain ⟨quoted, written, read⟩ := readText_writeText name (':' :: ' ' :: (text ++ ',' :: rest))
  have skipped := (begins.append (',' :: rest)).skipSpaces_space
  have value := reads less (',' :: rest) enough (endsNumber_cons rest (by decide))
  have added := @Entries.insert_of_not_sets done (.text name) name w rfl fresh
  rw [written, List.cons_append, readEntries, read]
  simp only [bind, Except.bind, skipSpaces_cons (c := ':') rfl, skipped, value,
    skipSpaces_cons (c := ',') rfl, added]

end

theorem entriesRead_last {depth : Nat} {name : String} {text : List Char} {w : Value}
    (begins : Begins text) (reads : ReadsAs depth text w) :
    EntriesRead depth (writeText name ++ ':' :: ' ' :: text) [(.text name, w)] := by
  intro fuel rest done enough fresh
  simp only [List.length_append, List.length_cons] at enough
  obtain ⟨less, rfl⟩ : ∃ less, fuel = less + 1 := ⟨fuel - 1, by omega⟩
  rw [List.append_assoc, List.cons_append, List.cons_append,
    readEntries_last begins reads (fresh _ List.mem_cons_self name rfl) (by omega)]

theorem entriesRead_cons {depth : Nat} {name : String} {text body : List Char} {w : Value}
    {ws : Entries} (begins : Begins text) (reads : ReadsAs depth text w) (bodyBegins : Begins body)
    (others : EntriesRead depth body ws)
    (distinct : ∀ entry ∈ ws, entry.1.text? ≠ some name) :
    EntriesRead depth (writeText name ++ ':' :: ' ' :: text ++ ',' :: ' ' :: body)
      ((.text name, w) :: ws) := by
  intro fuel rest done enough fresh
  simp only [List.length_append, List.length_cons] at enough
  obtain ⟨less, rfl⟩ : ∃ less, fuel = less + 1 := ⟨fuel - 1, by omega⟩
  have shape : writeText name ++ ':' :: ' ' :: text ++ ',' :: ' ' :: body ++ '\x7d' :: rest =
      writeText name ++ ':' :: ' ' :: (text ++ ',' :: ' ' :: (body ++ '\x7d' :: rest)) := by
    simp
  have skipped := (bodyBegins.append ('\x7d' :: rest)).skipSpaces_space
  have stillFresh : ∀ entry ∈ ws, ∀ other, entry.1.text? = some other →
      ¬ Entries.Sets (done ++ [(.text name, w)]) other := by
    intro entry member other named sets
    rcases Entries.sets_append.mp sets with before | ⟨last, isLast, same⟩
    · exact fresh entry (List.mem_cons_of_mem _ member) other named before
    · rw [List.mem_singleton.mp isLast] at same
      rw [← same] at named
      exact distinct entry member named
  rw [shape, readEntries_next begins reads (fresh _ List.mem_cons_self name rfl) (by omega),
    skipped, others less rest _ (by omega) stillFresh, List.append_assoc]
  rfl

/-- Each entry that was read is the same as one that was written. -/
theorem exists_sameEntry {ws entries : Entries} (same : List.Forall₂ SameEntry ws entries)
    {read : Value × Value} (member : read ∈ ws) : ∃ written ∈ entries, SameEntry read written := by
  induction same with
  | nil => cases member
  | cons first _ ih =>
      rcases List.mem_cons.mp member with rfl | later
      · exact ⟨_, List.mem_cons_self, first⟩
      · obtain ⟨written, inRest, agrees⟩ := ih later
        exact ⟨written, List.mem_cons_of_mem _ inRest, agrees⟩

/-- Among entries of distinct names, the one under a name is found. -/
theorem find?_eq_of_distinct {entries : Entries}
    (distinct : (entries.map fun entry => entry.1.text?).Nodup) {entry : Value × Value}
    (member : entry ∈ entries) {name : String} (named : entry.1.text? = some name) :
    List.find? (fun other => Value.sameItem (.text name) other.1) entries = some entry := by
  induction entries with
  | nil => cases member
  | cons first rest ih =>
      rw [List.map_cons, List.nodup_cons] at distinct
      rcases List.mem_cons.mp member with rfl | later
      · exact List.find?_cons_of_pos (decide_eq_true named)
      · have different : first.1.text? ≠ some name := by
          intro same
          apply distinct.1
          rw [same, ← named]
          exact List.mem_map_of_mem later
        have skipped : Value.sameItem (.text name) first.1 = false := decide_eq_false different
        simp only [List.find?_cons, skipped, ih distinct.2 later]

/-- Entries that are the same as some of distinct names agree with them as dictionaries do. -/
theorem sameEntries_of_exists {ws entries : Entries}
    (distinct : (entries.map fun entry => entry.1.text?).Nodup)
    (same : ∀ read ∈ ws, ∃ written ∈ entries, SameEntry read written) :
    Value.sameEntries ws entries = true := by
  induction ws with
  | nil => rfl
  | cons read rest ih =>
      obtain ⟨key, w⟩ := read
      obtain ⟨written, member, name, isName, named, equal⟩ := same (key, w) List.mem_cons_self
      have others := ih fun other later => same other (List.mem_cons_of_mem _ later)
      have isName : key = .text name := isName
      rw [Value.sameEntries, isName, find?_eq_of_distinct distinct member named]
      simp only [Option.map_some, Option.getD_some, Value.sameItem_of_equal equal, others,
        Bool.and_self]

theorem exists_entriesRead {depth : Nat} {entries : Entries} (nonempty : entries ≠ [])
    (named : ∀ entry ∈ entries, ∃ name, entry.1.text? = some name)
    (distinct : (entries.map fun entry => entry.1.text?).Nodup)
    (each : ∀ entry ∈ entries, ReadsBack depth entry.2) :
    ∃ body ws, writeEntries entries = .ok body ∧ Begins body ∧
      List.Forall₂ SameEntry ws entries ∧ EntriesRead depth body ws := by
  induction entries with
  | nil => exact absurd rfl nonempty
  | cons entry rest ih =>
      obtain ⟨key, v⟩ := entry
      obtain ⟨name, text⟩ := named (key, v) List.mem_cons_self
      obtain ⟨value, w, written, begins, equal, reads⟩ := each (key, v) List.mem_cons_self
      have keyWritten : keyText key = .ok name := by
        cases key with
        | text s => cases text; rfl
        | fieldType type => cases text; rfl
        | _ => cases text
      have same : SameEntry (.text name, w) (key, v) := ⟨name, rfl, text, equal⟩
      have front : ∀ more, Begins (writeText name ++ more) :=
        fun more => Begins.append ⟨'"', _, rfl, by decide⟩ more
      cases rest with
      | nil =>
          refine ⟨_, _, ?_, front _, .cons same .nil, entriesRead_last begins reads⟩
          simp only [writeEntries, keyWritten, written]
          rfl
      | cons next others =>
          rw [List.map_cons, List.nodup_cons] at distinct
          obtain ⟨body, ws, bodyWritten, bodyBegins, sameRest, readsRest⟩ :=
            ih (by simp) (fun other member => named other (List.mem_cons_of_mem _ member))
              distinct.2 fun other member => each other (List.mem_cons_of_mem _ member)
          have differ : ∀ other ∈ ws, other.1.text? ≠ some name := by
            intro other member isName
            obtain ⟨partner, inRest, otherName, otherIs, partnerText, _⟩ :=
              exists_sameEntry sameRest member
            apply distinct.1
            rw [otherIs, Value.text?] at isName
            rw [text, ← isName, ← partnerText]
            exact List.mem_map_of_mem inRest
          refine ⟨_, _, ?_, ?_, .cons same sameRest,
            entriesRead_cons begins reads bodyBegins readsRest differ⟩
          · rw [writeEntries, keyWritten, written, bodyWritten]
            rfl
          · rw [List.append_assoc]
            exact front _

/-- A dictionary of documents under texts is one. -/
theorem readsBack_dict {depth : Nat} {entries : Entries}
    (named : ∀ entry ∈ entries, ∃ name, entry.1.text? = some name)
    (distinct : (entries.map fun entry => entry.1.text?).Nodup)
    (each : ∀ entry ∈ entries, ReadsBack depth entry.2) :
    ReadsBack (depth + 1) (.dict entries) := by
  cases entries with
  | nil =>
      refine ⟨['\x7b', '\x7d'], .dict [], rfl, ⟨'\x7b', _, rfl, by decide⟩, rfl, ?_⟩
      intro fuel rest _ _
      rfl
  | cons entry others =>
      obtain ⟨body, ws, written, begins, same, reads⟩ :=
        exists_entriesRead (by simp) named distinct each
      have equal : (Value.dict ws).equal (.dict (entry :: others)) = true := by
        simp [Value.equal, Value.sameItem, same.length_eq,
          sameEntries_of_exists distinct fun read member => exists_sameEntry same member]
      refine ⟨'\x7b' :: body ++ ['\x7d'], .dict ws, ?_, ⟨'\x7b', _, rfl, by decide⟩, equal, ?_⟩
      · rw [write, written]
        rfl
      · intro fuel rest enough _
        simp only [List.length_append, List.length_cons, List.length_nil] at enough
        obtain ⟨less, rfl⟩ : ∃ less, fuel = less + 1 := ⟨fuel - 1, by omega⟩
        have skipped := (begins.append ('\x7d' :: rest)).skipSpaces_eq
        have more := reads less rest [] (by omega)
          fun entry _ name _ => Entries.sets_nil name
        have text : '\x7b' :: body ++ ['\x7d'] ++ rest = '\x7b' :: (body ++ '\x7d' :: rest) := by
          simp
        rw [text, readValue]
        dsimp only
        rw [skipped]
        split
        next closing =>
          obtain ⟨c, front, rfl, _, _, notClosing, _⟩ := begins
          exact absurd (List.cons.inj closing).1 notClosing
        next =>
          rw [more]
          rfl

/-! ## Documents -/

/-- Every document is written as a text that reads back as an equal value. -/
theorem IsDocument.readsBack {depth : Nat} {v : Value} (document : IsDocument depth v) :
    ReadsBack depth v := by
  induction document with
  | null depth => exact readsBack_null depth
  | bool depth b => exact readsBack_bool depth b
  | int depth few => exact readsBack_int depth few
  | text depth text => exact readsBack_text depth text
  | list each ih => exact readsBack_list ih
  | dict named distinct each ih => exact readsBack_dict named distinct ih

/-- What is stored for a document is loaded as an equal value. -/
theorem exists_readString_of_document {v : Value} (document : IsDocument maxDepth v) :
    ∃ text w, write v = .ok text ∧ readString (.ofList text) = .ok w ∧ w.equal v = true := by
  obtain ⟨text, w, written, begins, equal, reads⟩ := document.readsBack
  refine ⟨text, w, written, ?_, equal⟩
  have whole := reads (2 * text.length + 1) [] (by omega) (by intro c head; cases head)
  rw [List.append_nil] at whole
  have read : read text = .ok w := by
    rw [Json.read, readDocument, begins.skipSpaces_eq, whole]
    rfl
  obtain ⟨c, rest, rfl, _, _, _, notMark⟩ := begins
  rw [readString, String.toList_ofList]
  split
  next same => exact absurd (List.cons.inj same).1 notMark
  next => exact read

end RowMapper.Json
