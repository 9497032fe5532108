import RowMapper.Proofs.Sql.ClosedText
import RowMapper.Proofs.Sql.Layout

/-!
# Binds that are found

The layer below finds a bind at each colon that starts one. Binding puts such a colon at every
placeholder, while the colons of the statement itself either get a backslash in front or have no
word behind them. So every bind that is found stands where a placeholder stood, whatever the
statement. A placeholder whose neighbours leave its bind alone is found in turn, and when all of
them stand free the names that are found are those of the values.
-/

namespace RowMapper.Sql

/-! ## Where a bind starts -/

/-- Whether a colon between two texts starts a bind: what is in front of it allows one, a word is
behind it, and no colon is behind that word. -/
structure StartsBind (front rest : List Char) : Prop where
  allowed : allowsBind front.getLast? = true
  named : startsWord rest = true
  ended : colonAfterWord rest = false

theorem or_getLast?_cons (c : Char) (front : List Char) (previous : Option Char) :
    (c :: front).getLast?.or previous = front.getLast?.or (some c) := by
  cases front <;> simp [List.getLast?_cons]

/-- The names found in a text are the words behind the colons that start a bind. -/
theorem mem_bindNamesAfter_iff {previous : Option Char} {name cs : List Char} :
    name ∈ bindNamesAfter previous cs ↔
      ∃ front rest, cs = front ++ ':' :: rest ∧ allowsBind (front.getLast?.or previous) = true ∧
        startsWord rest = true ∧ colonAfterWord rest = false ∧ name = word rest := by
  induction cs generalizing previous with
  | nil => simp [bindNamesAfter]
  | cons c cs ih =>
      have found : name ∈ bindNamesAfter previous (c :: cs) ↔
          (c = ':' ∧ allowsBind previous = true ∧ startsWord cs = true ∧
            colonAfterWord cs = false ∧ name = word cs) ∨
          name ∈ bindNamesAfter (some c) cs := by
        rw [bindNamesAfter]
        split
        next starts =>
          simp only [Bool.and_eq_true, decide_eq_true_eq, Bool.not_eq_true'] at starts
          simp [starts]
        next other =>
          simp only [Bool.and_eq_true, decide_eq_true_eq, Bool.not_eq_true'] at other
          grind
      rw [found, ih]
      constructor
      · rintro (⟨rfl, starts⟩ | ⟨front, rest, rfl, starts⟩)
        · exact ⟨[], cs, rfl, starts⟩
        · refine ⟨c :: front, rest, rfl, ?_⟩
          rwa [or_getLast?_cons]
      · rintro ⟨front, rest, split, starts⟩
        rcases List.cons_eq_append_iff.mp split with ⟨rfl, same⟩ | ⟨others, rfl, same⟩
        · cases same
          exact .inl ⟨rfl, starts⟩
        · rw [or_getLast?_cons] at starts
          exact .inr ⟨others, rest, same, starts⟩

/-! ## Binds stand at placeholders -/

/-- The count of the placeholders in a text that is read from a context on. -/
def placeholdersIn (context : Context) (cs : List Char) : Nat :=
  (pieces context cs).length - 1

theorem placeholdersIn_placeholder (rest : List Char) :
    placeholdersIn .plain ('?' :: rest) = placeholdersIn .plain rest + 1 := by
  have some : 0 < (pieces .plain rest).length :=
    List.length_pos_iff.mpr (pieces_ne_nil .plain rest)
  rw [placeholdersIn, placeholdersIn, length_pieces_placeholder]
  omega

theorem placeholdersIn_cons {context : Context} {c : Char} (rest : List Char)
    (ordinary : ¬ (context = .plain ∧ c = '?')) :
    placeholdersIn context (c :: rest) = placeholdersIn (context.step c) rest := by
  rw [placeholdersIn, placeholdersIn, pieces, if_neg (by simpa using ordinary),
    length_consFirst (pieces_ne_nil _ _)]

/-- Whether the colon between two parts of a bound text was put there for a placeholder of the
statement: in front of it is what the statement in front of the placeholder is bound to, and behind
it are the name for the position of the placeholder and what the rest of the statement is bound to,
when both are read from a context on and the binds are numbered from an index on. -/
def IsInserted (context : Context) (index : Nat) (cs front rest : List Char) : Prop :=
  ∃ before behind, cs = before ++ '?' :: behind ∧ context.after before = .plain ∧
    front = bindFrom context index before ∧
    rest = (bindName (index + placeholdersIn context before)).toList ++
      bindFrom .plain (index + placeholdersIn context before + 1) behind

theorem startsWord_append_placeholder (before behind : List Char) :
    startsWord (before ++ '?' :: behind) = startsWord before := by
  cases before with
  | nil => rfl
  | cons c others => rfl

namespace IsInserted

variable {index : Nat} {cs front rest : List Char}

/-- What stands at a placeholder of a text stands at one of the text behind a placeholder. -/
theorem placeholder (inserted : IsInserted .plain (index + 1) cs front rest) :
    IsInserted .plain index ('?' :: cs) (':' :: (bindName index).toList ++ front) rest := by
  obtain ⟨before, behind, rfl, outside, rfl, rfl⟩ := inserted
  refine ⟨'?' :: before, behind, rfl, outside, ?_, ?_⟩
  · simp [bindFrom]
  · rw [placeholdersIn_placeholder, Nat.add_assoc index, Nat.add_comm 1]

/-- What stands at a placeholder of a text stands at one of the text behind another character. -/
theorem cons {context : Context} {c : Char} {bound : List Char}
    (ordinary : ¬ (context = .plain ∧ c = '?'))
    (binds : ∀ before, startsWord before = startsWord cs →
      bindFrom context index (c :: before) = bound ++ bindFrom (context.step c) index before)
    (inserted : IsInserted (context.step c) index cs front rest) :
    IsInserted context index (c :: cs) (bound ++ front) rest := by
  obtain ⟨before, behind, rfl, outside, rfl, rfl⟩ := inserted
  refine ⟨c :: before, behind, rfl, outside, ?_, ?_⟩
  · rw [binds before (startsWord_append_placeholder before behind).symm]
  · rw [placeholdersIn_cons before ordinary]

end IsInserted

/-- A text without a mark that stands in front of the mark in one reading is passed over in the
other. -/
theorem exists_append_of_notMem {α : Type} {mark : α} {text back front rest : List α}
    (without : mark ∉ text) (same : text ++ back = front ++ mark :: rest) :
    ∃ more, front = text ++ more ∧ back = more ++ mark :: rest := by
  rcases List.append_eq_append_iff.mp same with ⟨more, passed⟩ | ⟨left, rfl, split⟩
  · exact ⟨more, passed⟩
  · cases left with
    | nil => exact ⟨[], by simp, split.symm⟩
    | cons c others =>
        have first : mark = c := (List.cons.inj split).1
        exact absurd (by simp [first]) without

theorem colon_notMem_bindName (index : Nat) : ':' ∉ (bindName index).toList := by
  intro member
  exact absurd (isWord_of_mem_bindName member) (by decide)

/-- A colon of a bound text that has no backslash in front and a word behind was put there for a
placeholder. -/
theorem isInserted_of_bindFrom {context : Context} {index : Nat} {cs front rest : List Char}
    (bound : bindFrom context index cs = front ++ ':' :: rest) (named : startsWord rest = true)
    (bare : front.getLast? ≠ some '\\') : IsInserted context index cs front rest := by
  induction cs generalizing context index front with
  | nil => simp [bindFrom] at bound
  | cons c cs ih =>
      have later {text more : List Char} (parts : front = text ++ more) :
          more.getLast? ≠ some '\\' :=
        fun last => bare (by simp [parts, List.getLast?_append, last])
      by_cases placeholder : context = .plain ∧ c = '?'
      · obtain ⟨rfl, rfl⟩ := placeholder
        rw [bindFrom, if_pos (by decide), List.cons_append] at bound
        rcases List.cons_eq_append_iff.mp bound with ⟨rfl, own⟩ | ⟨others, rfl, behind⟩
        · -- This is the colon of the placeholder itself.
          exact ⟨[], cs, rfl, rfl, rfl, (List.cons.inj own).2⟩
        · obtain ⟨more, rfl, found⟩ :=
            exists_append_of_notMem (colon_notMem_bindName index) behind
          have parts : ':' :: ((bindName index).toList ++ more) =
              (':' :: (bindName index).toList) ++ more := rfl
          exact (ih found (later parts)).placeholder
      · have ordinary : ¬ (decide (context = .plain) && decide (c = '?')) = true := by
          simpa using placeholder
        have binds (before : List Char) : bindFrom context index (c :: before) =
            (if c = ':' && startsWord before then ['\\', ':'] else [c]) ++
              bindFrom (context.step c) index before := by
          rw [bindFrom, if_neg ordinary]
          split <;> rfl
        rw [binds cs] at bound
        have follows {more : List Char}
            (parts : front = (if c = ':' && startsWord cs then ['\\', ':'] else [c]) ++ more)
            (found : bindFrom (context.step c) index cs = more ++ ':' :: rest) :
            IsInserted context index (c :: cs) front rest := by
          rw [parts]
          refine (ih found (later parts)).cons placeholder fun before same => ?_
          rw [binds before, same]
        cases escapes : (c = ':' && startsWord cs) with
        | true =>
            rw [escapes] at bound follows
            rcases front with _ | ⟨a, _ | ⟨b, more⟩⟩
            · cases (List.cons.inj bound).1
            · exact absurd (congrArg some (List.cons.inj bound).1.symm) bare
            · obtain ⟨rfl, tail⟩ := List.cons.inj bound
              obtain ⟨rfl, found⟩ := List.cons.inj tail
              exact follows rfl found
        | false =>
            rw [escapes] at bound follows
            rcases front with _ | ⟨a, more⟩
            · -- A colon of the statement that gets no backslash has no word behind it.
              obtain ⟨rfl, behind⟩ := List.cons.inj bound
              have notWord : startsWord cs = false := by simpa using escapes
              have stays : startsWord rest = false :=
                behind ▸ startsWord_bindFrom_of_not_startsWord notWord
              rw [stays] at named
              cases named
            · obtain ⟨rfl, found⟩ := List.cons.inj bound
              exact follows rfl found

/-! ## Placeholders that stand free -/

/-- Whether nothing next to a placeholder spoils its bind, given the character in front of it and
the text behind it: no word character, no colon and no other placeholder stands on either side, and
no backslash in front. -/
structure StandsFree (previous : Option Char) (behind : List Char) : Prop where
  allowed : allowsBind previous = true
  ended : endsBind behind = true
  notAfter : previous ≠ some '?'
  notBefore : behind.head? ≠ some '?'

instance (previous : Option Char) (behind : List Char) : Decidable (StandsFree previous behind) :=
  decidable_of_iff (allowsBind previous = true ∧ endsBind behind = true ∧ previous ≠ some '?' ∧
      behind.head? ≠ some '?')
    ⟨fun ⟨allowed, ended, notAfter, notBefore⟩ => ⟨allowed, ended, notAfter, notBefore⟩,
      fun free => ⟨free.allowed, free.ended, free.notAfter, free.notBefore⟩⟩

/-- Whether every placeholder of a text stands free when the text is read from a context on, given
the character in front of the text. A question mark next to a placeholder is one itself. -/
def AllStandFree (previous : Option Char) (context : Context) (cs : List Char) : Prop :=
  ∀ before behind, cs = before ++ '?' :: behind → context.after before = .plain →
    StandsFree (before.getLast?.or previous) behind

namespace AllStandFree

variable {previous : Option Char} {context : Context} {c : Char} {rest : List Char}

theorem nil : AllStandFree previous context [] := by
  intro before behind split
  simp at split

theorem cons_iff : AllStandFree previous context (c :: rest) ↔
    (context = .plain ∧ c = '?' → StandsFree previous rest) ∧
      AllStandFree (some c) (context.step c) rest := by
  constructor
  · intro free
    refine ⟨?_, ?_⟩
    · rintro ⟨rfl, rfl⟩
      exact free [] rest rfl rfl
    · rintro before behind rfl outside
      rw [← or_getLast?_cons c before previous]
      exact free (c :: before) behind rfl outside
  · rintro ⟨first, later⟩ before behind split outside
    rcases List.cons_eq_append_iff.mp split with ⟨rfl, same⟩ | ⟨others, rfl, same⟩
    · cases same
      exact first ⟨outside, rfl⟩
    · rw [or_getLast?_cons]
      exact later others behind same outside

/-- Behind a placeholder that stands free no placeholder stands at once, so that of the character
in front of the others nothing depends on it. -/
theorem behind_placeholder (free : AllStandFree (some '?') .plain rest) :
    AllStandFree previous .plain rest := by
  intro before behind split outside
  have stands := free before behind split outside
  cases last : before.getLast? with
  | none => exact absurd (by rw [last]; rfl) stands.notAfter
  | some c =>
      rw [last] at stands
      exact stands

end AllStandFree

/-- The test looks at each character of a text once. -/
instance decidableAllStandFree (previous : Option Char) (context : Context) :
    (cs : List Char) → Decidable (AllStandFree previous context cs)
  | [] => .isTrue .nil
  | c :: rest =>
      have := decidableAllStandFree (some c) (context.step c) rest
      decidable_of_iff _ AllStandFree.cons_iff.symm

/-- Behind a placeholder that stands free the bound text leaves its bind alone, too. -/
theorem StandsFree.endsBind_bindFrom {previous : Option Char} {behind : List Char}
    (free : StandsFree previous behind) (context : Context) (index : Nat) :
    endsBind (bindFrom context index behind) = true := by
  have ended := free.ended
  simp only [endsBind, Bool.and_eq_true, Bool.not_eq_true', decide_eq_true_eq] at ended ⊢
  refine ⟨startsWord_bindFrom_of_not_startsWord ended.1, ?_⟩
  rw [Ne, head?_bindFrom_eq_colon]
  cases behind with
  | nil => simp [startsBareColon]
  | cons c rest =>
      have notPlaceholder : c ≠ '?' := fun same => free.notBefore (congrArg some same)
      have notColon : c ≠ ':' := fun same => ended.2 (congrArg some same)
      simp [startsBareColon, notPlaceholder, notColon]

/-- Where all placeholders stand free, the names that are found are those of their positions. -/
theorem bindNamesAfter_bindFrom_of_free {previous : Option Char} {context : Context}
    {cs : List Char} (index : Nat) (free : AllStandFree previous context cs) :
    bindNamesAfter previous (bindFrom context index cs) =
      Layout.bindNamesFrom index (placeholdersIn context cs) := by
  induction cs generalizing previous context index with
  | nil => rfl
  | cons c rest ih =>
      obtain ⟨first, later⟩ := AllStandFree.cons_iff.mp free
      by_cases placeholder : context = .plain ∧ c = '?'
      · have stands := first placeholder
        obtain ⟨rfl, rfl⟩ := placeholder
        rw [bindFrom, if_pos (by decide), List.cons_append,
          bindNamesAfter_bind stands.allowed (bindName_ne_nil index)
            (fun c member => isWord_of_mem_bindName member)
            (stands.endsBind_bindFrom .plain (index + 1)),
          ih (index + 1) later.behind_placeholder, placeholdersIn_placeholder]
        rfl
      · rw [bindNamesAfter_bindFrom_cons previous index rest placeholder, ih index later,
          placeholdersIn_cons rest placeholder]

/-! ## Binds of a statement -/

theorem map_fst_nameParameters (index : Nat) (parameters : List Value) :
    (nameParameters index parameters).map (·.1) =
      (List.range' index parameters.length).map bindName := by
  induction parameters generalizing index with
  | nil => rfl
  | cons v rest ih => rw [nameParameters, List.map_cons, ih]; rfl

/-- The binds of a bound statement are named for the positions of its placeholders. -/
theorem map_fst_binds_of_eq_ok {sql : String} {parameters : Value} {bound : BoundStatement}
    (binds : bindPositional sql parameters = .ok bound) :
    bound.binds.map (·.1) = (List.range (placeholderCount sql)).map bindName := by
  simp only [bindPositional, Value.size] at binds
  cases listed : parameters.items? with
  | none => rw [listed] at binds; cases binds
  | some items =>
      rw [listed] at binds
      dsimp only at binds
      split at binds
      next counted =>
        cases binds
        rw [counted, List.range_eq_range']
        exact map_fst_nameParameters 0 items
      next => cases binds

/-- The names that are found in the text of a bound statement are the words behind the colons that
start a bind. Each of these colons was put there for a placeholder; and if all placeholders stand
free, the names found are those of the binds, one for each position. -/
theorem found_binds_are_inserted {sql : String} {parameters : Value} {bound : BoundStatement}
    (binds : bindPositional sql parameters = .ok bound) :
    (∀ name, name ∈ bindNames bound.text ↔ ∃ front rest,
      bound.text.toList = front ++ ':' :: rest ∧ StartsBind front rest ∧
        name = .ofList (word rest)) ∧
    (∀ front rest, bound.text.toList = front ++ ':' :: rest → StartsBind front rest →
      IsInserted .plain 0 sql.toList front rest) ∧
    (AllStandFree none .plain sql.toList →
      bindNames bound.text = bound.binds.map (·.1) ∧
        bindNames bound.text = (List.range (placeholderCount sql)).map bindName) := by
  have text : bound.text.toList = bindFrom .plain 0 sql.toList := by
    rw [bindPositional_eq_ok binds, toList_boundText]
  refine ⟨fun name => ?_, fun front rest split starts => ?_, fun free => ?_⟩
  · simp only [bindNames, List.mem_map, mem_bindNamesAfter_iff, Option.or_none]
    constructor
    · rintro ⟨_, ⟨front, rest, split, allowed, named, ended, rfl⟩, rfl⟩
      exact ⟨front, rest, split, ⟨allowed, named, ended⟩, rfl⟩
    · rintro ⟨front, rest, split, starts, rfl⟩
      exact ⟨_, ⟨front, rest, split, starts.allowed, starts.named, starts.ended, rfl⟩, rfl⟩
  · apply isInserted_of_bindFrom (text.symm.trans split) starts.named
    intro last
    have allowed := starts.allowed
    rw [last] at allowed
    cases allowed
  · have found : bindNames bound.text = (List.range (placeholderCount sql)).map bindName := by
      rw [bindNames, text, bindNamesAfter_bindFrom_of_free 0 free, Layout.bindNamesFrom,
        List.map_map, List.range_eq_range']
      apply List.map_congr_left
      intro position _
      exact String.ofList_toList
    exact ⟨found.trans (map_fst_binds_of_eq_ok binds).symm, found⟩

/-- Doubled colons, a time and a question mark in a literal, and a bind that was there before add
nothing to the two binds that are found. -/
theorem found_binds_are_inserted_times :
    ∃ bound, bindPositional "SELECT x::y, '10:20?' WHERE a=? AND b=:c AND d>(?)"
        (.tuple [.int 5, .int 6]) = .ok bound ∧
      bindNames bound.text = ["p0", "p1"] ∧ bound.binds.map (·.1) = ["p0", "p1"] := by
  have binds : bindPositional "SELECT x::y, '10:20?' WHERE a=? AND b=:c AND d>(?)"
      (.tuple [.int 5, .int 6]) =
        .ok ⟨"SELECT x:\\:y, '10\\:20?' WHERE a=:p0 AND b=\\:c AND d>(:p1)",
          [("p0", .int 5), ("p1", .int 6)]⟩ := rfl
  obtain ⟨_, _, free⟩ := found_binds_are_inserted binds
  obtain ⟨found, _⟩ := free (by decide)
  exact ⟨_, binds, found, rfl⟩

end RowMapper.Sql
