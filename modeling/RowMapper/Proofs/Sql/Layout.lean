import RowMapper.Proofs.Sql.BoundText

/-!
# Layouts of statements

A layout is a statement in parts: texts, and places that take the value for a column. It says which
value belongs to which placeholder, which the characters of a statement do not. When the parts fit
together, binding numbers the places in their order and leaves the texts as they are, and the names
found in the bound text are those of the places.
-/

namespace RowMapper.Sql

/-- A part of a statement: a text, or the place of a value for a column. -/
inductive Part where
  | text (s : String)
  | place (column : String) (v : Value)

/-- A statement in parts. -/
abbrev Layout := List Part

/-- A text with its question marks replaced, the one at each position by the bind of that
position. -/
def numberMarks (index : Nat) : List Char → List Char
  | [] => []
  | c :: rest =>
      if c = '?' then ':' :: ((bindName index).toList ++ numberMarks (index + 1) rest)
      else c :: numberMarks index rest

namespace Layout

/-- The characters of the statement, with a placeholder at every place. -/
def chars : Layout → List Char
  | [] => []
  | .text s :: rest => s.toList ++ chars rest
  | .place _ _ :: rest => '?' :: chars rest

/-- The characters of the statement, with a numbered bind at every place. -/
def boundChars (index : Nat) : Layout → List Char
  | [] => []
  | .text s :: rest => s.toList ++ boundChars index rest
  | .place _ _ :: rest => ':' :: ((bindName index).toList ++ boundChars (index + 1) rest)

/-- The values in order of their places. -/
def values : Layout → List Value
  | [] => []
  | .text _ :: rest => values rest
  | .place _ v :: rest => v :: values rest

/-- The last character of a bound text, given the one before it. The name of a bind ends in a word
character, for which one stands here. -/
def lastChar (previous : Option Char) : Layout → Option Char
  | [] => previous
  | .text s :: rest => lastChar s.toList.getLast? rest
  | .place _ _ :: rest => lastChar (some 'p') rest

/-- Whether parts fit together behind a character. Texts are plain and not empty, and where a word
character precedes, as it does behind a place, no word and no place follows at once. -/
def Fits (previous : Option Char) : Layout → Prop
  | [] => True
  | .text s :: rest =>
      s ≠ "" ∧ IsPlain s.toList ∧ (allowsBind previous = true ∨ startsWord s.toList = false) ∧
        Fits s.toList.getLast? rest
  | .place _ _ :: rest => allowsBind previous = true ∧ Fits (some 'p') rest

@[simp] theorem chars_append (front back : Layout) :
    (front ++ back).chars = front.chars ++ back.chars := by
  induction front with
  | nil => rfl
  | cons part rest ih => cases part <;> simp [chars, ih]

@[simp] theorem values_append (front back : Layout) :
    (front ++ back).values = front.values ++ back.values := by
  induction front with
  | nil => rfl
  | cons part rest ih => cases part <;> simp [values, ih]

theorem fits_append {previous : Option Char} {front back : Layout} :
    Fits previous (front ++ back) ↔ Fits previous front ∧ Fits (lastChar previous front) back := by
  induction front generalizing previous with
  | nil => simp [Fits, lastChar]
  | cons part rest ih => cases part <;> simp [Fits, lastChar, ih, and_assoc]

/-! ## Layouts with a separator -/

/-- Layouts with a text between each and the next. -/
def separated (separator : String) (layouts : List Layout) : Layout :=
  List.intercalate [.text separator] layouts

theorem separated_cons_cons (separator : String) (layout next : Layout) (rest : List Layout) :
    separated separator (layout :: next :: rest) =
      layout ++ (.text separator :: separated separator (next :: rest)) := by
  rw [separated, List.intercalate_cons_of_ne_nil (List.cons_ne_nil next rest)]
  simp [separated]

theorem chars_separated (separator : String) (layouts : List Layout) :
    (separated separator layouts).chars = separator.toList.intercalate (layouts.map chars) := by
  induction layouts with
  | nil => rfl
  | cons layout rest ih =>
      cases rest with
      | nil => simp [separated]
      | cons next others =>
          rw [separated_cons_cons, chars_append, chars, ih, List.map_cons (l := next :: others),
            List.intercalate_cons_of_ne_nil (by simp)]
          simp

theorem values_separated (separator : String) (layouts : List Layout) :
    (separated separator layouts).values = layouts.flatMap values := by
  induction layouts with
  | nil => rfl
  | cons layout rest ih =>
      cases rest with
      | nil => simp [separated]
      | cons next others =>
          rw [separated_cons_cons, values_append, values, ih, List.flatMap_cons (x := layout)]

/-- What a text has to be like to separate layouts that start with a place. -/
structure Separates (separator : String) : Prop where
  nonempty : separator ≠ ""
  plain : IsPlain separator.toList
  starts : startsWord separator.toList = false
  ends : allowsBind separator.toList.getLast? = true

/-- Layouts that fit wherever a bind may stand fit together with a separator between them. -/
theorem fits_separated {separator : String} (separates : Separates separator)
    {layouts : List Layout}
    (each : ∀ layout ∈ layouts, ∀ previous, allowsBind previous = true → Fits previous layout)
    {previous : Option Char} (allowed : allowsBind previous = true) :
    Fits previous (separated separator layouts) := by
  induction layouts generalizing previous with
  | nil => trivial
  | cons layout rest ih =>
      have head := each layout List.mem_cons_self previous allowed
      cases rest with
      | nil => simpa [separated] using head
      | cons next others =>
          rw [separated_cons_cons, fits_append]
          refine ⟨head, separates.nonempty, separates.plain, .inr separates.starts, ?_⟩
          exact ih (fun other member => each other (List.mem_cons_of_mem layout member))
            separates.ends

/-! ## Binding along a layout -/

/-- Binding puts a numbered bind at every place and leaves the texts as they are. -/
theorem bindFrom_chars {layout : Layout} {previous : Option Char} (index : Nat)
    (fits : layout.Fits previous) :
    bindFrom .plain index layout.chars = layout.boundChars index := by
  induction layout generalizing previous index with
  | nil => rfl
  | cons part rest ih =>
      cases part with
      | text s =>
          obtain ⟨_, plain, _, restFits⟩ := fits
          rw [chars, bindFrom_plain_append _ _ plain, ih index restFits, boundChars]
      | place column v =>
          rw [chars, boundChars, ← ih (index + 1) fits.2]
          rfl

/-- Text without question marks stays as it is when they are numbered. -/
theorem numberMarks_append {text : List Char} (index : Nat) (rest : List Char)
    (unmarked : ∀ c ∈ text, c ≠ '?') :
    numberMarks index (text ++ rest) = text ++ numberMarks index rest := by
  induction text with
  | nil => rfl
  | cons c others ih =>
      rw [List.cons_append, numberMarks, if_neg (unmarked c List.mem_cons_self),
        ih fun d member => unmarked d (List.mem_cons_of_mem c member)]
      rfl

/-- Numbering the question marks of the statement comes to the same. -/
theorem numberMarks_chars {layout : Layout} {previous : Option Char} (index : Nat)
    (fits : layout.Fits previous) :
    numberMarks index layout.chars = layout.boundChars index := by
  induction layout generalizing previous index with
  | nil => rfl
  | cons part rest ih =>
      cases part with
      | text s =>
          obtain ⟨_, plain, _, restFits⟩ := fits
          rw [chars, numberMarks_append _ _ fun c member => (plain.unmarked c member).1,
            ih index restFits, boundChars]
      | place column v =>
          rw [chars, numberMarks, if_pos rfl, ih (index + 1) fits.2, boundChars]

/-- A statement has as many placeholders as its layout has places. -/
theorem length_pieces_chars {layout : Layout} {previous : Option Char}
    (fits : layout.Fits previous) :
    (pieces .plain layout.chars).length = layout.values.length + 1 := by
  induction layout generalizing previous with
  | nil => rfl
  | cons part rest ih =>
      cases part with
      | text s =>
          obtain ⟨_, plain, _, restFits⟩ := fits
          rw [chars, length_pieces_plain_append _ plain, ih restFits, values]
      | place column v =>
          rw [chars, length_pieces_placeholder, ih fits.2, values, List.length_cons]

/-- What fits behind a place leaves the name of its bind alone. -/
theorem endsBind_boundChars {layout : Layout} (index : Nat) (fits : layout.Fits (some 'p')) :
    endsBind (layout.boundChars index) = true := by
  have spoils : allowsBind (some 'p') = false := by decide
  cases layout with
  | nil => rfl
  | cons part rest =>
      cases part with
      | text s =>
          obtain ⟨nonempty, plain, joins, _⟩ := fits
          have starts := joins.resolve_left (by simp [spoils])
          cases found : s.toList with
          | nil => exact absurd (String.toList_eq_nil_iff.mp found) nonempty
          | cons c others =>
              have unmarked := plain.unmarked c (by rw [found]; exact List.mem_cons_self)
              rw [found] at starts
              have notWord : Text.isWord c = false := starts
              simp [boundChars, found, endsBind, startsWord, notWord, unmarked.2]
      | place column v => exact absurd fits.1 (by simp [spoils])

/-- Of the character before a text it only matters whether it allows a bind. -/
theorem bindNamesAfter_congr {previous other : Option Char} (cs : List Char)
    (same : allowsBind previous = allowsBind other) :
    bindNamesAfter previous cs = bindNamesAfter other cs := by
  cases cs with
  | nil => rfl
  | cons c rest => rw [bindNamesAfter, bindNamesAfter, same]

theorem allowsBind_getLast?_bindName (index : Nat) :
    allowsBind (bindName index).toList.getLast? = false := by
  cases found : (bindName index).toList.getLast? with
  | none => exact absurd (List.getLast?_eq_none_iff.mp found) (bindName_ne_nil index)
  | some c => simp [allowsBind, isWord_of_mem_bindName (List.mem_of_getLast? found)]

/-- The names of binds at consecutive positions. -/
def bindNamesFrom (index count : Nat) : List (List Char) :=
  (List.range' index count).map fun position => (bindName position).toList

/-- The names found in a bound text are those of its places, in order. -/
theorem bindNamesAfter_boundChars {layout : Layout} {previous : Option Char} (index : Nat)
    (fits : layout.Fits previous) :
    bindNamesAfter previous (layout.boundChars index) =
      bindNamesFrom index layout.values.length := by
  induction layout generalizing previous index with
  | nil => rfl
  | cons part rest ih =>
      cases part with
      | text s =>
          obtain ⟨nonempty, plain, _, restFits⟩ := fits
          rw [boundChars, bindNamesAfter_append _ _ fun c member => (plain.unmarked c member).2]
          cases found : s.toList.getLast? with
          | none =>
              exact absurd (String.toList_eq_nil_iff.mp (List.getLast?_eq_none_iff.mp found))
                nonempty
          | some c =>
              rw [found] at restFits
              exact ih index restFits
      | place column v =>
          obtain ⟨allowed, restFits⟩ := fits
          -- The name of a bind ends in a digit, for which the layout has another word character.
          have ends := endsBind_boundChars (index + 1) restFits
          have same : allowsBind (bindName index).toList.getLast? = allowsBind (some 'p') := by
            rw [allowsBind_getLast?_bindName]
            decide
          rw [boundChars, bindNamesAfter_bind allowed (bindName_ne_nil index)
            (fun c member => isWord_of_mem_bindName member) ends, bindNamesAfter_congr _ same,
            ih (index + 1) restFits]
          rfl

end Layout

/-! ## Statements along a layout -/

/-- What binding comes to for a statement that is written along a layout: every value stands at
its own place, as many placeholders are found as there are parameters, each placeholder becomes
the bind of its position and nothing else of the text changes, each bind has the parameter of its
position, and the layer below finds these binds and no others. -/
structure BindsAlong (layout : Layout) (sql : String) (parameters : List Value) : Prop where
  written : sql.toList = layout.chars
  placed : parameters = layout.values
  counted : placeholderCount sql = parameters.length
  bound : bindPositional sql (.tuple parameters) =
    .ok ⟨.ofList (numberMarks 0 sql.toList),
      parameters.mapIdx fun index v => (bindName index, v)⟩
  found : bindNames (.ofList (numberMarks 0 sql.toList)) =
    (List.range parameters.length).map bindName

theorem nameParameters_eq_mapIdx (index : Nat) (parameters : List Value) :
    nameParameters index parameters =
      parameters.mapIdx fun position v => (bindName (index + position), v) := by
  induction parameters generalizing index with
  | nil => rfl
  | cons v rest ih =>
      rw [nameParameters, ih, List.mapIdx_cons]
      simp [Nat.add_assoc, Nat.add_comm 1]

/-- A statement that is written along a layout whose parts fit together is bound along it. -/
theorem bindsAlong_of_fits {layout : Layout} {sql : String} {parameters : List Value}
    (fits : layout.Fits none) (written : sql.toList = layout.chars)
    (placed : parameters = layout.values) : BindsAlong layout sql parameters := by
  have counted : placeholderCount sql = parameters.length := by
    rw [placeholderCount, written, Layout.length_pieces_chars fits, placed, Nat.add_sub_cancel]
  have numbered : numberMarks 0 sql.toList = layout.boundChars 0 := by
    rw [written, Layout.numberMarks_chars 0 fits]
  refine ⟨written, placed, counted, ?_, ?_⟩
  · have text : boundText sql = .ofList (numberMarks 0 sql.toList) := by
      apply String.toList_inj.mp
      rw [toList_boundText, written, Layout.bindFrom_chars 0 fits, ← written, numbered,
        String.toList_ofList]
    have names : nameParameters 0 parameters =
        parameters.mapIdx fun index v => (bindName index, v) := by
      rw [nameParameters_eq_mapIdx]
      simp only [Nat.zero_add]
    rw [← text, ← names]
    simp [bindPositional, Value.size, Value.items?, counted]
  · rw [numbered, bindNames, String.toList_ofList, Layout.bindNamesAfter_boundChars 0 fits,
      ← placed, Layout.bindNamesFrom, List.range_eq_range', List.map_map]
    apply List.map_congr_left
    intro position _
    exact String.ofList_toList

end RowMapper.Sql
