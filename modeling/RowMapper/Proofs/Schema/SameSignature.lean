import RowMapper.Proofs.Defining
import RowMapper.Proofs.Schema.TableDefinition
import RowMapper.Proofs.Value.SameItem

/-!
# Tables of one signature

Two tables of one signature agree in everything that their definitions are written from, except for
the form of some defaults: a signature compares values, and a definition writes them out. Numbers of
two kinds, zeros of two signs, a text and the field type of that name, and one instant at two
offsets are equal and are not written alike. `Column.WritesApart` is about these, and the statements
that create two tables of one signature are the same text just when no two of their columns write
apart.
-/

namespace RowMapper

open Sql

/-! ## Texts that are read apart -/

/-- A list of texts with separators, as what each further text adds to the first. -/
theorem intercalate_cons_eq_flatMap (separator text : List Char) (others : List (List Char)) :
    separator.intercalate (text :: others) = text ++ others.flatMap (separator ++ ·) := by
  induction others generalizing text with
  | nil => simp
  | cons next others ih =>
      rw [List.intercalate_cons_of_ne_nil (List.cons_ne_nil next others), ih, List.flatMap_cons,
        List.append_assoc, List.append_assoc]

/-- Whether a text is no part of a default: it begins with what can follow one. -/
def EndsDefault (text : List Char) : Prop :=
  ∃ c rest, text = c :: rest ∧ (c = ' ' ∨ c = ',' ∨ c = '\n')

theorem EndsDefault.append_left {front rest : List Char} (begins : front = [] ∨ EndsDefault front)
    (ends : EndsDefault rest) : EndsDefault (front ++ rest) := by
  cases begins with
  | inl empty => rwa [empty]
  | inr given =>
      obtain ⟨c, others, rfl, isEnd⟩ := given
      exact ⟨c, others ++ rest, rfl, isEnd⟩

/-- Whether two defaults stand for different statements, whatever follows them. -/
def ReadApart (x y : List Char) : Prop :=
  ∀ rest other, EndsDefault rest → EndsDefault other → x ++ rest ≠ y ++ other

/-- Where two texts of one class of characters end, the texts they begin end, too. -/
theorem eq_of_append_eq_append {p : Char → Bool} {x y rest other : List Char} {c d : Char}
    (ofFirst : ∀ a ∈ x, p a = true) (ofSecond : ∀ a ∈ y, p a = true) (firstEnds : p c = false)
    (secondEnds : p d = false) (same : x ++ c :: rest = y ++ d :: other) : x = y := by
  have taken := congrArg (List.takeWhile p) same
  rwa [List.takeWhile_append_of_pos ofFirst, List.takeWhile_append_of_pos ofSecond,
    List.takeWhile_cons_of_neg (by simp [firstEnds]),
    List.takeWhile_cons_of_neg (by simp [secondEnds]), List.append_nil, List.append_nil] at taken

theorem ReadApart.symm {x y : List Char} (apart : ReadApart x y) : ReadApart y x := by
  intro rest other restEnds otherEnds same
  exact apart other rest otherEnds restEnds same.symm

/-- Whether a character can stand in the text of a number. -/
def isNumberTextChar (c : Char) : Bool :=
  isNumberChar c || c.isLower

theorem readApart_of_number {x y : String} (ofFirst : ∀ c ∈ x.toList, isNumberTextChar c = true)
    (ofSecond : ∀ c ∈ y.toList, isNumberTextChar c = true) (differ : x ≠ y) :
    ReadApart x.toList y.toList := by
  have ends {c : Char} (isEnd : c = ' ' ∨ c = ',' ∨ c = '\n') : isNumberTextChar c = false := by
    rcases isEnd with rfl | rfl | rfl <;> decide
  intro rest other restEnds otherEnds same
  obtain ⟨c, rest, rfl, cEnds⟩ := restEnds
  obtain ⟨d, other, rfl, dEnds⟩ := otherEnds
  exact differ (String.toList_inj.mp
    (eq_of_append_eq_append ofFirst ofSecond (ends cEnds) (ends dEnds) same))

/-- Whether a character stands in a literal as it is. -/
def isLiteralChar (c : Char) : Bool :=
  c ≠ '\\' && c ≠ '\''

theorem toList_quoteLiteral_of_unmarked {s : String}
    (unmarked : ∀ c ∈ s.toList, isLiteralChar c = true) :
    (quoteLiteral s).toList = '\'' :: s.toList ++ ['\''] := by
  have kept : s.toList.flatMap escapeLiteralChar = s.toList.flatMap fun c => [c] := by
    apply List.flatMap_congr
    intro c member
    have inside := unmarked c member
    simp only [isLiteralChar, Bool.and_eq_true, decide_eq_true_eq] at inside
    simp [escapeLiteralChar, inside]
  rw [toList_quoteLiteral, quoteLiteralChars, kept, List.flatMap_singleton']

theorem readApart_of_literal {s t : String} (first : ∀ c ∈ s.toList, isLiteralChar c = true)
    (second : ∀ c ∈ t.toList, isLiteralChar c = true) (differ : s ≠ t) :
    ReadApart (quoteLiteral s).toList (quoteLiteral t).toList := by
  intro rest other _ _ same
  rw [toList_quoteLiteral_of_unmarked first, toList_quoteLiteral_of_unmarked second] at same
  simp only [List.cons_append, List.append_assoc, List.cons.injEq, true_and, List.nil_append]
    at same
  exact differ (String.toList_inj.mp
    (eq_of_append_eq_append first second (by decide) (by decide) same))

/-! ## Numbers and times in definitions -/

theorem isNumberTextChar_of_isNumberChar {c : Char} (number : isNumberChar c = true) :
    isNumberTextChar c = true := by
  rw [isNumberTextChar, number, Bool.true_or]

theorem isDigit_or_minus_of_mem_decimalText {n : Int} {c : Char}
    (member : c ∈ (decimalText n).toList) : c.isDigit = true ∨ c = '-' := by
  rw [decimalText] at member
  split at member
  · rw [String.toList_append, List.mem_append] at member
    cases member with
    | inl sign => exact .inr (List.mem_singleton.mp sign)
    | inr digit => exact .inl (isDigit_of_mem_repr digit)
  · exact .inl (isDigit_of_mem_repr member)

theorem isNumberTextChar_decimalText (n : Int) :
    ∀ c ∈ (decimalText n).toList, isNumberTextChar c = true := by
  intro c member
  apply isNumberTextChar_of_isNumberChar
  rcases isDigit_or_minus_of_mem_decimalText member with digit | rfl
  · simp [isNumberChar, digit]
  · decide

namespace Binary64

theorem isNumberTextChar_text (x : Binary64) :
    ∀ c ∈ x.text.toList, isNumberTextChar c = true := by
  cases x with
  | nan mark =>
      change ∀ c ∈ "nan".toList, isNumberTextChar c = true
      exact List.all_eq_true.mp rfl
  | infinite negative => cases negative <;> exact List.all_eq_true.mp rfl
  | finite negative mantissa exponent =>
      intro c member
      exact isNumberTextChar_of_isNumberChar (isNumberChar_finite _ _ _ c member)

/-- The text of a binary fraction has a mark that the text of an integer does not have. -/
theorem exists_mark_text (x : Binary64) : ∃ c ∈ x.text.toList, c = '.' ∨ c = 'e' ∨ c = 'n' := by
  cases x with
  | nan mark =>
      change ∃ c ∈ "nan".toList, _
      exact ⟨'n', by decide, by decide⟩
  | infinite negative => exact ⟨'n', by cases negative <;> decide, by decide⟩
  | finite negative mantissa exponent =>
      have rendered (layout : Decimal.Layout) (decimal : Decimal) :
          '.' ∈ decimal.render layout ∨ 'e' ∈ decimal.render layout := by
        simp only [Decimal.render]
        split
        · left
          split
          · simp
          · split <;> simp
        · right
          simp
      rw [text, String.toList_ofList]
      have inUnsigned : ∃ c ∈ if mantissa = 0 then ['0', '.', '0']
          else (Decimal.shortest mantissa exponent).render .standard,
          c = '.' ∨ c = 'e' ∨ c = 'n' := by
        split
        · exact ⟨'.', by decide, by decide⟩
        · cases rendered .standard (Decimal.shortest mantissa exponent) with
          | inl point => exact ⟨'.', point, by decide⟩
          | inr power => exact ⟨'e', power, by decide⟩
      obtain ⟨c, member, mark⟩ := inUnsigned
      refine ⟨c, ?_, mark⟩
      split
      · exact List.mem_cons_of_mem '-' member
      · exact member

/-- No binary fraction is written like an integer. -/
theorem text_ne_decimalText (x : Binary64) (n : Int) : x.text ≠ decimalText n := by
  intro same
  obtain ⟨c, member, mark⟩ := x.exists_mark_text
  rw [same] at member
  rcases isDigit_or_minus_of_mem_decimalText member with digit | rfl
  · rcases mark with rfl | rfl | rfl <;> cases digit
  · revert mark
    decide

end Binary64

theorem isLiteralChar_of_isDigit {c : Char} (digit : c.isDigit = true) :
    isLiteralChar c = true := by
  have notMark {mark : Char} (other : mark.isDigit = false) : c ≠ mark := by
    intro same
    rw [same, other] at digit
    cases digit
  simp [isLiteralChar, notMark (show Char.isDigit '\\' = false from rfl),
    notMark (show Char.isDigit '\'' = false from rfl)]

theorem Timestamp.isLiteralChar_literalText (t : Timestamp) :
    ∀ c ∈ t.literalText.toList, isLiteralChar c = true := by
  have ofRepr (n : Nat) : ∀ c ∈ (Nat.repr n).toList, isLiteralChar c = true :=
    fun c member => isLiteralChar_of_isDigit (isDigit_of_mem_repr member)
  have ofPadded (n : Nat) : ∀ c ∈ (padded 2 n).toList, isLiteralChar c = true := by
    simp only [padded, String.toList_ofList, List.forall_mem_append]
    refine ⟨fun c zero => ?_, ofRepr n⟩
    rw [(List.mem_replicate.mp zero).2]
    rfl
  have mark {text : String} (kept : text.toList.all isLiteralChar = true) :
      ∀ c ∈ text.toList, isLiteralChar c = true :=
    List.all_eq_true.mp kept
  simp only [literalText, String.toList_append, List.forall_mem_append]
  exact ⟨⟨⟨⟨⟨⟨⟨⟨⟨⟨ofRepr _, mark rfl⟩, ofPadded _⟩, mark rfl⟩, ofPadded _⟩, mark rfl⟩,
    ofPadded _⟩, mark rfl⟩, ofPadded _⟩, mark rfl⟩, ofPadded _⟩

/-! ## Columns that were declared alike -/

namespace Column

/-- Whether two columns were declared alike, as far as their definitions are written from it. -/
structure DeclaredAlike (environment : Environment) (c d : Column) : Prop where
  name_eq : c.name = d.name
  type_eq : c.type = d.type
  databaseType : c.databaseType.sameItem d.databaseType = true
  primaryKey : c.primaryKey.sameItem d.primaryKey = true
  autoIncrement : c.autoIncrement.sameItem d.autoIncrement = true
  default : (environment.freeze c.default).agrees (environment.freeze d.default) = true
  nullable : c.nullable.sameItem d.nullable = true
  index : c.index.sameItem d.index = true
  unique : c.unique.sameItem d.unique = true
  comment : c.comment.sameItem d.comment = true

theorem declaredAlike_of_signature {environment : Environment} {c d : Column}
    {first second : ColumnSignature} (ofFirst : c.signature environment = .ok first)
    (ofSecond : d.signature environment = .ok second) (agree : first.agrees second = true) :
    DeclaredAlike environment c d := by
  simp only [signature] at ofFirst ofSecond
  cases items : c.validators.items with
  | error fault => rw [items] at ofFirst; cases ofFirst
  | ok ours =>
      cases others : d.validators.items with
      | error fault => rw [others] at ofSecond; cases ofSecond
      | ok theirs =>
          rw [items] at ofFirst
          rw [others] at ofSecond
          cases ofFirst
          cases ofSecond
          simp only [ColumnSignature.agrees, Bool.and_eq_true, beq_iff_eq] at agree
          obtain ⟨⟨⟨⟨⟨⟨⟨⟨⟨⟨⟨name, type⟩, databaseType⟩, primaryKey⟩, autoIncrement⟩, _⟩, default⟩,
            nullable⟩, index⟩, unique⟩, comment⟩, _⟩ := agree
          exact ⟨name, type, databaseType, primaryKey, autoIncrement, default, nullable, index,
            unique, comment⟩

theorem signatures_cons_eq_ok {environment : Environment} {c : Column} {rest : List Column}
    {found : List ColumnSignature} (ok : signatures environment (c :: rest) = .ok found) :
    ∃ first others, c.signature environment = .ok first ∧
      signatures environment rest = .ok others ∧ found = first :: others := by
  rw [signatures] at ok
  cases ofFirst : c.signature environment with
  | error fault => rw [ofFirst] at ok; cases ok
  | ok first =>
      cases ofRest : signatures environment rest with
      | error fault => rw [ofFirst, ofRest] at ok; cases ok
      | ok others =>
          rw [ofFirst, ofRest] at ok
          cases ok
          exact ⟨first, others, rfl, rfl, rfl⟩

theorem forall₂_declaredAlike {environment : Environment} {cs ds : List Column}
    {firsts seconds : List ColumnSignature} (ofFirsts : signatures environment cs = .ok firsts)
    (ofSeconds : signatures environment ds = .ok seconds)
    (agree : ColumnSignature.allAgree firsts seconds = true) :
    List.Forall₂ (DeclaredAlike environment) cs ds := by
  induction cs generalizing ds firsts seconds with
  | nil =>
      cases ofFirsts
      cases ds with
      | nil => exact .nil
      | cons d ds =>
          obtain ⟨second, others, _, _, rfl⟩ := signatures_cons_eq_ok ofSeconds
          cases agree
  | cons c cs ih =>
      obtain ⟨first, others, ofFirst, ofOthers, rfl⟩ := signatures_cons_eq_ok ofFirsts
      cases ds with
      | nil =>
          cases ofSeconds
          cases agree
      | cons d ds =>
          obtain ⟨second, rest, ofSecond, ofRest, rfl⟩ := signatures_cons_eq_ok ofSeconds
          rw [ColumnSignature.allAgree, Bool.and_eq_true] at agree
          exact .cons (declaredAlike_of_signature ofFirst ofSecond agree.1)
            (ih ofOthers ofRest agree.2)

variable {environment : Environment} {c d : Column} {cs ds : List Column}

namespace DeclaredAlike

theorem isPrimaryKey_eq (alike : DeclaredAlike environment c d) :
    c.isPrimaryKey = d.isPrimaryKey :=
  Value.truthy_of_sameItem alike.primaryKey

theorem indexDefinition?_eq (alike : DeclaredAlike environment c d) :
    c.indexDefinition? = d.indexDefinition? := by
  simp only [indexDefinition?, alike.isPrimaryKey_eq, alike.name_eq,
    Value.truthy_of_sameItem alike.unique, Value.truthy_of_sameItem alike.index]

theorem physicalType_text?_eq (alike : DeclaredAlike environment c d) :
    c.physicalType.text? = d.physicalType.text? := by
  simp only [physicalType, Value.truthy_of_sameItem alike.databaseType, alike.type_eq]
  split
  · exact Value.text?_of_sameItem alike.databaseType
  · rfl

theorem commentSql?_eq (alike : DeclaredAlike environment c d) (commented : c.HasTextComment) :
    c.commentSql? = d.commentSql? := by
  have text := Value.text?_of_sameItem alike.comment
  simp only [commentSql?, Value.truthy_of_sameItem alike.comment]
  split
  next present =>
    cases commented with
    | inl isNull =>
        rw [← Value.truthy_of_sameItem alike.comment, isNull] at present
        cases present
    | inr isText =>
        obtain ⟨s, isText⟩ := Option.isSome_iff_exists.mp isText
        simp only [Value.asLiteral, Value.escapable, ← text, isText]
  next => rfl

end DeclaredAlike

/-- Whether two defaults that can be equal are written in two ways: a text and a field type, numbers
of two kinds or with two texts, and times whose local times differ. -/
def writesApart (c d : Column) : Bool :=
  match c.type, c.default, d.default with
  | .string, .text _, .fieldType _ | .string, .fieldType _, .text _ => true
  | .float, .int _, .float _ | .float, .float _, .int _ => true
  | .float, .float x, .float y => x.text ≠ y.text
  | .datetime, .timestamp t, .timestamp u => t.literalText ≠ u.literalText
  | _, _, _ => false

/-- Two defaults that agree are routines, or the same marker or null, or equal plain data. -/
theorem DeclaredAlike.default_cases (alike : DeclaredAlike environment c d) :
    (c.default.isCallable = true ∧ d.default.isCallable = true) ∨
      (c.default = d.default ∧ c.default.isPlainData = false) ∨
      (c.default.sameItem d.default = true ∧ c.default.isPlainData = true ∧
        d.default.isPlainData = true) := by
  have callable := Value.isCallable_of_agrees alike.default
  rw [Value.isCallable_freeze, Value.isCallable_freeze] at callable
  cases routine : c.default.isCallable with
  | true => exact .inl ⟨rfl, by rw [← callable, routine]⟩
  | false =>
      have same := alike.default
      rw [Value.freeze_of_not_callable routine, Value.agrees_of_not_callable routine,
        Value.freeze_of_not_callable (callable.symm.trans routine)] at same
      cases plain : c.default.isPlainData with
      | true => exact .inr (.inr ⟨same, rfl, Value.isPlainData_of_sameItem same plain⟩)
      | false => exact .inr (.inl ⟨Value.eq_of_sameItem same routine plain, rfl⟩)

/-- The default of an accepted column, if it is plain data, is of the kind of its type. -/
theorem default_of_accepted (accepted : c.verdict = .ok) (plain : c.default.isPlainData = true) :
    match c.type with
    | .string | .text => ∃ s, c.default.text? = some s
    | .integer | .bigint | .timestamp => ∃ n, c.default = .int n
    | .float => (∃ n, c.default = .int n) ∨ ∃ x, c.default = .float x
    | .boolean => ∃ b, c.default = .bool b
    | .datetime => ∃ t, c.default = .timestamp t
    | .json => True := by
  have supported : c.hasSupportedDefault ⟨c.type, true⟩ = true := by
    rw [verdict, ColumnTraits.verdict] at accepted
    split at accepted
    next => cases accepted
    next =>
      split at accepted
      next => cases accepted
      next supported => simpa using supported
  rw [ColumnTraits.hasSupportedDefault] at supported
  generalize c.default = v at plain supported
  generalize c.type = type at supported
  cases v with
  | null => cases plain
  | unset => cases plain
  | currentTime => cases plain
  | routine mark body arguments => cases plain
  | text s => cases type <;> first | exact ⟨s, rfl⟩ | trivial
  | fieldType t => cases type <;> first | exact ⟨t.name, rfl⟩ | trivial
  | int n => cases type <;> first | exact ⟨n, rfl⟩ | exact .inl ⟨n, rfl⟩ | trivial
  | float x => cases type <;> first | exact .inr ⟨x, rfl⟩ | trivial
  | bool b => cases type <;> first | exact ⟨b, rfl⟩ | trivial
  | timestamp t => cases type <;> first | exact ⟨t, rfl⟩ | trivial
  | _ => cases type <;> trivial

theorem literal_readApart (type : FieldType) :
    ReadApart (quoteLiteral type.name).toList
      (quoteLiteral (Value.fieldType type).display).toList := by
  apply readApart_of_literal
  · cases type <;> exact List.all_eq_true.mp rfl
  · cases type <;> exact List.all_eq_true.mp rfl
  · cases type <;> decide

/-- Whether the defaults of two columns stand alike in their definitions, unless they write apart:
then they are read apart. -/
def StandAlike (c d : Column) : Prop :=
  (c.writesApart d = false ∧ c.defaultSql? = d.defaultSql?) ∨
    (c.writesApart d = true ∧ ∃ x y, c.defaultSql? = some x ∧ d.defaultSql? = some y ∧
      ReadApart x.toList y.toList)

theorem DeclaredAlike.standAlike_of_same (alike : DeclaredAlike environment c d)
    (same : c.default = d.default) : StandAlike c d := by
  left
  constructor
  · rw [writesApart, same]
    cases c.type <;> cases d.default <;> simp
  · rw [defaultSql?, defaultSql?, same, alike.type_eq, Value.truthy_of_sameItem alike.nullable]

theorem standAlike_of_isCallable (first : c.default.isCallable = true)
    (second : d.default.isCallable = true) : StandAlike c d := by
  left
  rw [writesApart, defaultSql?, defaultSql?]
  generalize c.default = v at first
  generalize d.default = w at second
  cases v with
  | routine mark body arguments =>
      cases w with
      | routine mark' body' arguments' => cases c.type <;> exact ⟨rfl, rfl⟩
      | _ => cases second
  | _ => cases first

/-- A text and a field type can be equal, and are not displayed alike. -/
theorem standAlike_of_string (first : c.type = .string) (second : d.type = .string) {s t : String}
    (ofFirst : c.default.text? = some s) (ofSecond : d.default.text? = some t) (same : s = t) :
    StandAlike c d := by
  rw [StandAlike, writesApart, defaultSql?, defaultSql?, first, second]
  generalize c.default = v at ofFirst
  generalize d.default = w at ofSecond
  subst same
  cases v with
  | text s =>
      cases w with
      | text t =>
          cases ofFirst
          cases ofSecond
          exact .inl ⟨rfl, rfl⟩
      | fieldType type =>
          cases ofFirst
          cases ofSecond
          exact .inr ⟨rfl, _, _, rfl, rfl, literal_readApart type⟩
      | _ => cases ofSecond
  | fieldType type =>
      cases w with
      | text t =>
          cases ofFirst
          cases ofSecond
          exact .inr ⟨rfl, _, _, rfl, rfl, (literal_readApart type).symm⟩
      | fieldType other =>
          cases ofFirst
          rw [FieldType.name_injective (Option.some.inj ofSecond)]
          exact .inl ⟨rfl, rfl⟩
      | _ => cases ofSecond
  | _ => cases ofFirst

/-- A default that is written as a number is read apart from any other number. -/
theorem standAlike_of_float (alike : DeclaredAlike environment c d) (type : c.type = .float)
    (ofFirst : (∃ n, c.default = .int n) ∨ ∃ x, c.default = .float x)
    (ofSecond : (∃ n, d.default = .int n) ∨ ∃ x, d.default = .float x)
    (same : c.default.sameItem d.default = true) : StandAlike c d := by
  have other : d.type = .float := alike.type_eq.symm.trans type
  rcases ofFirst with ⟨n, first⟩ | ⟨x, first⟩ <;> rcases ofSecond with ⟨m, second⟩ | ⟨y, second⟩
  · rw [first, second] at same
    apply alike.standAlike_of_same
    rw [first, second, Value.int_eq_of_sameItem same]
  · rw [StandAlike, writesApart, defaultSql?, defaultSql?, type, other, first, second]
    exact .inr ⟨rfl, _, _, rfl, rfl, readApart_of_number (isNumberTextChar_decimalText n)
      y.isNumberTextChar_text (y.text_ne_decimalText n).symm⟩
  · rw [StandAlike, writesApart, defaultSql?, defaultSql?, type, other, first, second]
    exact .inr ⟨rfl, _, _, rfl, rfl, readApart_of_number x.isNumberTextChar_text
      (isNumberTextChar_decimalText m) (x.text_ne_decimalText m)⟩
  · rw [StandAlike, writesApart, defaultSql?, defaultSql?, type, other, first, second]
    by_cases alikeText : x.text = y.text
    · exact .inl ⟨decide_eq_false (not_not_intro alikeText), congrArg some alikeText⟩
    · exact .inr ⟨decide_eq_true alikeText, _, _, rfl, rfl,
        readApart_of_number x.isNumberTextChar_text y.isNumberTextChar_text alikeText⟩

/-- Times that are one instant stand for their local times. -/
theorem standAlike_of_datetime {t u : Timestamp} (first : c.type = .datetime)
    (second : d.type = .datetime) (ofFirst : c.default = .timestamp t)
    (ofSecond : d.default = .timestamp u) : StandAlike c d := by
  rw [StandAlike, writesApart, defaultSql?, defaultSql?, first, second, ofFirst, ofSecond]
  by_cases alikeText : t.literalText = u.literalText
  · refine .inl ⟨decide_eq_false (not_not_intro alikeText), ?_⟩
    exact congrArg (fun text => some (quoteLiteral text)) alikeText
  · exact .inr ⟨decide_eq_true alikeText, _, _, rfl, rfl,
      readApart_of_literal t.isLiteralChar_literalText u.isLiteralChar_literalText alikeText⟩

/-- Columns of long texts and of documents have no default in their definitions, unless it is null
or a marker. -/
theorem standAlike_of_unwritten (type : c.type = .text ∨ c.type = .json)
    (first : c.defaultSql? = none) (second : d.defaultSql? = none) : StandAlike c d := by
  refine .inl ⟨?_, first.trans second.symm⟩
  rw [writesApart]
  cases type with
  | inl text => rw [text]
  | inr json => rw [json]

theorem defaultSql?_of_text {s : String} (type : c.type = .text)
    (text : c.default.text? = some s) : c.defaultSql? = none := by
  rw [defaultSql?, type]
  generalize c.default = v at text
  cases v with
  | text s => rfl
  | fieldType type => rfl
  | _ => cases text

theorem defaultSql?_of_json (type : c.type = .json) (plain : c.default.isPlainData = true) :
    c.defaultSql? = none := by
  rw [defaultSql?, type]
  generalize c.default = v at plain
  cases v <;> first | rfl | cases plain

/-- Defaults that agree come from the same kind of declaration, and what an accepted column of a
type may have for its default leaves few ways of writing it. -/
theorem DeclaredAlike.standAlike (alike : DeclaredAlike environment c d)
    (first : c.verdict = .ok) (second : d.verdict = .ok) : StandAlike c d := by
  rcases alike.default_cases with ⟨firstCalled, secondCalled⟩ | ⟨same, _⟩ |
    ⟨same, firstPlain, secondPlain⟩
  -- routines leave no default; a marker or null agrees with itself alone
  · exact standAlike_of_isCallable firstCalled secondCalled
  · exact alike.standAlike_of_same same
  · have ofFirst := default_of_accepted first firstPlain
    have ofSecond := default_of_accepted second secondPlain
    rw [← alike.type_eq] at ofSecond
    cases type : c.type with
    | string =>
        rw [type] at ofFirst ofSecond
        obtain ⟨s, isFirst⟩ := ofFirst
        obtain ⟨t, isSecond⟩ := ofSecond
        have texts := Value.text?_of_sameItem same
        rw [isFirst, isSecond] at texts
        exact standAlike_of_string type (alike.type_eq.symm.trans type) isFirst isSecond
          (Option.some.inj texts)
    | text =>
        rw [type] at ofFirst ofSecond
        obtain ⟨s, isFirst⟩ := ofFirst
        obtain ⟨t, isSecond⟩ := ofSecond
        exact standAlike_of_unwritten (.inl type) (defaultSql?_of_text type isFirst)
          (defaultSql?_of_text (alike.type_eq.symm.trans type) isSecond)
    | json =>
        exact standAlike_of_unwritten (.inr type) (defaultSql?_of_json type firstPlain)
          (defaultSql?_of_json (alike.type_eq.symm.trans type) secondPlain)
    | float =>
        rw [type] at ofFirst ofSecond
        exact standAlike_of_float alike type ofFirst ofSecond same
    | datetime =>
        rw [type] at ofFirst ofSecond
        obtain ⟨t, isFirst⟩ := ofFirst
        obtain ⟨u, isSecond⟩ := ofSecond
        exact standAlike_of_datetime type (alike.type_eq.symm.trans type) isFirst isSecond
    | boolean =>
        rw [type] at ofFirst ofSecond
        obtain ⟨a, isFirst⟩ := ofFirst
        obtain ⟨b, isSecond⟩ := ofSecond
        rw [isFirst, isSecond] at same
        have counts : a = b := Value.truthy_of_sameItem same
        exact alike.standAlike_of_same (by rw [isFirst, isSecond, counts])
    | _ =>
        rw [type] at ofFirst ofSecond
        obtain ⟨n, isFirst⟩ := ofFirst
        obtain ⟨m, isSecond⟩ := ofSecond
        rw [isFirst, isSecond] at same
        exact alike.standAlike_of_same (by rw [isFirst, isSecond, Value.int_eq_of_sameItem same])

/-! ## Definitions side by side -/

theorem filterMap_indexDefinition?_eq (alike : List.Forall₂ (DeclaredAlike environment) cs ds) :
    cs.filterMap indexDefinition? = ds.filterMap indexDefinition? := by
  induction alike with
  | nil => rfl
  | cons head _ ih => rw [List.filterMap_cons, List.filterMap_cons, head.indexDefinition?_eq, ih]

/-- What stands in a column definition in front of the default. -/
def definitionFront (column : Column) (type : String) : List Char :=
  (quoteName column.name).toList ++ ' ' :: type.toList ++
    (if column.isPrimaryKey || !column.nullable.truthy then " NOT NULL".toList else []) ++
    (if column.isAutoIncrement then " AUTO_INCREMENT".toList else [])

/-- The part of a column definition that tells the default. -/
def defaultPart (column : Column) : List Char :=
  column.defaultSql?.toList.flatMap fun sql => " DEFAULT ".toList ++ sql.toList

/-- The part of a column definition that tells the comment. -/
def commentPart (comment : Option String) : List Char :=
  comment.toList.flatMap fun sql => " COMMENT ".toList ++ sql.toList

theorem toList_definition (column : Column) (type : String) (comment : Option String) :
    (String.intercalate " " (quoteName column.name :: type :: column.clauses comment)).toList =
      column.definitionFront type ++ (column.defaultPart ++ commentPart comment) := by
  have notNull (given : Bool) :
      ((if given then ["NOT NULL"] else []).map String.toList).flatMap (" ".toList ++ ·) =
        if given then " NOT NULL".toList else [] := by
    cases given <;> rfl
  have increment (given : Bool) :
      ((if given then ["AUTO_INCREMENT"] else []).map String.toList).flatMap (" ".toList ++ ·) =
        if given then " AUTO_INCREMENT".toList else [] := by
    cases given <;> rfl
  have clause (keyword : String) (sql : Option String) :
      ((sql.map fun sql => keyword ++ sql).toList.map String.toList).flatMap (" ".toList ++ ·) =
        sql.toList.flatMap fun sql => " ".toList ++ keyword.toList ++ sql.toList := by
    cases sql <;> simp
  rw [String.toList_intercalate, List.map_cons, intercalate_cons_eq_flatMap, List.map_cons,
    List.flatMap_cons, clauses, definitionFront, defaultPart, commentPart]
  simp only [List.map_append, List.flatMap_append, notNull, increment, clause, List.append_assoc]
  rfl

theorem definition_eq_ok {type : String} {comment : Option String}
    (physical : c.physicalType.text? = some type) (written : c.commentSql? = .ok comment) :
    c.definition =
      .ok (String.intercalate " " (quoteName c.name :: type :: c.clauses comment)) := by
  simp only [definition, written, physical]
  rfl

/-- The definitions of columns that were declared alike differ in their defaults alone. -/
theorem DeclaredAlike.exists_definitions (alike : DeclaredAlike environment c d)
    (accepted : c.verdict = .ok) (commented : c.HasTextComment) :
    ∃ front comment x y, c.definition = .ok x ∧ d.definition = .ok y ∧
      x.toList = front ++ (c.defaultPart ++ commentPart comment) ∧
      y.toList = front ++ (d.defaultPart ++ commentPart comment) := by
  obtain ⟨type, physical, _⟩ := exists_physicalType accepted
  obtain ⟨comment, written, _⟩ := exists_commentSql? commented
  have front : c.definitionFront type = d.definitionFront type := by
    have increment : c.isAutoIncrement = d.isAutoIncrement :=
      Value.truthy_of_sameItem alike.autoIncrement
    rw [definitionFront, definitionFront, alike.name_eq, alike.isPrimaryKey_eq,
      Value.truthy_of_sameItem alike.nullable, increment]
  refine ⟨c.definitionFront type, comment, _, _, definition_eq_ok physical written,
    definition_eq_ok (alike.physicalType_text?_eq.symm.trans physical)
      ((alike.commentSql?_eq commented).symm.trans written), toList_definition c type comment, ?_⟩
  rw [front]
  exact toList_definition d type comment

/-- What lines add to those in front of them. -/
def followed (lines : List String) : List Char :=
  lines.flatMap fun line => ",\n  ".toList ++ line.toList

/-- Lists of as many lines differ in what they add just when they differ as a whole. -/
theorem intercalate_append_eq_iff {xs ys : List String} (lengths : xs.length = ys.length)
    (rest : List Char) :
    ",\n  ".toList.intercalate (xs.map String.toList) ++ rest =
        ",\n  ".toList.intercalate (ys.map String.toList) ++ rest ↔
      followed xs ++ rest = followed ys ++ rest := by
  have joined (line : String) (others : List String) : followed (line :: others) =
      ",\n  ".toList ++ ",\n  ".toList.intercalate ((line :: others).map String.toList) := by
    rw [followed, List.flatMap_cons, List.map_cons, intercalate_cons_eq_flatMap, List.flatMap_map,
      List.append_assoc]
  cases xs with
  | nil => rw [List.length_eq_zero_iff.mp lengths.symm]; rfl
  | cons x xs =>
      cases ys with
      | nil => cases lengths
      | cons y ys =>
          rw [joined, joined, List.append_assoc, List.append_assoc, List.append_cancel_left_eq]

theorem followed_append (front back : List String) :
    followed (front ++ back) = followed front ++ followed back :=
  List.flatMap_append

theorem begins_followed (lines : List String) :
    followed lines = [] ∨ EndsDefault (followed lines) := by
  cases lines with
  | nil => exact .inl rfl
  | cons line others => exact .inr ⟨',', _, rfl, .inr (.inl rfl)⟩

theorem begins_commentPart (comment : Option String) :
    commentPart comment = [] ∨ EndsDefault (commentPart comment) := by
  cases comment with
  | none => exact .inl rfl
  | some sql => exact .inr ⟨' ', _, rfl, .inl rfl⟩

/-- The lines of columns that were declared alike are the same text, in front of the same text, just
when no two of the columns write apart. -/
theorem exists_lines (alike : List.Forall₂ (DeclaredAlike environment) cs ds)
    (first : ∀ c ∈ cs, c.verdict = .ok) (second : ∀ d ∈ ds, d.verdict = .ok)
    (commented : ∀ c ∈ cs, c.HasTextComment) :
    ∃ xs ys, definitions cs = .ok xs ∧ definitions ds = .ok ys ∧ xs.length = ys.length ∧
      ∀ rest, EndsDefault rest → (followed xs ++ rest = followed ys ++ rest ↔
        ∀ pair ∈ cs.zip ds, pair.1.writesApart pair.2 = false) := by
  induction alike with
  | nil => exact ⟨[], [], rfl, rfl, rfl, by simp⟩
  | @cons c d cs ds head tail ih =>
      rw [List.forall_mem_cons] at first second commented
      obtain ⟨xs, ys, ofFirsts, ofSeconds, lengths, apart⟩ := ih first.2 second.2 commented.2
      obtain ⟨front, comment, x, y, ofFirst, ofSecond, firstText, secondText⟩ :=
        head.exists_definitions first.1 commented.1
      refine ⟨x :: xs, y :: ys, by rw [definitions, ofFirst, ofFirsts]; rfl,
        by rw [definitions, ofSecond, ofSeconds]; rfl, congrArg (· + 1) lengths, ?_⟩
      intro rest ends
      have behind (lines : List String) :
          EndsDefault (commentPart comment ++ (followed lines ++ rest)) :=
        .append_left (begins_commentPart comment) (.append_left (begins_followed lines) ends)
      have split (line : String) (lines : List String) :
          followed (line :: lines) ++ rest =
            ",\n  ".toList ++ (line.toList ++ (followed lines ++ rest)) := by
        simp only [followed, List.flatMap_cons, List.append_assoc]
      rw [split, split, firstText, secondText, List.zip_cons_cons, List.forall_mem_cons]
      simp only [List.append_assoc, List.append_cancel_left_eq]
      rcases head.standAlike first.1 second.1 with
        ⟨together, same⟩ | ⟨differ, s, t, ofC, ofD, read⟩
      · simp only [defaultPart, same, List.append_cancel_left_eq, together, true_and]
        exact apart rest ends
      · refine iff_of_false ?_ (by simp [differ])
        simp only [defaultPart, ofC, ofD, Option.toList_some, List.flatMap_singleton,
          List.append_assoc, List.append_cancel_left_eq]
        exact read _ _ (behind xs) (behind ys)

end Column

namespace Table

variable {environment : Environment} {a b : Table}

/-- Whether two tables were declared alike, as far as the statements that create them are written
from it. -/
structure DeclaredAlike (environment : Environment) (a b : Table) : Prop where
  name_eq : a.name = b.name
  primaryKey_eq : a.primaryKey = b.primaryKey
  columns : List.Forall₂ (Column.DeclaredAlike environment) a.columns b.columns

theorem declaredAlike_of_sameSignature (same : a.sameSignature b environment = .ok true) :
    DeclaredAlike environment a b := by
  simp only [sameSignature, signature] at same
  cases ofFirst : Column.signatures environment a.columns with
  | error fault => rw [ofFirst] at same; cases same
  | ok firsts =>
      cases ofSecond : Column.signatures environment b.columns with
      | error fault => rw [ofFirst, ofSecond] at same; cases same
      | ok seconds =>
          rw [ofFirst, ofSecond] at same
          have agree := Except.ok.inj same
          simp only [Signature.agrees, Bool.and_eq_true, beq_iff_eq] at agree
          obtain ⟨⟨⟨⟨_, name⟩, primaryKey⟩, _⟩, columns⟩ := agree
          exact ⟨name, primaryKey, Column.forall₂_declaredAlike ofFirst ofSecond columns⟩

/-- The lines of a table definition behind those of the columns. -/
def closingLines (table : Table) : List String :=
  table.keyDefinition?.toList ++ table.columns.filterMap Column.indexDefinition?

theorem DeclaredAlike.closingLines_eq (alike : DeclaredAlike environment a b) :
    a.closingLines = b.closingLines := by
  rw [closingLines, closingLines, keyDefinition?, keyDefinition?, alike.primaryKey_eq,
    Column.filterMap_indexDefinition?_eq alike.columns]

theorem createSql_eq_ok {lines : List String}
    (defined : Column.definitions a.columns = .ok lines) :
    a.createSql = .ok ("CREATE TABLE IF NOT EXISTS " ++ quoteName a.name ++ " (\n  " ++
      String.intercalate ",\n  " (lines ++ a.closingLines) ++
        "\n) ENGINE=InnoDB DEFAULT CHARSET=utf8mb4") := by
  rw [createSql, defined, closingLines, ← List.append_assoc]
  rfl

theorem exists_lines_of_createSql {sql : String} (created : a.createSql = .ok sql) :
    ∃ lines, Column.definitions a.columns = .ok lines ∧
      sql = "CREATE TABLE IF NOT EXISTS " ++ quoteName a.name ++ " (\n  " ++
        String.intercalate ",\n  " (lines ++ a.closingLines) ++
          "\n) ENGINE=InnoDB DEFAULT CHARSET=utf8mb4" := by
  cases defined : Column.definitions a.columns with
  | error fault => rw [createSql, defined] at created; cases created
  | ok lines =>
      rw [createSql_eq_ok defined] at created
      cases created
      exact ⟨lines, rfl, rfl⟩

/-- Two accepted tables of one signature can both be created, and by the same statement just when no
two of their columns have defaults that are equal and write apart. Defining the second where the
first is registered gives the first model in either case. -/
theorem createSql_eq_iff_of_sameSignature {name fields label name' fields' label' : Value}
    (first : (build name fields .standard label).result = .ok a)
    (second : (build name' fields' .standard label').result = .ok b)
    (commented : ∀ column ∈ a.columns, column.HasTextComment)
    (same : a.sameSignature b environment = .ok true) :
    (∃ sql sql', a.createSql = .ok sql ∧ b.createSql = .ok sql' ∧
      (sql = sql' ↔ ∀ pair ∈ a.columns.zip b.columns, pair.1.writesApart pair.2 = false)) ∧
    ∀ base guard session existing, Base.guard? base session = .ok guard →
      session.environment = environment → session.model? b.model = some existing →
      existing.table = a →
      (Model.define name' fields' label' base session).1 = .ok ⟨existing, true⟩ := by
  have alike := declaredAlike_of_sameSignature same
  constructor
  · obtain ⟨xs, ys, ofFirst, ofSecond, lengths, apart⟩ := Column.exists_lines alike.columns
      (fun _ => (coherent_of_build first).verdict_eq_ok)
      (fun _ => (coherent_of_build second).verdict_eq_ok) commented
    refine ⟨_, _, createSql_eq_ok ofFirst, createSql_eq_ok ofSecond, ?_⟩
    have allLengths : (xs ++ a.closingLines).length = (ys ++ a.closingLines).length := by
      rw [List.length_append, List.length_append, lengths]
    rw [← alike.closingLines_eq, ← alike.name_eq, ← String.toList_inj]
    simp only [String.toList_append, String.toList_intercalate, List.append_assoc,
      List.append_cancel_left_eq]
    rw [Column.intercalate_append_eq_iff allLengths, Column.followed_append, Column.followed_append,
      List.append_assoc, List.append_assoc]
    exact apart _ (.append_left (Column.begins_followed _) ⟨'\n', _, rfl, .inr (.inr rfl)⟩)
  · intro base guard session existing allowed environments registered isFirst
    rw [Model.define, Model.defineUnder_apply, allowed]
    dsimp only
    rw [second]
    have settled : Model.settle session guard b = .ok ⟨existing, true⟩ := by
      rw [Model.settle, registered]
      dsimp only
      rw [isFirst, environments, same]
    dsimp only
    rw [settled]

end Table

/-- A column of times with a default, for examples. -/
def momentColumn (default : Timestamp) : Column :=
  { ColumnTraits.standard with
    default := .timestamp default, label := .text "at", type := .datetime }

/-- A table of moments whose default is a given time, for examples. -/
def moments (default : Timestamp) : Table :=
  ⟨.text "Moment", .text "moment", [personId, momentColumn default], some personId, none⟩

/-- The declaration of that table's columns, for examples. -/
def momentFields (default : Timestamp) : Value :=
  .list [personId.toValue, (momentColumn default).toValue]

/-- A noon in universal time, for examples. -/
def noon : Timestamp := ⟨2024, 1, 1, 12, 0, 0, 0, some 0⟩

/-- The same moment an hour to the east, for examples. -/
def easternNoon : Timestamp := ⟨2024, 1, 1, 13, 0, 0, 0, some 60⟩

/-- The session in which the first table is registered, for examples. -/
def momentSession : Session :=
  { Session.start [] (.recorder .fresh) ⟨0, 0⟩ with models := [⟨moments noon, none⟩] }

/-- A table with another default is taken for the registered one when both defaults name one
instant. -/
theorem createSql_eq_iff_of_sameSignature_moments :
    (∃ sql sql', (moments noon).createSql = .ok sql ∧ (moments easternNoon).createSql = .ok sql' ∧
      sql ≠ sql') ∧
    (Model.define (.text "Moment") (momentFields easternNoon) .null .plain momentSession).1 =
      .ok ⟨⟨moments noon, none⟩, true⟩ := by
  have first : (Table.build (.text "Moment") (momentFields noon) .standard .null).result =
      .ok (moments noon) := rfl
  have second : (Table.build (.text "Moment") (momentFields easternNoon) .standard .null).result =
      .ok (moments easternNoon) := rfl
  have commented : ∀ column ∈ (moments noon).columns, column.HasTextComment := by
    simp only [moments, List.forall_mem_cons]
    exact ⟨.inl rfl, .inl rfl, by simp⟩
  have same : (moments noon).sameSignature (moments easternNoon) momentSession.environment =
      .ok true := rfl
  obtain ⟨⟨sql, sql', created, created', equal⟩, defined⟩ :=
    Table.createSql_eq_iff_of_sameSignature first second commented same
  refine ⟨⟨sql, sql', created, created', ?_⟩, defined .plain none momentSession _ rfl rfl rfl rfl⟩
  rw [Ne, equal]
  decide

/-- Tables of one signature that are created by different statements. -/
theorem same_signature_other_table :
    ¬ ∀ (name fields label name' fields' label' : Value) (a b : Table) (environment : Environment),
      (Table.build name fields .standard label).result = .ok a →
      (Table.build name' fields' .standard label').result = .ok b →
      (∀ column ∈ a.columns, column.HasTextComment) →
      (∀ column ∈ b.columns, column.HasTextComment) →
      a.sameSignature b environment = .ok true → a.createSql = b.createSql := by
  intro determined
  have commented (default : Timestamp) :
      ∀ column ∈ (moments default).columns, column.HasTextComment := by
    simp only [moments, List.forall_mem_cons]
    exact ⟨.inl rfl, .inl rfl, by simp⟩
  have equal := determined (.text "Moment") (momentFields noon) .null (.text "Moment")
    (momentFields easternNoon) .null (moments noon) (moments easternNoon) ⟨⟨0, 0⟩, []⟩ rfl rfl
    (commented noon) (commented easternNoon) rfl
  have texts := congrArg Except.toOption equal
  revert texts
  decide +kernel

end RowMapper
