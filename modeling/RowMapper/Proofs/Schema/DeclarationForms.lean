import Mathlib.Data.List.Perm.Basic
import RowMapper.Proofs.Schema.DeclaredTable

/-!
# Declarations of one column

The parts of a declaration may be given in any order and under any of their spellings, and what they
amount to is looked up part by part. So declarations with the same parts describe the same column.
What they describe is a normal form: its default, validators and flags are taken as they are. A
column is therefore what it describes itself, ready made or part by part.
-/

namespace RowMapper

/-- A computation that answers went through both of its parts. -/
theorem Except.bind_eq_ok_iff {ε α β : Type} {first : Except ε α} {second : α → Except ε β}
    {answer : β} :
    (first >>= second) = .ok answer ↔ ∃ middle, first = .ok middle ∧ second middle = .ok answer := by
  cases first with
  | error fault => simp [bind, Except.bind]
  | ok middle => simp [bind, Except.bind]

/-! ## Parts in any order -/

namespace DeclaredParts

/-- Whether an entry of a declaration gives a part its value. -/
def GivenBy (entry : Value × Value) (part : DeclaredPart × Value) : Prop :=
  DeclaredPart.ofKey? entry.1 = some part.1 ∧ entry.2 = part.2

/-- Whether no part is given twice. -/
def AreDistinct (parts : DeclaredParts) : Prop :=
  (parts.map (·.1)).Nodup

theorem find?_cons (entry : DeclaredPart × Value) (rest : DeclaredParts) (part : DeclaredPart) :
    find? (entry :: rest) part = if part = entry.1 then some entry.2 else rest.find? part := by
  rw [find?, List.lookup_cons]
  by_cases same : part = entry.1
  · simp [same]
  · rw [beq_false_of_ne same, if_neg same]
    rfl

theorem isSome_find?_iff {parts : DeclaredParts} {part : DeclaredPart} :
    (parts.find? part).isSome = true ↔ part ∈ parts.map (·.1) := by
  induction parts with
  | nil => simp [find?]
  | cons entry rest ih =>
      rw [find?_cons, List.map_cons, List.mem_cons, ← ih]
      by_cases same : part = entry.1
      · rw [if_pos same, Option.isSome_some, eq_self, true_iff]
        exact .inl same
      · rw [if_neg same, or_iff_right same]

/-- Among distinct parts the value that is looked up is the one that is given. -/
theorem find?_eq_some_iff {parts : DeclaredParts} (distinct : parts.AreDistinct)
    {part : DeclaredPart} {v : Value} : parts.find? part = some v ↔ (part, v) ∈ parts := by
  induction parts with
  | nil => simp [find?]
  | cons entry rest ih =>
      obtain ⟨notAgain, restDistinct⟩ := List.nodup_cons.mp distinct
      rw [find?_cons, List.mem_cons]
      by_cases same : part = entry.1
      · have absent : (part, v) ∉ rest := fun member =>
          notAgain (List.mem_map.mpr ⟨_, member, same⟩)
        rw [if_pos same, or_iff_left absent, Option.some.injEq, Prod.ext_iff]
        exact ⟨fun given => ⟨same, given.symm⟩, fun equal => equal.2.symm⟩
      · have other : (part, v) ≠ entry := fun equal => same (congrArg Prod.fst equal)
        rw [if_neg same, ih restDistinct, or_iff_right other]

/-- The order of distinct parts does not matter to looking them up. -/
theorem find?_of_perm {parts others : DeclaredParts} (distinct : parts.AreDistinct)
    (reordered : others.Perm parts) (part : DeclaredPart) :
    others.find? part = parts.find? part := by
  have alsoDistinct : others.AreDistinct := ((reordered.map _).nodup_iff).mpr distinct
  apply Option.ext
  intro v
  rw [find?_eq_some_iff alsoDistinct, find?_eq_some_iff distinct, reordered.mem_iff]

theorem areDistinct_append_cons {parts more : DeclaredParts} {part : DeclaredPart} {v : Value} :
    AreDistinct (parts ++ (part, v) :: more) ↔
      part ∉ (parts ++ more).map (·.1) ∧ AreDistinct (parts ++ more) := by
  rw [AreDistinct, AreDistinct, List.map_append, List.map_cons, List.nodup_middle,
    List.nodup_cons, List.map_append]

/-- Reading entries adds the parts that these give, if none of them is given twice. -/
theorem ofEntries_eq_ok_iff {field : Value} {parts read : DeclaredParts} {entries : Entries}
    (distinct : parts.AreDistinct) :
    ofEntries field parts entries = .ok read ↔
      ∃ more, List.Forall₂ GivenBy entries more ∧ read = parts ++ more ∧ read.AreDistinct := by
  induction entries generalizing parts with
  | nil =>
      constructor
      · intro same
        cases same
        exact ⟨[], .nil, (List.append_nil _).symm, distinct⟩
      · rintro ⟨_, ⟨⟩, rfl, _⟩
        rw [ofEntries, List.append_nil]
  | cons entry rest ih =>
      obtain ⟨key, v⟩ := entry
      rw [ofEntries]
      constructor
      · intro accepted
        cases named : DeclaredPart.ofKey? key with
        | none => rw [named] at accepted; cases accepted
        | some part =>
            rw [named] at accepted
            dsimp only at accepted
            split at accepted
            next => cases accepted
            next fresh =>
              rw [isSome_find?_iff] at fresh
              have distinctHere : AreDistinct (parts ++ [(part, v)]) := by
                rw [areDistinct_append_cons, List.append_nil]
                exact ⟨fresh, distinct⟩
              obtain ⟨more, given, rfl, distinctRead⟩ := (ih distinctHere).mp accepted
              refine ⟨(part, v) :: more, .cons ⟨named, rfl⟩ given, ?_, distinctRead⟩
              rw [List.append_assoc]
              rfl
      · rintro ⟨_, given, rfl, distinctRead⟩
        cases given with
        | @cons _ part _ more first others =>
            obtain ⟨part, w⟩ := part
            obtain ⟨named, rfl⟩ := first
            obtain ⟨fresh, distinctOthers⟩ := areDistinct_append_cons.mp distinctRead
            rw [List.map_append, List.mem_append, not_or] at fresh
            have distinctHere : AreDistinct (parts ++ [(part, v)]) := by
              rw [areDistinct_append_cons, List.append_nil]
              exact ⟨fresh.1, distinct⟩
            rw [named]
            dsimp only
            rw [if_neg fun again => fresh.1 (isSome_find?_iff.mp again), ih distinctHere]
            refine ⟨more, others, ?_, distinctRead⟩
            rw [List.append_assoc]
            rfl

/-- What a declaration amounts to is what its distinct parts are. -/
theorem ofEntries_nil_eq_ok_iff {field : Value} {parts : DeclaredParts} {entries : Entries} :
    ofEntries field [] entries = .ok parts ↔
      List.Forall₂ GivenBy entries parts ∧ parts.AreDistinct := by
  have none : AreDistinct [] := List.nodup_nil
  rw [ofEntries_eq_ok_iff none]
  constructor
  · rintro ⟨_, given, rfl, distinct⟩
    exact ⟨given, distinct⟩
  · rintro ⟨given, distinct⟩
    exact ⟨parts, given, rfl, distinct⟩

end DeclaredParts

namespace Entries

/-- Whether entries of declarations give the same part the same value, perhaps under other
spellings. -/
def SamePart (entry other : Value × Value) : Prop :=
  DeclaredPart.ofKey? entry.1 = DeclaredPart.ofKey? other.1 ∧ entry.2 = other.2

/-- Whether entries of a declaration come from others by reordering them and by replacing keys by
other spellings of the same part. -/
def Respells (others entries : Entries) : Prop :=
  ∃ reordered, entries.Perm reordered ∧ List.Forall₂ SamePart reordered others

theorem givenBy_of_samePart {entries others : Entries} {parts : DeclaredParts}
    (same : List.Forall₂ SamePart entries others)
    (given : List.Forall₂ DeclaredParts.GivenBy entries parts) :
    List.Forall₂ DeclaredParts.GivenBy others parts := by
  induction same generalizing parts with
  | nil => exact given
  | cons here _ ih =>
      cases given with
      | cons first later =>
          exact .cons ⟨here.1 ▸ first.1, here.2 ▸ first.2⟩ (ih later)

/-- Respelled entries give the same parts in some order. -/
theorem Respells.exists_perm {entries others : Entries} {parts : DeclaredParts}
    (respells : others.Respells entries)
    (given : List.Forall₂ DeclaredParts.GivenBy entries parts) :
    ∃ otherParts, List.Forall₂ DeclaredParts.GivenBy others otherParts ∧
      otherParts.Perm parts := by
  obtain ⟨reordered, perm, same⟩ := respells
  obtain ⟨otherParts, givenAgain, permParts⟩ := List.perm_comp_forall₂ perm.symm given
  exact ⟨otherParts, givenBy_of_samePart same givenAgain, permParts⟩

end Entries

/-! ## The normal form -/

namespace Column

/-- What parts describe depends on what is looked up among them alone. -/
theorem ofParts_congr {parts others : DeclaredParts}
    (same : ∀ part, others.find? part = parts.find? part) : ofParts others = ofParts parts := by
  simp only [ofParts, declaredHead, withParts, DeclaredParts.flag, same]

/-- The mapping from the names of a column's slots to their values. -/
def toEntries (column : Column) : Entries :=
  (ObjectKind.column.slotNames.zip
    (column.label.toValue :: .fieldType column.type :: column.toColumnTraits.toSlots)).map
      fun (name, v) => (.text name, v)

/-- The parts of a column. -/
def toParts (column : Column) : DeclaredParts :=
  [(.name, column.label.toValue), (.type, .fieldType column.type),
    (.databaseType, column.databaseType), (.primaryKey, column.primaryKey),
    (.autoIncrement, column.autoIncrement), (.autoUpdate, column.autoUpdate),
    (.default, column.default), (.nullable, column.nullable), (.index, column.index),
    (.unique, column.unique), (.comment, column.comment), (.validators, column.validators)]

/-- Whether a column is in the form in which declarations are read: its name passes the check, its
default is no spelling of another one, its validators are a tuple of routines, and its flags are
truth values. -/
structure IsNormal (column : Column) : Prop where
  named : checkName column.label.toValue = .ok column.label
  default : declaredDefault column.type column.default = column.default
  validators : declaredValidators column.label column.validators = .ok column.validators
  flags : ∀ flag ∈ [column.primaryKey, column.autoIncrement, column.autoUpdate, column.nullable,
    column.index, column.unique], .bool flag.truthy = flag

theorem checkName_toValue {v : Value} {label : Name} (checked : checkName v = .ok label) :
    checkName label.toValue = .ok label := by
  cases identified : Sql.checkIdentifier v with
  | error fault =>
      rw [checkName, identified] at checked
      cases checked
  | ok name =>
      have again : Sql.checkIdentifier name.toValue = .ok name :=
        Sql.checkIdentifier_eq_ok_iff.mpr
          ⟨name.ofValue?_toValue, (Sql.checkIdentifier_eq_ok_iff.mp identified).2⟩
      rw [checkName, identified] at checked
      dsimp only at checked
      split at checked
      next => cases checked
      next free =>
        cases checked
        rw [checkName, again]
        exact if_neg free

theorem truthy_of_checkName {label : Name} (checked : checkName label.toValue = .ok label) :
    label.toValue.truthy = true := by
  have filled := (checkName_eq_ok checked).1.length_pos
  cases label with
  | text s =>
      change (!s.isEmpty) = true
      rw [Bool.not_eq_true', Bool.eq_false_iff, ne_eq, String.isEmpty_iff]
      rintro rfl
      cases filled
  | fieldType type => rfl

theorem declaredDefault_declaredDefault (type : FieldType) (v : Value) :
    declaredDefault type (declaredDefault type v) = declaredDefault type v := by
  have notWord : Value.equal .currentTime (.text "now") = false := rfl
  by_cases word : (type = .timestamp && v.equal (.text "now")) = true
  · simp [declaredDefault, word, notWord]
  · simp [declaredDefault, word]

theorem declaredValidators_tuple {name : Name} {routines : List Value}
    (callable : routines.all Value.isCallable = true) :
    declaredValidators name (.tuple routines) = .ok (.tuple routines) := by
  have listed : declaredValidators name (.tuple routines) =
      if routines.all Value.isCallable then .ok (.tuple routines)
      else .error (.declaration (.badValidators name)) := rfl
  rw [listed, if_pos callable]

/-- Declared validators are a tuple of routines, which declares itself. -/
theorem declaredValidators_declaredValidators {name : Name} {given validators : Value}
    (declared : declaredValidators name given = .ok validators) :
    declaredValidators name validators = .ok validators := by
  have collected : ∀ routines : List Value,
      (if routines.all Value.isCallable then pure (Value.tuple routines)
        else throw (Fault.declaration (.badValidators name)) : Except Fault Value) =
          .ok validators → declaredValidators name validators = .ok validators := by
    intro routines listed
    split at listed
    next callable =>
      cases listed
      exact declaredValidators_tuple callable
    next => cases listed
  rw [declaredValidators] at declared
  split at declared
  · exact collected [given] declared
  · obtain ⟨routines, _, listed⟩ := Except.bind_eq_ok_iff.mp declared
    exact collected routines listed

/-- What parts describe comes of a checked name, of validators that can be called and of the parts
themselves. -/
theorem ofParts_eq_ok {parts : DeclaredParts} {column : Column}
    (described : ofParts parts = .ok column) :
    ∃ label type validators, checkName (Name.toValue label) = .ok label ∧
      declaredValidators label validators = .ok validators ∧
      column = withParts label type validators parts := by
  rw [ofParts] at described
  cases head : declaredHead parts with
  | error fault => rw [head] at described; cases described
  | ok named =>
      obtain ⟨label, type⟩ := named
      rw [head] at described
      change (declaredValidators label ((parts.find? .validators).getD (.tuple [])) >>=
        fun validators => pure (withParts label type validators parts)) = .ok column at described
      cases given : declaredValidators label ((parts.find? .validators).getD (.tuple [])) with
      | error fault => rw [given] at described; cases described
      | ok validators =>
          rw [given] at described
          cases described
          obtain ⟨v, checked⟩ := declaredHead_eq_ok head
          exact ⟨label, type, validators, checkName_toValue checked,
            declaredValidators_declaredValidators given, rfl⟩

/-- A column that parts describe is in normal form. -/
theorem isNormal_of_ofParts {parts : DeclaredParts} {column : Column}
    (described : ofParts parts = .ok column) : column.IsNormal := by
  obtain ⟨label, type, validators, named, validated, rfl⟩ := ofParts_eq_ok described
  refine ⟨named, declaredDefault_declaredDefault _ _, validated, ?_⟩
  have isFlag (part : DeclaredPart) (b : Bool) :
      .bool (parts.flag part (.bool b)).truthy = parts.flag part (.bool b) := by
    rw [DeclaredParts.flag]
    cases parts.find? part with
    | none => rfl
    | some v => rfl
  simp only [List.forall_mem_cons, List.not_mem_nil, false_implies, implies_true, and_true]
  exact ⟨isFlag .primaryKey false, isFlag .autoIncrement false, isFlag .autoUpdate false,
    isFlag .nullable true, isFlag .index false, isFlag .unique false⟩

/-- Reading the parts of a column spells out its default and its flags, which a normal form has
spelled out already. -/
theorem IsNormal.withParts_toParts {column : Column} (normal : column.IsNormal) :
    withParts column.label column.type column.validators column.toParts = column := by
  have read : withParts column.label column.type column.validators column.toParts =
      { column with
        primaryKey := .bool column.primaryKey.truthy
        autoIncrement := .bool column.autoIncrement.truthy
        autoUpdate := .bool column.autoUpdate.truthy
        default := declaredDefault column.type column.default
        nullable := .bool column.nullable.truthy
        index := .bool column.index.truthy
        unique := .bool column.unique.truthy } := rfl
  have flags := normal.flags
  simp only [List.forall_mem_cons, List.not_mem_nil, false_implies, implies_true, and_true]
    at flags
  obtain ⟨primaryKey, autoIncrement, autoUpdate, nullable, index, unique⟩ := flags
  rw [read, primaryKey, autoIncrement, autoUpdate, normal.default, nullable, index, unique]

/-- The parts of a column in normal form describe it. -/
theorem IsNormal.ofParts_toParts {column : Column} (normal : column.IsNormal) :
    ofParts column.toParts = .ok column := by
  have head : declaredHead column.toParts = .ok (column.label, column.type) := by
    have name : DeclaredParts.find? column.toParts .name = some column.label.toValue := rfl
    have type : DeclaredParts.find? column.toParts .type = some (.fieldType column.type) := rfl
    have typed : (Value.fieldType column.type).truthy = true := rfl
    have read : typeOfValue? (.fieldType column.type) = some column.type :=
      FieldType.ofName?_name column.type
    simp [declaredHead, name, type, truthy_of_checkName normal.named, typed, normal.named, read]
  rw [ofParts, head]
  change (declaredValidators column.label column.validators >>= fun validators =>
    pure (withParts column.label column.type validators column.toParts)) = .ok column
  rw [normal.validators]
  exact congrArg Except.ok normal.withParts_toParts

theorem givenBy_toEntries (column : Column) :
    List.Forall₂ DeclaredParts.GivenBy column.toEntries column.toParts := by
  repeat' constructor

theorem areDistinct_toParts (column : Column) : column.toParts.AreDistinct := by
  change [DeclaredPart.name, .type, .databaseType, .primaryKey, .autoIncrement, .autoUpdate,
    .default, .nullable, .index, .unique, .comment, .validators].Nodup
  decide

theorem ofValue_dict_eq_ok_iff {entries : Entries} {column : Column} :
    ofValue (.dict entries) = .ok column ↔
      ∃ parts : DeclaredParts, List.Forall₂ DeclaredParts.GivenBy entries parts ∧ parts.AreDistinct ∧
        ofParts parts = .ok column := by
  have opened : ofValue (.dict entries) =
      (DeclaredParts.ofEntries ((Entries.find? entries (.text "name")).getD .null) []
        entries).mapError .declaration >>= ofParts := rfl
  rw [opened, Except.bind_eq_ok_iff]
  constructor
  · rintro ⟨parts, read, described⟩
    obtain ⟨given, distinct⟩ :=
      DeclaredParts.ofEntries_nil_eq_ok_iff.mp (Except.eq_ok_of_mapError read)
    exact ⟨parts, given, distinct, described⟩
  · rintro ⟨parts, given, distinct, described⟩
    refine ⟨parts, ?_, described⟩
    rw [DeclaredParts.ofEntries_nil_eq_ok_iff.mpr ⟨given, distinct⟩]
    rfl

/-- A ready made column in normal form is taken as it is. -/
theorem IsNormal.ofValue_toValue {column : Column} (normal : column.IsNormal) :
    ofValue column.toValue = .ok column := by
  have slots := ColumnTraits.ofSlots?_toSlots column.toColumnTraits
  have ready : ofReady column.label.toValue (.fieldType column.type) column.toColumnTraits =
      .ok column := by
    rw [ofReady, normal.named]
  simp only [toValue, ofValue, slots, ready]
  rfl

/-- A declaration that is accepted describes its column in every order of its entries and under all
spellings of its keys. The column is taken as it is, ready made or spelled out slot by slot. -/
theorem ofValue_dict_eq_ok_of_respells {entries : Entries} {column : Column}
    (accepted : ofValue (.dict entries) = .ok column) :
    (∀ others : Entries, others.Respells entries → ofValue (.dict others) = .ok column) ∧
      ofValue column.toValue = .ok column ∧ ofValue (.dict column.toEntries) = .ok column := by
  obtain ⟨parts, given, distinct, described⟩ := ofValue_dict_eq_ok_iff.mp accepted
  have normal := isNormal_of_ofParts described
  refine ⟨?_, normal.ofValue_toValue, ?_⟩
  · intro others respells
    obtain ⟨otherParts, givenAgain, perm⟩ := respells.exists_perm given
    have sameColumn := ofParts_congr (DeclaredParts.find?_of_perm distinct perm)
    exact ofValue_dict_eq_ok_iff.mpr ⟨otherParts, givenAgain, ((perm.map _).nodup_iff).mpr distinct,
      sameColumn.trans described⟩
  · exact ofValue_dict_eq_ok_iff.mpr
      ⟨column.toParts, column.givenBy_toEntries, column.areDistinct_toParts,
        normal.ofParts_toParts⟩

end Column

/-- A declaration of the time of a change, for examples. -/
def changedDeclaration : Entries :=
  [(.text "name", .text "changed"), (.text "isPrimaryKey", .int 0), (.text "default", .text "now"),
    (.text "type", .text "timestamp"), (.text "autoUpdate", .int 1),
    (.text "validators", .routine 7 .notNull [])]

/-- The same backwards and under other spellings, for examples. -/
def respelledDeclaration : Entries :=
  [(.text "validators", .routine 7 .notNull []), (.text "auto_update", .int 1),
    (.text "type", .text "timestamp"), (.text "defaultValue", .text "now"),
    (.text "primaryKey", .int 0), (.text "name", .text "changed")]

/-- The word for the current time, the flags and the single validator of a declaration are read once
and for all. -/
theorem ofValue_dict_eq_ok_of_respells_changed :
    ∃ column, Column.ofValue (.dict changedDeclaration) = .ok column ∧
      column.default = .currentTime ∧ column.autoUpdate = .bool true ∧
      column.primaryKey = .bool false ∧ column.validators = .tuple [.routine 7 .notNull []] ∧
      Column.ofValue (.dict respelledDeclaration) = .ok column ∧
      Column.ofValue column.toValue = .ok column ∧
      Column.ofValue (.dict column.toEntries) = .ok column := by
  have accepted : ∃ column, Column.ofValue (.dict changedDeclaration) = .ok column := ⟨_, rfl⟩
  obtain ⟨column, accepted⟩ := accepted
  have respells : respelledDeclaration.Respells changedDeclaration := by
    refine ⟨changedDeclaration.reverse, changedDeclaration.reverse_perm.symm, ?_⟩
    repeat' constructor
  obtain ⟨everySpelling, ready, spelledOut⟩ := Column.ofValue_dict_eq_ok_of_respells accepted
  refine ⟨column, accepted, ?_, ?_, ?_, ?_, everySpelling _ respells, ready, spelledOut⟩ <;>
    cases accepted <;> rfl

end RowMapper
