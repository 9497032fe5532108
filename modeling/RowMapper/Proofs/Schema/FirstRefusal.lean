import RowMapper.Proofs.Schema.DeclaredTable

/-!
# Fields behind other fields

Fields are added to a table one after the other, and nothing is looked at behind the first one that
is refused. So what further fields can do to a declaration is small: a refused one stays refused
with the same report, and an accepted one was accepted without them, with a table that the longer
one begins with.
-/

namespace RowMapper

/-! ## Adding further fields -/

namespace TableDraft

variable {model : Name} {check : StorageCheck} {draft : TableDraft}

/-- Adding fields goes on from the draft of those before, unless one of them was refused. -/
theorem addAll_append (model : Name) (check : StorageCheck) (draft : TableDraft)
    (fields more : List Value) :
    draft.addAll model check (fields ++ more) =
      match (draft.addAll model check fields).2 with
      | none => (draft.addAll model check fields).1.addAll model check more
      | some _ => draft.addAll model check fields := by
  induction fields generalizing draft with
  | nil => rfl
  | cons declaration rest ih =>
      rw [List.cons_append, addAll, addAll]
      cases added : draft.add model check declaration with
      | error fault => rfl
      | ok next => exact ih next

theorem addAll_append_of_refused {fields : List Value} {fault : Fault}
    (refused : (draft.addAll model check fields).2 = some fault) (more : List Value) :
    draft.addAll model check (fields ++ more) = draft.addAll model check fields := by
  rw [addAll_append, refused]

/-- Fields that are accepted with others behind them are accepted without. -/
theorem addAll_of_append {fields more : List Value}
    (accepted : (draft.addAll model check (fields ++ more)).2 = none) :
    (draft.addAll model check fields).2 = none := by
  cases first : (draft.addAll model check fields).2 with
  | none => rfl
  | some fault =>
      rw [addAll_append_of_refused first, first] at accepted
      cases accepted

end TableDraft

/-! ## The tables of the shorter and the longer declaration -/

namespace Table

/-- Whether a table is what the first columns of another one make of it. The key and the column kept
current are those of the other table as far as they are among these columns. -/
structure BeginsWith (longer : Table) (count : Nat) (shorter : Table) : Prop where
  modelLabel : shorter.modelLabel = longer.modelLabel
  label : shorter.label = longer.label
  columns : shorter.columns = longer.columns.take count
  length : shorter.columns.length = count
  key : ∀ column, shorter.key = some column ↔
    longer.key = some column ∧ column ∈ shorter.columns
  autoUpdate : ∀ column, shorter.autoUpdate = some column ↔
    longer.autoUpdate = some column ∧ column ∈ shorter.columns

end Table

/-- The first hit in the front of a list is the first hit in the whole, if that is in the front. -/
theorem find?_front_eq_some_iff {α : Type} {p : α → Bool} {front rest : List α} {a : α} :
    front.find? p = some a ↔ (front ++ rest).find? p = some a ∧ a ∈ front := by
  rw [List.find?_append]
  constructor
  · intro found
    rw [found]
    exact ⟨rfl, List.mem_of_find?_eq_some found⟩
  · intro found
    obtain ⟨first, member⟩ := found
    cases inFront : front.find? p with
    | some other => rwa [inFront] at first
    | none =>
        rw [inFront] at first
        exact absurd (List.find?_some first) (List.find?_eq_none.mp inFront a member)

namespace TableDraft

section Tells

variable {shorter longer : TableDraft} {model : Name} {fields more : List Value}
  (tells : shorter.Tells model fields) (tellsMore : longer.Tells model (fields ++ more))

include tells

theorem Tells.length_columns : shorter.columns.length = fields.length := by
  have same := congrArg List.length tells.parsed
  rw [List.length_map, List.length_map] at same
  exact same.symm

include tellsMore

/-- The columns of the longer draft begin with those of the shorter one, since both are what the
declarations are read as. -/
theorem Tells.columns_eq_take : shorter.columns = longer.columns.take fields.length := by
  have read : shorter.columns.map Except.ok = (longer.columns.take fields.length).map
      (Except.ok : Column → Except Fault Column) := by
    rw [List.map_take, ← tellsMore.parsed, ← tells.parsed, List.map_append, ← List.length_map,
      List.take_left]
  exact List.map_injective_iff.mpr (fun _ _ => Except.ok.inj) read

/-- What a draft says of further declarations leaves alone what it says of the first ones. -/
theorem Tells.beginsWith (modelLabel label : Name) :
    (Table.ofDraft modelLabel label longer).BeginsWith fields.length
      (Table.ofDraft modelLabel label shorter) := by
  have columns := tells.columns_eq_take tellsMore
  have whole : longer.columns = shorter.columns ++ longer.columns.drop fields.length := by
    rw [columns, List.take_append_drop]
  constructor
  · rfl
  · rfl
  · exact columns
  · exact tells.length_columns
  · intro column
    have keyOfShorter : (Table.ofDraft modelLabel label shorter).columns.filter (·.isPrimaryKey) =
        (Table.ofDraft modelLabel label shorter).key.toList := tells.key
    have keyOfLonger : (Table.ofDraft modelLabel label longer).columns.filter (·.isPrimaryKey) =
        (Table.ofDraft modelLabel label longer).key.toList := tellsMore.key
    rw [Table.key_eq_some_iff keyOfShorter, Table.key_eq_some_iff keyOfLonger]
    have kept : column ∈ shorter.columns → column ∈ longer.columns := by
      intro member
      rw [whole]
      exact List.mem_append_left _ member
    constructor
    · exact fun isKey => ⟨⟨kept isKey.1, isKey.2⟩, isKey.1⟩
    · exact fun isKey => ⟨isKey.2, isKey.1.2⟩
  · intro column
    change shorter.autoUpdate = some column ↔
      longer.autoUpdate = some column ∧ column ∈ shorter.columns
    rw [tells.autoUpdate, tellsMore.autoUpdate, List.head?_filter, List.head?_filter, whole]
    exact find?_front_eq_some_iff

end Tells

end TableDraft

namespace Table

variable {name label : Value} {check : StorageCheck} {fields : List Value}

/-- Building a table from a list of fields, of which there is one at least. -/
theorem build_list (nonempty : fields ≠ []) :
    build name (.list fields) check label =
      match checkNames name label with
      | .error fault => ⟨[], .error (.declaration fault)⟩
      | .ok (model, tableLabel) => ofDeclarations model tableLabel check fields := by
  rw [build]
  cases fields with
  | nil => exact absurd rfl nonempty
  | cons first rest => rfl

theorem ofDeclarations_append_of_refused {model tableLabel : Name} {fault : Fault}
    (refused : (ofDeclarations model tableLabel check fields).result = .error fault)
    (more : List Value) :
    ofDeclarations model tableLabel check (fields ++ more) =
      ofDeclarations model tableLabel check fields := by
  simp only [ofDeclarations] at refused ⊢
  cases stopped : (TableDraft.empty.addAll model check fields).2 with
  | none =>
      rw [stopped] at refused
      cases refused
  | some early => simp only [TableDraft.addAll_append_of_refused stopped, stopped]

/-- A list of fields that is accepted with others behind it is accepted without, as what the longer
table begins with. -/
theorem exists_beginsWith_of_append {model tableLabel : Name} {more : List Value} {longer : Table}
    (built : (ofDeclarations model tableLabel check (fields ++ more)).result = .ok longer) :
    ∃ shorter, (ofDeclarations model tableLabel check fields).result = .ok shorter ∧
      longer.BeginsWith fields.length shorter := by
  have accepted : (TableDraft.empty.addAll model check (fields ++ more)).2 = none := by
    simp only [ofDeclarations] at built
    split at built
    next => cases built
    next unrefused => exact unrefused
  have first := TableDraft.addAll_of_append accepted
  have tells := (TableDraft.tells_empty model).addAll fields first
  have tellsMore := (TableDraft.tells_empty model).addAll (fields ++ more) accepted
  rw [ofDeclarations_eq_ok built]
  refine ⟨ofDraft model tableLabel (TableDraft.empty.addAll model check fields).1, ?_,
    tells.beginsWith tellsMore model tableLabel⟩
  simp only [ofDeclarations, first]

/-- Fields behind others never change what those come to. If a model's fields are refused, they are
refused with the same report whatever fields follow them. If they are accepted with others behind
them, they are accepted without, under the same names, with the first of the columns, and with the
key and the column kept current as far as these are among them. -/
theorem first_refusal_decides (name label : Value) (check : StorageCheck) {fields : List Value}
    (nonempty : fields ≠ []) (more : List Value) :
    (∀ fault, (build name (.list fields) check label).result = .error fault →
      build name (.list (fields ++ more)) check label = build name (.list fields) check label) ∧
    ∀ longer, (build name (.list (fields ++ more)) check label).result = .ok longer →
      ∃ shorter, (build name (.list fields) check label).result = .ok shorter ∧
        longer.BeginsWith fields.length shorter := by
  have nonemptyMore : fields ++ more ≠ [] := by simp [nonempty]
  rw [build_list nonempty, build_list nonemptyMore]
  cases checkNames name label with
  | error refused =>
      refine ⟨fun _ _ => rfl, ?_⟩
      intro longer built
      cases built
  | ok names =>
      exact ⟨fun _ refused => ofDeclarations_append_of_refused refused more,
        fun _ => exists_beginsWith_of_append⟩

end Table

/-- The first two of the fields of a post are accepted without the column kept current, and a field
that is given twice is refused for that although the field behind it is no declaration at all. -/
theorem first_refusal_decides_posts :
    (∃ shorter longer, (Table.build (.text "BlogPost") (.list (postFields.take 2)) .standard
          .null).result = .ok shorter ∧
        (Table.build (.text "BlogPost") (.list postFields) .standard .null).result = .ok longer ∧
        longer.BeginsWith 2 shorter ∧ shorter.primaryKeyText = "id" ∧
        longer.autoUpdate.map Column.name = some "changed" ∧ shorter.autoUpdate = none) ∧
      (Table.build (.text "BlogPost") (.list [titleColumn.toValue, titleColumn.toValue, .int 5])
          .standard .null).result =
        .error (.declaration (.duplicateField (.text "title") (.text "BlogPost"))) := by
  have nonempty : postFields.take 2 ≠ [] := by simp [postFields]
  have doubled : [titleColumn.toValue, titleColumn.toValue] ≠ [] := by simp
  obtain ⟨_, accepted⟩ := Table.first_refusal_decides (.text "BlogPost") .null .standard nonempty
    (postFields.drop 2)
  obtain ⟨refused, _⟩ := Table.first_refusal_decides (.text "BlogPost") .null .standard doubled
    [.int 5]
  obtain ⟨shorter, built, begins⟩ := accepted _ rfl
  refine ⟨⟨shorter, _, built, rfl, begins, ?_, rfl, ?_⟩, ?_⟩
  · cases built
    rfl
  · cases built
    rfl
  · exact congrArg Report.result (refused _ rfl)

end RowMapper
