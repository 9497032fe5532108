import RowMapper.Proofs.Query.StatementLayout
import RowMapper.Proofs.Value.StoredForm

/-!
# What conditions look for and what is stored

A condition on a column converts a value in its own way, and so does a write to the column. The
two agree, as far as rows can tell, on every value except null in a column of truth values: null is
stored as null there, and looked for as zero.
-/

namespace RowMapper

/-- The values that a value in a field map stands for: the items of a list or tuple, or the value
itself. -/
def Value.alternatives (v : Value) : List Value :=
  v.sequence?.getD [v]

namespace Column

/-- What a condition on a column looks for in place of one value. -/
def sought (column : Column) (v : Value) : Value :=
  match column.type with
  | .boolean => .int (if v.truthy then 1 else 0)
  | _ => v

variable {column : Column} {v stored : Value}

theorem sought_of_boolean (boolean : column.type = .boolean) (v : Value) :
    column.sought v = .int (if v.truthy then 1 else 0) := by
  rw [sought, boolean]

theorem sought_of_other (notBoolean : column.type ≠ .boolean) (v : Value) :
    column.sought v = v := by
  rw [sought]
  split
  next boolean => exact absurd boolean notBoolean
  next => rfl

theorem conditionValue_of_other (notBoolean : column.type ≠ .boolean) (v : Value) :
    column.type.conditionValue v = v := by
  rw [FieldType.conditionValue.eq_def]
  split
  next boolean => exact absurd boolean notBoolean
  next => rfl

/-- The parameters of a condition on a column are what it looks for in place of each value. -/
theorem parameters_fieldFragment (column : Column) (v : Value) :
    (Condition.fieldFragment column v).parameters = v.alternatives.map column.sought := by
  rw [← Comparison.fragment_ofField, Comparison.parameters_fragment, Comparison.ofField,
    Value.alternatives]
  by_cases boolean : column.type = .boolean
  · rw [boolean, FieldType.conditionValue, funext (sought_of_boolean boolean)]
    cases v.sequence? <;> rfl
  · rw [conditionValue_of_other boolean, List.map_congr_left fun w _ => sought_of_other boolean w]
    cases v.sequence? <;> simp [Comparison.values]

/-- Only JSON texts can fail to be written. -/
theorem exists_toStorage (notJson : column.type ≠ .json) (v : Value) :
    ∃ stored, column.toStorage v = .ok stored := by
  by_cases boolean : column.type = .boolean
  · simp only [toStorage, boolean]
    split
    · exact ⟨_, rfl⟩
    · exact ⟨_, rfl⟩
  · exact ⟨_, toStorage_of_other boolean notJson⟩

/-- In a column of truth values everything but null is looked for as it is stored. -/
theorem sought_eq_of_boolean (boolean : column.type = .boolean) (notNull : v ≠ .null)
    (converts : column.toStorage v = .ok stored) : column.sought v = stored := by
  have given : v.isNull = false := Bool.eq_false_iff.mpr (Value.isNull_eq_true.mp.mt notNull)
  simp only [toStorage, boolean, given] at converts
  cases converts
  exact sought_of_boolean boolean v

/-- A truth value and the number that it is stored as are equal to the same values. -/
theorem equal_bool_eq (b : Bool) (x : Value) :
    (Value.bool b).equal x = (Value.int (if b then 1 else 0)).equal x := by
  cases b <;> cases x <;> rfl

/-- Null in a column of truth values is looked for as zero. Everything else is looked for as
something that equals just what the stored value equals. -/
theorem equal_sought_eq_iff (notJson : column.type ≠ .json)
    (converts : column.toStorage v = .ok stored) :
    (∀ x, (column.sought v).equal x = stored.equal x) ↔ (column.type = .boolean → v ≠ .null) := by
  constructor
  · rintro alike boolean rfl
    cases converts
    have zero := alike .null
    rw [sought_of_boolean boolean] at zero
    cases zero
  · intro notNull x
    by_cases boolean : column.type = .boolean
    · rw [sought_eq_of_boolean boolean (notNull boolean) converts]
    · rw [toStorage_of_other boolean notJson] at converts
      rw [sought_of_other boolean]
      cases converts
      cases v with
      | bool b => exact equal_bool_eq b x
      | _ => rfl

/-- What is looked for equals what is stored, unless it is null in a column of truth values, or a
value elsewhere that does not equal itself. -/
theorem equal_sought_iff (notJson : column.type ≠ .json)
    (converts : column.toStorage v = .ok stored) :
    (column.sought v).equal stored = true ↔
      if column.type = .boolean then v ≠ .null else v.equal v = true := by
  split
  next boolean =>
    constructor
    · rintro equal rfl
      cases converts
      rw [sought_of_boolean boolean] at equal
      cases equal
    · intro notNull
      rw [← sought_eq_of_boolean boolean notNull converts, sought_of_boolean boolean]
      cases v.truthy <;> decide
  next notBoolean =>
    rw [toStorage_of_other notBoolean notJson] at converts
    rw [sought_of_other notBoolean]
    cases converts
    cases v with
    | bool b => cases b <;> decide
    | _ => rfl

theorem exists_forall₂_toStorage (notJson : column.type ≠ .json) (values : List Value) :
    ∃ stored, List.Forall₂ (fun w s => column.toStorage w = .ok s) values stored := by
  induction values with
  | nil => exact ⟨[], .nil⟩
  | cons w rest ih =>
      obtain ⟨first, converts⟩ := exists_toStorage notJson w
      obtain ⟨others, convertRest⟩ := ih
      exact ⟨first :: others, .cons converts convertRest⟩

/-- What holds of each value that is looked for holds of all of them. -/
theorem forall₂_sought_iff {related : Value → Value → Prop} {fits : Value → Prop}
    (each : ∀ {w s}, column.toStorage w = .ok s → (related (column.sought w) s ↔ fits w))
    {values stored : List Value}
    (converts : List.Forall₂ (fun w s => column.toStorage w = .ok s) values stored) :
    List.Forall₂ related (values.map column.sought) stored ↔ ∀ w ∈ values, fits w := by
  induction converts with
  | nil => simp
  | cons first _ ih =>
      rw [List.map_cons, List.forall₂_cons, ih, each first, List.forall_mem_cons]

end Column

/-- What a condition on one column looks for. The condition comes to one fragment, with a parameter
for each value that it stands for. Each of these values has a stored form, and what the parameters
equal is just what the stored forms equal, unless null is looked for in a column of truth values:
there the parameter is zero. So the parameters equal the stored forms themselves, except for that
null and for values elsewhere that do not equal themselves. -/
theorem Condition.seeks_as_stored_iff {name fields label : Value} {check : StorageCheck}
    {table : Table} (built : (Table.build name fields check label).result = .ok table)
    {column : Column} (member : column ∈ table.columns) (notJson : column.type ≠ .json)
    {key : Value} (named : key.text? = some column.name) (v : Value) (environment : Environment) :
    ∃ fragment stored,
      (compile table (ofValue? (.dict [(key, v)])) environment).1 = .ok ⟨[], .ok ⟨[fragment]⟩⟩ ∧
      fragment.parameters.length = v.alternatives.length ∧
      List.Forall₂ (fun w s => column.toStorage w = .ok s) v.alternatives stored ∧
      (List.Forall₂ (fun parameter s => ∀ x, parameter.equal x = s.equal x)
          fragment.parameters stored ↔
        ∀ w ∈ v.alternatives, column.type = .boolean → w ≠ .null) ∧
      (List.Forall₂ (fun parameter s => parameter.equal s = true) fragment.parameters stored ↔
        ∀ w ∈ v.alternatives, if column.type = .boolean then w ≠ .null else w.equal w = true) := by
  have found : table.columnAt? key = some column := by
    rw [Table.columnAt?, named]
    exact (Table.coherent_of_build built).column?_name member
  obtain ⟨stored, converts⟩ := Column.exists_forall₂_toStorage notJson v.alternatives
  refine ⟨fieldFragment column v, stored, ?_, ?_, converts, ?_, ?_⟩
  · change Except.ok (compileFields table (.ofEntries [(key, v)])) = _
    simp only [compileFields, EntryWalk.ofEntries, fieldEvents, fieldFragments, found]
    rfl
  · rw [Column.parameters_fieldFragment, List.length_map]
  · rw [Column.parameters_fieldFragment]
    exact Column.forall₂_sought_iff (Column.equal_sought_eq_iff notJson) converts
  · rw [Column.parameters_fieldFragment]
    exact Column.forall₂_sought_iff (Column.equal_sought_iff notJson) converts

/-- A truth value and a number are both looked for as they are stored. -/
theorem Condition.seeks_as_stored_iff_people :
    ∃ fragment stored,
      (compile people (ofValue? (.dict [(.text "active", .list [.bool true, .int 0])]))
        ⟨⟨0, 0⟩, []⟩).1 = .ok ⟨[], .ok ⟨[fragment]⟩⟩ ∧
      List.Forall₂ (fun w s => personActive.toStorage w = .ok s) [.bool true, .int 0] stored ∧
      List.Forall₂ (fun parameter s => parameter.equal s = true) fragment.parameters stored := by
  obtain ⟨fragment, stored, compiled, _, converts, _, equal⟩ :=
    seeks_as_stored_iff people_built (List.mem_cons_of_mem _ List.mem_cons_self) (by decide)
      (rfl : (Value.text "active").text? = some personActive.name)
      (.list [.bool true, .int 0]) ⟨⟨0, 0⟩, []⟩
  refine ⟨fragment, stored, compiled, converts, equal.mpr ?_⟩
  simp [Value.alternatives, Value.sequence?, personActive]

/-- Null is stored as null in a column of truth values, and looked for as zero. -/
theorem Condition.null_sought_as_zero :
    (compile people (ofValue? (.dict [(.text "active", .null)])) ⟨⟨0, 0⟩, []⟩).1 =
        .ok ⟨[], .ok ⟨[⟨"`active`=?", [.int 0]⟩]⟩⟩ ∧
      personActive.toStorage .null = .ok .null ∧ (Value.int 0).equal .null = false :=
  ⟨rfl, rfl, rfl⟩

end RowMapper
