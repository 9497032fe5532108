import RowMapper.Proofs.Sending

/-!
# Statements of the operations that write

For every operation that writes there is a relation that says which statements it can send, by the
steps that lead up to them: how the condition compiles, how the assignments come about, how the
record changes. Each operation sends only such statements, and of a record it says what it can have
become at the end, however the operation ended.
-/

namespace RowMapper

theorem Except.eq_ok_of_mapError {ε ε' α : Type} {f : ε → ε'} {result : Except ε α} {answer : α}
    (mapped : result.mapError f = .ok answer) : result = .ok answer := by
  cases result with
  | error fault => cases mapped
  | ok other => cases mapped; rfl

/-! ## Quiet steps -/

namespace Action

variable {α : Type} {allowed : Statement → Prop}

/-- What an evaluation answers in the environment of some session. -/
theorem sends_inEnvironment (evaluation : Evaluation α) :
    Sends allowed (inEnvironment evaluation) fun answer =>
      ∃ environment, (evaluation environment).1 = .ok answer :=
  .of_quiet (quiet_inEnvironment evaluation) fun session _ same =>
    ⟨session.environment, Except.eq_ok_of_mapError same⟩

theorem sends_report (events : List Event) : Sends allowed (report events) fun _ => True :=
  .of_quiet (quiet_report events) fun _ _ _ => trivial

theorem sends_ofOperand (result : Except ValueFault α) :
    Sends allowed (ofOperand result) fun answer => result = .ok answer :=
  .of_quiet (quiet_ofOperand result) fun _ _ same => Except.eq_ok_of_mapError same

theorem sends_ofReport (outcome : Report α) :
    Sends allowed (ofReport outcome) fun answer => outcome.result = .ok answer :=
  (sends_report outcome.events).bind fun _ _ => .ofResult outcome.result

end Action

namespace Record

theorem quiet_calling (record : Record) (name : String) (given : Option Value)
    {operation : Action Value} (quiet : operation.Quiet) :
    (record.calling name given operation).Quiet := by
  rw [calling]
  split
  · exact Action.quiet_inEnvironment _
  · exact quiet

theorem quiet_isValid (record : Record) (model : Model) (isUpdate : Bool) :
    (record.isValid model isUpdate).Quiet := by
  apply Leaves.bind (Action.quiet_ofOperand _)
  intro meets
  split
  · exact Leaves.pure false
  · split
    · apply Leaves.bind (Action.quiet_ofOperand _)
      intro items
      exact Leaves.bind (Action.quiet_inEnvironment _) fun _ => Leaves.pure true
    · apply Leaves.bind (Action.quiet_inEnvironment _)
      intro rejected
      cases rejected with
      | none => exact Leaves.pure true
      | some column => exact Leaves.bind (Action.quiet_report _) fun _ => Leaves.pure false

theorem quiet_validate (record : Record) (model : Model) (isUpdate : Value) :
    (record.validate model isUpdate).Quiet :=
  record.quiet_calling _ _ <|
    Leaves.bind (record.quiet_isValid model isUpdate.truthy) fun _ => Leaves.pure _

theorem quiet_ownKey (record : Record) (model : Model) (operation : RecordOperation) :
    (record.ownKey model operation).Quiet := by
  apply Leaves.bind (Action.quiet_ofOperand _)
  intro key
  dsimp only
  split
  · exact Leaves.pure _
  · exact Leaves.bind (Action.quiet_ofOperand _) fun _ => Leaves.throw _

/-- Finding the key of a record is quiet. -/
theorem quiet_keyValue (record : Record) (model : Model) (operation : RecordOperation) :
    (record.keyValue model operation).Quiet :=
  record.quiet_calling _ _ (record.quiet_ownKey model operation)

/-- The key of a record is found where it has a value, unless an attribute is in the way. -/
theorem keyValue_of_held {record : Record} {model : Model} {operation : RecordOperation}
    (noStandIn : record.standIn? = none) (noRoutine : record.value? "_primary_key_value" = none)
    {name : String} (named : model.table.primaryKey = some name) {v : Value}
    (held : record.value? name = some v) (present : isKeyValue v = true) (session : Session) :
    record.keyValue model operation session = (.ok v, session) := by
  have found : record.valueOfKey? model.table = .ok (some v) := by
    rw [valueOfKey?, noStandIn, named]
    exact congrArg Except.ok held
  rw [keyValue, calling, noRoutine]
  simp only [ownKey, found]
  change (if isKeyValue v = true then _ else _ : Action Value) session = _
  rw [if_pos present]
  rfl

end Record

/-! ## Writing to the rows that meet a condition -/

/-- Whether a condition on the rows of a table can compile to a predicate. -/
def Condition.CompilesTo (table : Table) (condition : Option Condition)
    (predicate : Predicate) : Prop :=
  ∃ environment report, (compile table condition environment).1 = .ok report ∧
    report.result = .ok predicate

/-- Whether assignments can become others, with a time, by what keeps a column current. -/
def Table.StampsTo (table : Table) (assignments : Entries) (time : Value)
    (stamped : Entries) : Prop :=
  ∃ environment, (table.stamp assignments environment).1 = .ok (time, stamped)

/-- Whether the entries of a value can be gone through to the end. -/
def Value.WalksTo (values : Value) (entries : Entries) : Prop :=
  ∃ environment walk, (values.walkKeyed environment).1 = .ok walk ∧
    walk.finish walk.dictionary = .ok entries

namespace Model

/-- The statements that a removal by condition can send. -/
def RemovesWith (model : Model) (condition : Value) (statement : Statement) : Prop :=
  ∃ predicate, Condition.CompilesTo model.table (Condition.ofValue? condition) predicate ∧
    Statement.delete model.table predicate = .ok statement

/-- The statements that an update of the rows that meet a predicate can send. -/
def UpdatesMatching (model : Model) (predicate : Predicate) (values : Value)
    (statement : Statement) : Prop :=
  ∃ entries time assignments, values.WalksTo entries ∧
    model.table.StampsTo (model.table.assignments entries) time assignments ∧
    model.updateStatement assignments predicate = .ok statement

/-- The statements that an update by condition can send. -/
def UpdatesWith (model : Model) (condition values : Value) (statement : Statement) : Prop :=
  ∃ predicate, Condition.CompilesTo model.table (Condition.ofValue? condition) predicate ∧
    model.UpdatesMatching predicate values statement

variable {allowed : Statement → Prop}

theorem sends_compile (table : Table) (condition : Option Condition) :
    (Action.ofEvaluation (Condition.compile table condition)).Sends allowed
      (Condition.CompilesTo table condition) := by
  apply (Action.sends_inEnvironment _).bind
  intro report compiled
  obtain ⟨environment, compiled⟩ := compiled
  exact (Action.sends_ofReport report).weaken fun predicate accepted =>
    ⟨environment, report, compiled, accepted⟩

theorem sends_removeWhere (model : Model) (condition : Value) :
    (model.removeWhere condition).Sends (model.RemovesWith condition) fun _ => True := by
  apply (sends_compile model.table _).bind
  intro predicate compiled
  apply (Action.Sends.ofResult _).bind
  intro statement built
  exact Action.sends_executeStatement ⟨predicate, compiled, built⟩

theorem sends_updateMatching (model : Model) (predicate : Predicate) (values : Value) :
    (model.updateMatching predicate values).Sends (model.UpdatesMatching predicate values)
      fun _ => True := by
  apply (Action.sends_inEnvironment _).bind
  intro walk walked
  apply (Action.sends_report _).bind
  intro _ _
  apply (Action.sends_ofOperand _).bind
  intro entries finished
  refine (Action.sends_inEnvironment _).bind fun (time, assignments) stamped => ?_
  dsimp only
  split
  · exact .pure trivial
  · apply (Action.Sends.ofResult _).bind
    intro statement built
    obtain ⟨environment, walked⟩ := walked
    have sent : model.UpdatesMatching predicate values statement :=
      ⟨entries, time, assignments, ⟨environment, walk, walked, finished⟩, stamped, built⟩
    apply (Action.sends_executeStatement sent).bind
    intro result _
    exact (Action.sends_ofOperand _).weaken fun _ _ => trivial

theorem sends_updateWhere (model : Model) (condition values : Value) :
    (model.updateWhere condition values).Sends (model.UpdatesWith condition values)
      fun _ => True := by
  apply (sends_compile model.table _).bind
  intro predicate compiled
  exact (model.sends_updateMatching predicate values).allow fun statement sent =>
    ⟨predicate, compiled, sent⟩

end Model

/-! ## Writing a record -/

/-- An operation called by its name sends what it sends, or nothing where an attribute stands under
that name. -/
theorem RecordAction.sends_calling {α : Type} {allowed : Statement → Prop} {record : Record}
    {operation : RecordAction α} {after : α → Record → Prop} {failed : Record → Prop}
    (name : String) (given : Option Value)
    (sends : Sends allowed (· = record) operation after failed) (stays : failed record) :
    Sends allowed (· = record) (calling name given operation) after failed := by
  have reached : ∀ other, other = record → failed other := by
    rintro other rfl
    exact stays
  refine Sends.current.bind fun current => .of_each ?_
  rintro _ ⟨rfl, rfl⟩
  split
  · exact sends
  · apply (Sends.ofAction (Action.sends_inEnvironment _) reached).bind
    intro answer
    exact .throw fun other known => reached other known.2

namespace Record

/-- Whether a record can become another when the column kept current is stamped before an
insertion: only an unset value is, with the default of the column. -/
def StampedTo (model : Model) (record stamped : Record) : Prop :=
  stamped = record ∨
    ∃ column time environment, model.table.autoUpdate = some column ∧
      record.get column.name = .ok .unset ∧
      (column.resolveDefault environment).1 = .ok time ∧
      record.assign column.label time column.default.sourceMark? = .ok stamped

/-- Whether a record can become another by taking over a generated key after an insertion. -/
def KeyedTo (model : Model) (record keyed : Record) : Prop :=
  keyed = record ∨
    ∃ column key, model.table.key = some column ∧ record.sendsKey model.table = false ∧
      key.isNull = false ∧ record.assign column.label key none = .ok keyed

/-- The statements that an insertion of a record can send. -/
def InsertsWith (record : Record) (model : Model) (statement : Statement) : Prop :=
  ∃ stamped row, record.StampedTo model stamped ∧
    stamped.rowOf model.table (stamped.sendsKey model.table) model.table.columns = .ok row ∧
    Statement.insert model.table row = .ok statement

/-- What an insertion can make of a record. -/
def InsertedTo (record : Record) (model : Model) (inserted : Record) : Prop :=
  ∃ stamped, record.StampedTo model stamped ∧ stamped.KeyedTo model inserted

theorem stampedTo_self (record : Record) (model : Model) : record.StampedTo model record :=
  .inl rfl

/-- A stamped record is one that an insertion can leave behind. -/
theorem StampedTo.stays {record stamped : Record} {model : Model}
    (becomes : record.StampedTo model stamped) :
    ∀ other, other = stamped → record.InsertedTo model other := by
  rintro other rfl
  exact ⟨other, becomes, .inl rfl⟩

section

variable {allowed : Statement → Prop} {before failed : Record → Prop}

theorem sends_checkIf (wanted : Bool) (model : Model) (isUpdate : Bool)
    (stays : ∀ record, before record → failed record) :
    RecordAction.Sends allowed before (checkIf wanted model isUpdate)
      (fun _ record => before record) failed := by
  rw [checkIf]
  split
  · apply RecordAction.Sends.current.bind
    intro record
    have validates : (record.validate model (.bool isUpdate)).Sends allowed fun _ => True :=
      .of_quiet (record.quiet_validate model _) fun _ _ _ => trivial
    apply (RecordAction.Sends.ofAction validates fun other both => stays other both.2).bind
    intro verdict
    exact .pure fun other known => known.2.2
  · exact .pure fun _ holds => holds

theorem sends_stampUnset (record : Record) (model : Model) :
    RecordAction.Sends allowed (· = record) (stampUnset model)
      (fun _ stamped => record.StampedTo model stamped) (record.InsertedTo model) := by
  have stays := (record.stampedTo_self model).stays
  rw [stampUnset]
  cases found : model.table.autoUpdate with
  | none => exact .pure fun other same => .inl same
  | some column =>
      apply (RecordAction.Sends.ofRecord _ stays).bind
      intro v
      split
      next unset =>
        rw [Value.isUnset_eq_true] at unset
        have reads := fun (other : Record)
          (known : other.get column.name = .ok v ∧ other = record) => stays other known.2
        apply (RecordAction.Sends.ofAction
          (Action.sends_inEnvironment column.resolveDefault) reads).bind
        intro time
        apply (RecordAction.Sends.change fun other known => reads other known.2).weaken
        rintro _ stamped ⟨other, ⟨⟨environment, resolved⟩, got, rfl⟩, assigned⟩
        rw [unset] at got
        exact .inr ⟨column, time, environment, found, got, resolved, assigned⟩
      next => exact .pure fun other known => .inl known.2

theorem sends_adoptKey (record stamped : Record) (model : Model)
    (becomes : record.StampedTo model stamped) {withKey : Bool}
    (sendsKey : withKey = stamped.sendsKey model.table) (insertId : Value) :
    RecordAction.Sends allowed (· = stamped) (adoptKey model withKey insertId)
      (fun _ => record.InsertedTo model) (record.InsertedTo model) := by
  have stays := becomes.stays
  rw [adoptKey]
  cases found : model.table.key with
  | none => exact .pure stays
  | some column =>
      dsimp only
      split
      next => exact .pure stays
      next taken =>
        simp only [Bool.or_eq_true, not_or, Bool.not_eq_true] at taken
        apply (RecordAction.Sends.change stays).weaken
        rintro _ keyed ⟨other, rfl, assigned⟩
        exact ⟨other, becomes,
          .inr ⟨column, insertId, found, sendsKey ▸ taken.1, taken.2, assigned⟩⟩

end

theorem sends_insertRow (record stamped : Record) (model : Model)
    (becomes : record.StampedTo model stamped) :
    RecordAction.Sends (record.InsertsWith model) (· = stamped) (insertRow model)
      (fun _ => record.InsertedTo model) (record.InsertedTo model) := by
  have stays := becomes.stays
  apply RecordAction.Sends.current.bind
  intro current
  apply (RecordAction.Sends.ofRecord _ fun other known => stays other known.2).bind
  intro row
  refine .of_each ?_
  rintro other ⟨written, rfl, rfl⟩
  apply (RecordAction.Sends.ofAction (.ofResult _) stays).bind
  intro statement
  refine .of_each ?_
  rintro _ ⟨built, rfl⟩
  apply (RecordAction.Sends.ofRecord _ stays).bind
  intro _
  have sent : record.InsertsWith model statement := ⟨_, row, becomes, written, built⟩
  apply (RecordAction.Sends.ofAction (Action.sends_executeStatement sent)
    fun other known => stays other known.2).bind
  intro result
  apply (RecordAction.Sends.ofAction (Action.sends_ofOperand _)
    fun other known => stays other known.2.2).bind
  intro inserted
  split
  · have adopts : RecordAction.Sends (record.InsertsWith model) _ _ _ _ :=
      sends_adoptKey record _ model becomes rfl result.insertId
    apply (adopts.narrow fun other known => known.2.2.2).bind
    intro _
    exact .pure fun _ reached => reached
  · exact .pure fun other known => stays other known.2.2.2

/-- What an insertion sends, and what becomes of the record. -/
theorem sends_save (record : Record) (model : Model) (validated : Bool) :
    RecordAction.Sends (record.InsertsWith model) (· = record) (save model validated)
      (fun _ => record.InsertedTo model) (record.InsertedTo model) := by
  have stays := (record.stampedTo_self model).stays
  apply (sends_checkIf validated model false stays).bind
  intro valid
  split
  · exact .pure stays
  apply (RecordAction.Sends.ofRecord _ stays).bind
  intro _
  apply ((sends_stampUnset record model).narrow fun other known => known.2).bind
  intro _
  refine .of_each fun stamped becomes => ?_
  have inserts := sends_insertRow record stamped model becomes
  split
  · apply (RecordAction.Sends.ofRecord _ becomes.stays).bind
    intro _
    exact inserts.narrow fun other known => known.2
  · exact inserts

/-! ## Writing a record to its row -/

/-- Whether a record can become another by taking over the time of an update, null if the update
sets no time. -/
def AdoptsTo (record : Record) (model : Model) (time : Value) (adopted : Record) : Prop :=
  adopted = record ∨
    ∃ column, model.table.autoUpdate = some column ∧ time.isNull = false ∧
      record.assign column.label time column.default.sourceMark? = .ok adopted

/-- What an update can make of a record. -/
def UpdatedTo (record : Record) (model : Model) (updated : Record) : Prop :=
  updated = record ∨
    ∃ values time assignments,
      record.updateValues model.table model.table.columns = .ok values ∧
        model.table.StampsTo values time assignments ∧ record.AdoptsTo model time updated

/-- The statements that an update of a record under a key can send. -/
def WritesWith (record : Record) (model : Model) (key : Value) (statement : Statement) : Prop :=
  ∃ values time assignments adopted predicate,
    record.updateValues model.table model.table.columns = .ok values ∧
      model.table.StampsTo values time assignments ∧ record.AdoptsTo model time adopted ∧
      Condition.CompilesTo model.table (some (.scalar (adopted.refreshKey model.table key)))
        predicate ∧
      model.updateStatement (adopted.refresh assignments) predicate = .ok statement

section

variable {allowed : Statement → Prop}

theorem sends_adoptTime (record : Record) (model : Model) (time : Value)
    {failed : Record → Prop} (stays : ∀ other, other = record → failed other) :
    RecordAction.Sends allowed (· = record) (adoptTime model time)
      (fun _ => record.AdoptsTo model time) failed := by
  rw [adoptTime]
  cases found : model.table.autoUpdate with
  | none => exact .pure fun other same => .inl same
  | some column =>
      dsimp only
      split
      next => exact .pure fun other same => .inl same
      next notNull =>
        apply (RecordAction.Sends.change stays).weaken
        rintro _ adopted ⟨other, rfl, assigned⟩
        exact .inr ⟨column, found, Bool.eq_false_iff.mpr notNull, assigned⟩

end

/-- What an update of a record under a key sends, and what becomes of the record. -/
theorem sends_updateRow (record : Record) (model : Model) (validated : Bool) (key : Value) :
    RecordAction.Sends (record.WritesWith model key) (· = record)
      (updateRow model validated key) (fun _ => record.UpdatedTo model)
      (record.UpdatedTo model) := by
  have stays : ∀ other, other = record → record.UpdatedTo model other := fun _ same => .inl same
  apply (sends_checkIf validated model true stays).bind
  intro valid
  split
  · exact .pure stays
  apply (RecordAction.Sends.ofRecord _ stays).bind
  intro _
  apply (RecordAction.Sends.ofRecord _ fun other known => stays other known.2).bind
  intro values
  refine .of_each ?_
  rintro _ ⟨gathered, _, rfl⟩
  apply (RecordAction.Sends.ofAction (Action.sends_inEnvironment _) stays).bind
  rintro ⟨time, assignments⟩
  refine .of_each ?_
  rintro record ⟨stamped, rfl⟩
  dsimp only
  -- From here on the record can have changed, and the assignments and the key follow it.
  apply (sends_adoptTime record model time stays).bind
  intro _
  refine .of_each fun adopted adopts => ?_
  have reached : ∀ other, other = adopted → record.UpdatedTo model other := by
    rintro other rfl
    exact .inr ⟨values, time, assignments, gathered, stamped, adopts⟩
  apply RecordAction.Sends.current.bind
  intro current
  refine .of_each ?_
  rintro _ ⟨rfl, rfl⟩
  split
  · exact .pure reached
  apply (RecordAction.Sends.ofAction (Model.sends_compile _ _) reached).bind
  intro predicate
  refine .of_each ?_
  rintro _ ⟨compiled, rfl⟩
  apply (RecordAction.Sends.ofAction (.ofResult _) reached).bind
  intro statement
  refine .of_each ?_
  rintro _ ⟨built, rfl⟩
  apply (RecordAction.Sends.ofRecord _ reached).bind
  intro _
  have sent : record.WritesWith model key statement :=
    ⟨values, time, assignments, _, predicate, gathered, stamped, adopts, compiled, built⟩
  apply (RecordAction.Sends.ofAction (Action.sends_executeStatement sent)
    fun other known => reached other known.2).bind
  intro result
  exact (RecordAction.Sends.ofAction (Action.sends_ofOperand _)
    fun other known => reached other known.2.2).weaken fun _ other known =>
      reached other known.2.2.2

/-- Whether an operation can find a key for a record. -/
def KeyedBy (record : Record) (model : Model) (operation : RecordOperation) (key : Value) : Prop :=
  ∃ session, (record.keyValue model operation session).1 = .ok key

theorem sends_keyValue {allowed : Statement → Prop} (record : Record) (model : Model)
    (operation : RecordOperation) :
    (record.keyValue model operation).Sends allowed (record.KeyedBy model operation) :=
  .of_quiet (record.quiet_keyValue model operation) fun session _ same => ⟨session, same⟩

/-- The statements that an update of a record can send. -/
def UpdatesWith (record : Record) (model : Model) (statement : Statement) : Prop :=
  ∃ key, record.KeyedBy model .update key ∧ record.WritesWith model key statement

/-- The statements that the removal of the row of a record can send. -/
def RemovesWith (record : Record) (model : Model) (statement : Statement) : Prop :=
  ∃ key condition, record.KeyedBy model .remove key ∧
    record.keyCondition model.table key = .ok condition ∧ model.RemovesWith condition statement

/-- What an update of a record sends, and what becomes of the record. -/
theorem sends_update (record : Record) (model : Model) (validated : Bool) :
    RecordAction.Sends (record.UpdatesWith model) (· = record) (update model validated)
      (fun _ => record.UpdatedTo model) (record.UpdatedTo model) := by
  have stays : ∀ other, other = record → record.UpdatedTo model other := fun _ same => .inl same
  apply RecordAction.Sends.current.bind
  intro current
  refine .of_each ?_
  rintro _ ⟨rfl, rfl⟩
  apply (RecordAction.Sends.ofAction (sends_keyValue _ model .update) stays).bind
  intro key
  refine .of_each ?_
  rintro record ⟨keyed, rfl⟩
  exact (sends_updateRow record model validated key).allow fun statement written =>
    ⟨key, keyed, written⟩

/-- What the removal of the row of a record sends. The record stays as it is. -/
theorem sends_remove (record : Record) (model : Model) :
    RecordAction.Sends (record.RemovesWith model) (· = record) (remove model)
      (fun _ => (· = record)) (· = record) := by
  apply RecordAction.Sends.current.bind
  intro current
  refine .of_each ?_
  rintro _ ⟨rfl, rfl⟩
  apply (RecordAction.Sends.ofAction (sends_keyValue _ model .remove) fun _ same => same).bind
  intro key
  refine .of_each ?_
  rintro record ⟨keyed, rfl⟩
  apply (RecordAction.Sends.ofRecord _ fun _ same => same).bind
  intro condition
  refine .of_each ?_
  rintro record ⟨found, rfl⟩
  have removes : (model.removeWhere condition).Sends (record.RemovesWith model) fun _ => True :=
    (model.sends_removeWhere condition).allow fun statement sent =>
      ⟨key, condition, keyed, found, sent⟩
  apply (RecordAction.Sends.ofAction removes fun _ same => same).bind
  intro removed
  exact (RecordAction.Sends.ofAction (Action.sends_ofOperand _) fun _ known => known.2).weaken
    fun _ _ known => known.2.2

end Record

end RowMapper
