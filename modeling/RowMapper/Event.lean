import RowMapper.Name

/-!
# Logged events

What the library reports beside its answers. An event has a channel, a level and a wording.
-/

namespace RowMapper

/-- The part of the library that reports an event. -/
inductive Channel where
  | tables
  | conditions
  | records
  | engine
  | registry
  deriving DecidableEq

/-- How serious an event is. -/
inductive Level where
  | debug
  | info
  | warning
  | error
  deriving DecidableEq

/-- Whether a statement changes data or reads it. -/
inductive StatementUse where
  | execute
  | query
  deriving DecidableEq

namespace StatementUse

/-- The name of a use. -/
def name : StatementUse → String
  | .execute => "execute"
  | .query => "query"

end StatementUse

/-- Something to report. -/
inductive Event where
  | autoUpdateIgnored (model field first : Name)
  | conditionKeyIgnored (model : Name) (key : Value)
  | updateKeyIgnored (model : Name) (key : Value)
  | valueRejected (model field : Name) (isUpdate : Bool)
  | statementSent (use : StatementUse) (sql : String) (parameters : Nat)
  | modelDefined (model table : Name) (primaryKey : Option Name) (fields : Nat)
  | modelRejected (model : Value) (reason : String)

namespace Event

/-- The channel of an event. -/
def channel : Event → Channel
  | .autoUpdateIgnored .. => .tables
  | .conditionKeyIgnored .. => .conditions
  | .updateKeyIgnored .. | .valueRejected .. => .records
  | .statementSent .. => .engine
  | .modelDefined .. | .modelRejected .. => .registry

/-- The level of an event. -/
def level : Event → Level
  | .autoUpdateIgnored .. => .warning
  | .conditionKeyIgnored .. | .updateKeyIgnored .. | .statementSent .. => .debug
  | .valueRejected .. | .modelDefined .. => .info
  | .modelRejected .. => .error

/-- The wording of an event. -/
def message : Event → String
  | .autoUpdateIgnored model field first =>
      "Model " ++ model.display ++ ": auto_update field " ++ field.printed ++ " ignored, " ++
        first.printed ++ " already auto-updates"
  | .conditionKeyIgnored model key =>
      "Model " ++ model.display ++ ": ignoring unknown condition key " ++ key.printed
  | .updateKeyIgnored model key =>
      "Model " ++ model.display ++ ": ignoring unknown update key " ++ key.printed
  | .valueRejected model field isUpdate =>
      "Model " ++ model.display ++ ": field " ++ field.printed ++ " rejected value during " ++
        (if isUpdate then "update" else "insert")
  | .statementSent use sql parameters =>
      use.name ++ ": " ++ sql ++ " (" ++ Nat.repr parameters ++ " params)"
  | .modelDefined model table primaryKey fields =>
      "Defined model " ++ model.display ++ " (table=" ++ table.display ++ ", primary_key=" ++
        (primaryKey.map Name.display).getD "-" ++ ", fields=" ++ Nat.repr fields ++ ")"
  | .modelRejected model reason => "Model " ++ model.display ++ " rejected: " ++ reason

end Event

end RowMapper
