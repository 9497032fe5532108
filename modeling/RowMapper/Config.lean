import RowMapper.Fault
import RowMapper.Text.Lowercase

/-!
# Connection settings

Where the database is and how to connect to it. The settings can be read from named variables,
such as those of a process environment.
-/

namespace RowMapper

/-- Settings of a connection. -/
structure Config where
  url : Value
  echo : Value
  prePing : Value

namespace Config

/-- Settings from their parts. The address has to be a text that is not blank. -/
def make (url echo prePing : Value) : Except Fault Config :=
  match url.text? with
  | some s => if s.toList.all Text.isBlank then .error .badUrl else .ok ⟨url, echo, prePing⟩
  | none => .error .badUrl

/-- The words that switch a setting on. -/
def switchWords : List String := ["1", "true", "yes", "on"]

/-- Whether a variable switches a setting on, in any case and with blanks around it. -/
def isSwitchedOn (s : String) : Bool :=
  switchWords.contains (.ofList (Text.lowercase (Text.trim s.toList)))

/-- Settings from variables whose names begin alike. A variable that is not set counts as
empty. -/
def ofVariables (start : String) (settings : List (String × String)) : Except Fault Config :=
  let valueOf (name : String) : String := (settings.lookup (start ++ name)).getD ""
  make (.text (valueOf "DB_URL")) (.bool (isSwitchedOn (valueOf "DB_ECHO"))) (.bool true)

/-- The settings with which an engine is set up, by name. -/
def engineOptions (config : Config) : List (String × Value) :=
  [("echo", config.echo), ("pool_pre_ping", config.prePing)]

end Config

end RowMapper
