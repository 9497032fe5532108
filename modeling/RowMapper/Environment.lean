import RowMapper.Schema.Column
import RowMapper.Value.EntryWalk
import RowMapper.Value.Order

/-!
# Clock and routines

Some routines have a state: a counter has its next number, and a constant may be a list or
dictionary that was changed after it was handed out. The state of a routine is kept under its mark
and starts from its arguments. Together with the clock it forms the environment in which defaults
are resolved and validators run.
-/

namespace RowMapper

/-- A clock that shows epoch milliseconds and goes on by a fixed amount at each reading. -/
structure Clock where
  now : Int
  tick : Int
  deriving DecidableEq

namespace Clock

/-- The clock after a reading. -/
def advance (clock : Clock) : Clock :=
  { clock with now := clock.now + clock.tick }

/-- Epoch milliseconds of a time in seconds, without their fraction. -/
def milliseconds (seconds : Value) : Except ValueFault Int := do
  (← seconds.thousandfold).toInteger

end Clock

/-- The clock and the states of routines by their marks. -/
structure Environment where
  clock : Clock
  states : List (Nat × Value)

namespace Environment

/-- The state of a routine. -/
def stateOf (environment : Environment) (mark : Nat) (initial : Value) : Value :=
  (environment.states.lookup mark).getD initial

/-- Set the state of a routine. -/
def setState (environment : Environment) (mark : Nat) (state : Value) : Environment :=
  { environment with states := (mark, state) :: environment.states.filter (·.1 ≠ mark) }

end Environment

/-- Something that runs in an environment: it may read the clock, change states and fail. -/
abbrev Evaluation := ExceptT ValueFault (StateM Environment)

namespace Evaluation

/-- Pass on an answer that needs no environment. -/
def ofOperand {α : Type} (result : Except ValueFault α) : Evaluation α :=
  fun environment => (result, environment)

/-- Read the clock. -/
def readClock : Evaluation Value :=
  fun environment =>
    (.ok (.int environment.clock.now), { environment with clock := environment.clock.advance })

/-- The state of a routine. -/
def stateOf (mark : Nat) (initial : Value) : Evaluation Value :=
  fun environment => (.ok (environment.stateOf mark initial), environment)

/-- Set the state of a routine. -/
def setState (mark : Nat) (state : Value) : Evaluation Unit :=
  fun environment => (.ok (), environment.setState mark state)

end Evaluation

namespace Routine

/-- The first argument of a routine. -/
def argument (arguments : List Value) : Value :=
  arguments.headD .null

/-- The number after another one. Texts and sequences know an addition of their own, which does
not take numbers. -/
def successor (v : Value) : Except ValueFault Value :=
  match v with
  | .int n => .ok (.int (n + 1))
  | .bool b => .ok (.int (if b then 2 else 1))
  | .float x => .ok (.float x.addOne)
  | .text _ | .fieldType _ => .error (.notConcatenable "str")
  | .tuple _ => .error (.notConcatenable "tuple")
  | .octets _ => .error .octetsNotConcatenable
  | .list _ => .error (.notIterable "int")
  | _ => .error (.noSuccessor v.operandName)

/-- Whether a count stands in an order relation to a limit. -/
def countWithin (count : Nat) (limit : Value) : Except ValueFault Bool :=
  Value.ordered .atMost (.int count) limit

/-- The answer of a routine that reads the value it is given. -/
def reading (given : Option Value) (answer : Value → Except ValueFault Value) :
    Evaluation Value :=
  match given with
  | some v => .ofOperand (answer v)
  | none => throw (.missingOperand "len")

/-- Call a routine, with a value or without. Producers pay no regard to a value. -/
def call (body : Routine) (mark : Nat) (arguments : List Value) (given : Option Value) :
    Evaluation Value := do
  let first := argument arguments
  match body with
  | .constant => .stateOf mark first
  | .counter =>
      let state ← .stateOf mark first
      .setState mark (← .ofOperand (successor state))
      return state
  | .failing => throw (.raised first.display)
  | .sealed => return .bool true
  | .truth => return .bool ((given.map Value.truthy).getD false)
  | .listing =>
      match given with
      | some v => return .list (← .ofOperand v.items)
      | none => return .list []
  | .lengthAtMost | .lengthWithin =>
      reading given fun v => do return .bool (← countWithin (← v.size) first)
  | .atLeast => reading given fun v => do return .bool (← v.ordered .atLeast first)
  | .oneOf => reading given fun v => do return .bool (← first.contains v)
  | .notEmpty => reading given fun v => .ok (.bool (!v.equal (.text "")))
  | .notNull => reading given fun v => .ok (.bool (!v.isNull))
  | .accept => reading given fun _ => .ok (.bool true)
  | .reject => reading given fun _ => .ok (.bool false)
  | .echo => reading given .ok
  | .length => reading given fun v => do return .int (← v.size)

end Routine

namespace Value

/-- Call a value, which has to be a routine, with another one or without. -/
def call (routine : Value) (given : Option Value) : Evaluation Value :=
  match routine with
  | .routine mark body arguments => body.call mark arguments given
  | _ => throw (.notCallable routine.operandName)

/-- The entries of a value, one after the other. Dictionaries have entries; those of a field map
come from the routine inside it, whose answer is gone through. -/
def walk (v : Value) : Evaluation EntryWalk :=
  match v with
  | .dict entries => return .ofEntries entries
  | .object .fieldMap [inner] => do return .ofItems (← .ofOperand (← inner.call none).items)
  | _ => throw (v.lacks "items")

/-- The entries of a value as far as their keys can be looked up. -/
def walkKeyed (v : Value) : Evaluation EntryWalk :=
  match v with
  | .dict entries => return .ofEntries entries
  | _ => do return (← v.walk).keyed

/-- The mark of a routine that hands out one and the same value each time. -/
def sourceMark? : Value → Option Nat
  | .routine mark .constant _ => some mark
  | _ => none

end Value

namespace Column

/-- The value that a fresh record gets for the column. -/
def resolveDefault (column : Column) : Evaluation Value :=
  match column.default with
  | .currentTime => .readClock
  | .routine mark body arguments => body.call mark arguments none
  | v => return v

end Column

end RowMapper
