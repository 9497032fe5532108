import RowMapper.Value.Basic

/-!
# Equality of values

Numbers are equal when they stand for the same number, whatever their kinds, and a field type
equals the text of its name. Inside a container an item is also equal to itself as an occurrence,
which only a NaN can tell: `sameItem` is the relation between items and `equal` the one between
whole values.
-/

namespace RowMapper

namespace Value

mutual

/-- Whether two items of containers count as equal. -/
def sameItem : Value → Value → Bool
  | .null, .null => true
  | .unset, .unset => true
  | .currentTime, .currentTime => true
  | .text s, w => w.text? = some s
  | .fieldType type, w => w.text? = some type.name
  | .octets a, .octets b => a == b
  | .list as, .list bs => sameItems as bs
  | .tuple as, .tuple bs => sameItems as bs
  | .dict as, .dict bs => as.length == bs.length && sameEntries as bs
  | .set as, .set bs => as.length == bs.length && allMembers as bs
  | .timestamp a, .timestamp b => a.equal b
  | .routine m body _, .routine m' body' _ => body == body' && (body.isShared || m == m')
  | .object kind as, .object kind' bs => kind == kind' && sameItems as bs
  | .float (.nan mark), w =>
      match w with
      | .float (.nan mark') => mark == mark'
      | _ => false
  | v, w =>
      match v.number?, w.number? with
      | some a, some b => a.equal b
      | _, _ => false
termination_by structural v => v

/-- Item by item equality of sequences of one length. -/
def sameItems : List Value → List Value → Bool
  | [], [] => true
  | a :: as, b :: bs => sameItem a b && sameItems as bs
  | _, _ => false
termination_by structural as => as

/-- Whether every item of the first collection is among those of the second. -/
def allMembers : List Value → List Value → Bool
  | [], _ => true
  | a :: as, bs => bs.any (sameItem a) && allMembers as bs
termination_by structural as => as

/-- Whether every entry of the first dictionary is one of the second. -/
def sameEntries : List (Value × Value) → List (Value × Value) → Bool
  | [], _ => true
  | (k, v) :: as, bs =>
      ((bs.find? fun entry => sameItem k entry.1).map fun entry => sameItem v entry.2).getD false
        && sameEntries as bs
termination_by structural as => as

end

/-- Whether two values are equal. A NaN is not equal to anything, not even to itself. -/
def equal (v w : Value) : Bool :=
  match v with
  | .float (.nan _) => false
  | _ => sameItem v w

/-- Whether a sequence has an item equal to a value. -/
def occursIn (v : Value) (items : List Value) : Bool :=
  items.any (sameItem · v)

end Value

end RowMapper
