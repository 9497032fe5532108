import RowMapper.Value.Equality
import RowMapper.Value.Fault

/-!
# Order of values

Numbers, texts, octets and timestamps are ordered among themselves, sequences of one kind by their
first difference, and sets by inclusion. All other pairs of kinds are refused.
-/

namespace RowMapper

/-- An order relation that can be asked for. -/
inductive OrderRelation where
  | atMost
  | atLeast
  | above
  deriving DecidableEq

namespace OrderRelation

/-- The sign of a relation in diagnostics. -/
def sign : OrderRelation → String
  | .atMost => "<="
  | .atLeast => ">="
  | .above => ">"

/-- Whether two things in a given order stand in the relation. -/
def holds : OrderRelation → Ordering → Bool
  | .atMost, order => order.isLE
  | .atLeast, order => order.isGE
  | .above, order => order.isGT

end OrderRelation

/-- The lexicographic order of lists of naturals. -/
def compareNaturals : List Nat → List Nat → Ordering
  | [], [] => .eq
  | [], _ :: _ => .lt
  | _ :: _, [] => .gt
  | a :: as, b :: bs => (compare a b).then (compareNaturals as bs)

namespace Value

/-- The refusal to order two values. -/
def notOrdered (relation : OrderRelation) (v w : Value) : Except ValueFault Bool :=
  .error (.notOrdered relation.sign v.operandName w.operandName)

/-- The order of two values neither of which is a container. -/
def scalarOrdered (relation : OrderRelation) (v w : Value) : Except ValueFault Bool :=
  match v.number?, w.number? with
  | some a, some b => .ok (((a.compare? b).map relation.holds).getD false)
  | _, _ =>
      match v.text?, w.text? with
      | some a, some b =>
          .ok (relation.holds
            (compareNaturals (a.toList.map Char.toNat) (b.toList.map Char.toNat)))
      | _, _ =>
          match v, w with
          | .octets a, .octets b =>
              .ok (relation.holds
                (compareNaturals (a.map UInt8.toNat) (b.map UInt8.toNat)))
          | .timestamp a, .timestamp b =>
              match a.compare? b with
              | some order => .ok (relation.holds order)
              | none => .error .mixedOffsets
          | _, _ => notOrdered relation v w

mutual

/-- Whether two values stand in an order relation. -/
def ordered (relation : OrderRelation) (v w : Value) : Except ValueFault Bool :=
  match v with
  | .list as =>
      match w with
      | .list bs => orderedItems relation as bs
      | _ => notOrdered relation v w
  | .tuple as =>
      match w with
      | .tuple bs => orderedItems relation as bs
      | _ => notOrdered relation v w
  | .set as =>
      match w with
      | .set bs =>
          .ok (match relation with
            | .atMost => allMembers as bs
            | .atLeast => allMembers bs as
            | .above => allMembers bs as && !allMembers as bs)
      | _ => notOrdered relation v w
  | _ => scalarOrdered relation v w
termination_by structural v

/-- The order of two sequences: that of their first differing items, or of their lengths. -/
def orderedItems (relation : OrderRelation) (as bs : List Value) : Except ValueFault Bool :=
  match as with
  | [] => .ok (relation.holds (compare 0 bs.length))
  | a :: as =>
      match bs with
      | [] => .ok (relation.holds .gt)
      | b :: bs => if sameItem a b then orderedItems relation as bs else ordered relation a b
termination_by structural as

end

end Value

end RowMapper
