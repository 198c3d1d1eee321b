import DeliveryRules.Value.Basic

/-! Two equalities of values: of the built conditions they hold, and of the data rules compare. -/

namespace DeliveryRules

/-- Whether two values count as the same number, truth values counting as one and zero. -/
def sameNumeral (left right : Value) : Bool :=
  match left.numeral?, right.numeral? with
  | some a, some b => a.order? b == some .eq
  | _, _ => false

mutual

/-- Sameness of values: truth values count as numbers, and lists differ from tuples. -/
def Value.same : Value → Value → Bool
  | .null, .null => true
  | .text a, .text b => a == b
  | .bytes a, .bytes b => a == b
  | .list a, .list b => sameItems a b
  | .tuple a, .tuple b => sameItems a b
  | .object a, .object b => a.length == b.length && sameMembers a b
  | .condition a, .condition b => a.same b
  | a, b => sameNumeral a b
termination_by structural left => left

/-- Sameness of built conditions: one kind, and every part the same. -/
def Condition.same : Condition → Condition → Bool
  | .literal a, .literal b => a.same b
  | .field a, .field b => a.same b
  | .comparison f a b, .comparison g c d => f == g && a.same c && b.same d
  -- An operator that was never resolved is the same as a comparison whose tag it spells.
  | .comparison f a b, .unchecked (.text tag) c d => f.tag == tag && a.same c && b.same d
  | .unchecked (.text tag) a b, .comparison g c d => tag == g.tag && a.same c && b.same d
  | .unchecked f a b, .unchecked g c d => f.same g && a.same c && b.same d
  | .junction f a, .junction g b => f == g && sameItems a b
  | .branch a b c, .branch d e f => a.same d && b.same e && c.same f
  | _, _ => false
termination_by structural left => left

/-- Sameness of two sequences, element by element. -/
def sameItems : List Value → List Value → Bool
  | [], [] => true
  | a :: as, b :: bs => a.same b && sameItems as bs
  | _, _ => false
termination_by structural left => left

/-- Whether every member has a member of the same value under its key. -/
def sameMembers : List (String × Value) → List (String × Value) → Bool
  | [], _ => true
  | (key, a) :: rest, others =>
    (match others.lookup key with
      | some b => a.same b
      | none => false) && sameMembers rest others
termination_by structural left => left

end

mutual

/-- Equality of data: truth values only equal truth values, and numbers go by their exact value. -/
def Value.equal : Value → Value → Bool
  | .bool a, .bool b => a == b
  | .bool _, _ => false
  | _, .bool _ => false
  -- Keys may come in any order, and a list equals a tuple of equal elements.
  | .object a, .object b => a.length == b.length && equalMembers a b
  | .list a, .list b => equalItems a b
  | .list a, .tuple b => equalItems a b
  | .tuple a, .list b => equalItems a b
  | .tuple a, .tuple b => equalItems a b
  | a, b => a.same b
termination_by structural left => left

/-- Equality of two sequences, element by element. -/
def equalItems : List Value → List Value → Bool
  | [], [] => true
  | a :: as, b :: bs => a.equal b && equalItems as bs
  | _, _ => false
termination_by structural left => left

/-- Whether every member has a member of equal value under its key. -/
def equalMembers : List (String × Value) → List (String × Value) → Bool
  | [], _ => true
  | (key, a) :: rest, others =>
    (match others.lookup key with
      | some b => a.equal b
      | none => false) && equalMembers rest others
termination_by structural left => left

end

namespace Comparator

/-- A comparison applied to two values: only numbers have an order, and any two can be equal. -/
def holds (comparator : Comparator) (left right : Value) : Bool :=
  let order := do (← left.number?).order? (← right.number?)
  match comparator with
  | .greater => order == some .gt
  | .less => order == some .lt
  | .atLeast => order == some .gt || order == some .eq
  | .atMost => order == some .lt || order == some .eq
  | .equal => left.equal right
  | .unequal => !left.equal right

end Comparator

end DeliveryRules
