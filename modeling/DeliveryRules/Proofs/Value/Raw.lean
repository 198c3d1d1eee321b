import DeliveryRules.Value.Display

/-! Decoded data, which holds no built conditions, and what holds of it as it holds of its parts. -/

namespace DeliveryRules

mutual

/-- Whether a value is decoded data only: no built condition stands anywhere in it. -/
def Value.isRaw : Value → Bool
  | .condition _ => false
  | .list items => areRaw items
  | .tuple items => areRaw items
  | .object members => membersAreRaw members
  | _ => true
termination_by structural value => value

/-- Whether every item is decoded data only. -/
def areRaw : List Value → Bool
  | [] => true
  | item :: rest => item.isRaw && areRaw rest
termination_by structural items => items

/-- Whether every member holds decoded data only. -/
def membersAreRaw : List (String × Value) → Bool
  | [] => true
  | (_, value) :: rest => value.isRaw && membersAreRaw rest
termination_by structural members => members

end

mutual

/-- A value with lists in place of its tuples, at every depth. -/
def Value.withLists : Value → Value
  | .list items => .list (itemsWithLists items)
  | .tuple items => .list (itemsWithLists items)
  | .object members => .object (membersWithLists members)
  | value => value
termination_by structural value => value

/-- Items with lists in place of their tuples. -/
def itemsWithLists : List Value → List Value
  | [] => []
  | item :: rest => item.withLists :: itemsWithLists rest
termination_by structural items => items

/-- Members with lists in place of their tuples. -/
def membersWithLists : List (String × Value) → List (String × Value)
  | [] => []
  | (key, value) :: rest => (key, value.withLists) :: membersWithLists rest
termination_by structural members => members

end

/-- Items are raw together exactly if each of them is. -/
theorem areRaw_iff {items : List Value} :
    areRaw items = true ↔ ∀ item ∈ items, item.isRaw = true := by
  induction items with
  | nil => simp [areRaw]
  | cons item rest ih => simp [areRaw, ih]

/-- Members are raw together exactly if each of them is. -/
theorem membersAreRaw_iff {members : List (String × Value)} :
    membersAreRaw members = true ↔ ∀ member ∈ members, member.2.isRaw = true := by
  induction members with
  | nil => simp [membersAreRaw]
  | cons member rest ih => simp [membersAreRaw, ih]

/-- Items are writable together exactly if each of them is. -/
theorem areWritable_eq_all (items : List Value) :
    areWritable items = items.all Value.isWritable := by
  induction items with
  | nil => rfl
  | cons item rest ih => rw [areWritable, ih, List.all_cons]

/-- Members are writable together exactly if the value of each of them is. -/
theorem membersAreWritable_eq_all (members : Members) :
    membersAreWritable members = members.all fun member => member.2.isWritable := by
  induction members with
  | nil => rfl
  | cons member rest ih => rw [membersAreWritable, ih, List.all_cons]

/-- Every item is changed on its own. -/
theorem itemsWithLists_eq_map (items : List Value) :
    itemsWithLists items = items.map Value.withLists := by
  induction items with
  | nil => rfl
  | cons item rest ih => simp [itemsWithLists, ih]

/-- Every member is changed on its own, and keeps its key. -/
theorem membersWithLists_eq_map (members : Members) :
    membersWithLists members = members.map fun member => (member.1, member.2.withLists) := by
  induction members with
  | nil => rfl
  | cons member rest ih => rw [membersWithLists, ih, List.map_cons]

namespace Value

/-- A sequence is the list or the tuple of its items. -/
theorem items?_eq_some {value : Value} {items : List Value} :
    value.items? = some items ↔ value = .list items ∨ value = .tuple items := by
  cases value <;> simp [items?]

/-- Scalars are decoded data. -/
theorem isRaw_scalar {value : Value} (scalar : value.isScalar = true) : value.isRaw = true := by
  cases value <;> simp_all [isScalar, isRaw]

/-- Scalars hold no sequences. -/
theorem withLists_scalar {value : Value} (scalar : value.isScalar = true) :
    value.withLists = value := by
  cases value <;> simp_all [isScalar, withLists]

/-- A raw value is not a built condition. -/
theorem ne_condition {value : Value} (raw : value.isRaw = true) (condition : Condition) :
    value ≠ .condition condition := by
  rintro rfl
  simp [isRaw] at raw

/-- A property that a container has exactly if all of its parts have it. -/
structure IsPartwise (holds : Value → Bool) : Prop where
  sequence : ∀ {value : Value} {items : List Value}, value.items? = some items →
    holds value = items.all holds
  object : ∀ members : Members, holds (.object members) = members.all fun member => holds member.2

/-- What is raw is so in all of its parts. -/
theorem isPartwise_isRaw : IsPartwise isRaw where
  sequence listed := by
    rw [Bool.eq_iff_iff, List.all_eq_true, ← areRaw_iff]
    rcases items?_eq_some.mp listed with rfl | rfl <;> rfl
  object members := by
    rw [Bool.eq_iff_iff, List.all_eq_true, ← membersAreRaw_iff]
    rfl

/-- What is writable is so in all of its parts. -/
theorem isPartwise_isWritable : IsPartwise isWritable where
  sequence listed := by
    rcases items?_eq_some.mp listed with rfl | rfl <;> exact areWritable_eq_all _
  object members := membersAreWritable_eq_all members

end Value

end DeliveryRules
