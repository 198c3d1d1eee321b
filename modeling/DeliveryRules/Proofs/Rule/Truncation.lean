import DeliveryRules.Proofs.Value.Container
import DeliveryRules.Rule.Rendering

/-! Data cut off below a number of levels: how deep it nests, and what further cuts change. -/

namespace DeliveryRules

mutual

/-- The number of containers on the longest way down a value. -/
def Value.nesting : Value → Nat
  | .list items => 1 + deepestItem items
  | .tuple items => 1 + deepestItem items
  | .object members => 1 + deepestMember members
  -- A built condition is no container: what nests is the document it is written as.
  | _ => 0
termination_by structural value => value

/-- The nesting of the deepest of some items. -/
def deepestItem : List Value → Nat
  | [] => 0
  | item :: rest => max item.nesting (deepestItem rest)
termination_by structural items => items

/-- The nesting of the deepest of some members. -/
def deepestMember : List (String × Value) → Nat
  | [] => 0
  | (_, value) :: rest => max value.nesting (deepestMember rest)
termination_by structural members => members

end

mutual

/-- A value with the mark for every container below so many levels of them, and lists for tuples. -/
def Value.truncated (levels : Int) (value : Value) : Value :=
  match value with
  | .list items => if levels ≤ 0 then elided else .list (truncatedItems (levels - 1) items)
  | .tuple items => if levels ≤ 0 then elided else .list (truncatedItems (levels - 1) items)
  | .object members =>
    if levels ≤ 0 then elided else .object (truncatedMembers (levels - 1) members)
  | value => value
termination_by structural value

/-- Items that are each cut off below so many levels. -/
def truncatedItems (levels : Int) (items : List Value) : List Value :=
  match items with
  | [] => []
  | item :: rest => item.truncated levels :: truncatedItems levels rest
termination_by structural items

/-- Members that are each cut off below so many levels. -/
def truncatedMembers (levels : Int) (members : List (String × Value)) : List (String × Value) :=
  match members with
  | [] => []
  | (key, value) :: rest => (key, value.truncated levels) :: truncatedMembers levels rest
termination_by structural members

end

/-- Items are within a bound together exactly if each of them is, and the bound is not negative. -/
theorem deepestItem_le {items : List Value} {bound : Int} :
    (deepestItem items : Int) ≤ bound ↔
      0 ≤ bound ∧ ∀ item ∈ items, (item.nesting : Int) ≤ bound := by
  -- The deepest item is the first one, or the deepest of the rest.
  induction items with
  | nil => simp [deepestItem]
  | cons item rest ih =>
    rw [List.forall_mem_cons, and_left_comm, ← ih, deepestItem]
    omega

/-- The members of an object nest as deep as the values they hold. -/
theorem deepestMember_eq (members : Members) :
    deepestMember members = deepestItem (members.map Prod.snd) := by
  induction members with
  | nil => rfl
  | cons member rest ih => rw [deepestMember, ih, List.map_cons, deepestItem]

/-- Every item is cut off on its own. -/
theorem truncatedItems_eq_map (levels : Int) (items : List Value) :
    truncatedItems levels items = items.map (Value.truncated levels) := by
  induction items with
  | nil => rfl
  | cons item rest ih => rw [truncatedItems, ih, List.map_cons]

/-- Every member is cut off on its own, and keeps its key. -/
theorem truncatedMembers_eq_map (levels : Int) (members : Members) :
    truncatedMembers levels members =
      members.map fun member => (member.1, member.2.truncated levels) := by
  induction members with
  | nil => rfl
  | cons member rest ih => rw [truncatedMembers, ih, List.map_cons]

namespace Value

section Atoms

variable {value : Value} (atom : value.isContainer = false)

include atom

/-- What is no container has no nesting. -/
theorem nesting_atom : value.nesting = 0 := by
  cases value with
  | list | tuple | object => cases atom
  | _ => rfl

/-- What is no container is not cut off. -/
theorem truncated_atom (levels : Int) : value.truncated levels = value := by
  cases value with
  | list | tuple | object => cases atom
  | _ => rfl

end Atoms

section Containers

variable {value : Value} (container : value.isContainer = true) {levels : Int}

include container

/-- A container nests within some levels exactly if it has one of them, and its parts the rest. -/
theorem nesting_container_le :
    (value.nesting : Int) ≤ levels ↔
      0 < levels ∧ ∀ part ∈ value.parts, (part.nesting : Int) ≤ levels - 1 := by
  -- The level of the container itself is asked for even if it holds nothing.
  have counted : value.nesting = 1 + deepestItem value.parts := by
    cases value with
    | list | tuple => rfl
    | object members => rw [nesting, deepestMember_eq, parts]
    | _ => cases container
  have rest : (value.nesting : Int) ≤ levels ↔ (deepestItem value.parts : Int) ≤ levels - 1 := by
    omega
  rw [rest, deepestItem_le, Int.sub_nonneg]
  rfl

/-- Where no level is left, nothing is left of a container. -/
theorem truncated_spent (spent : levels ≤ 0) : value.truncated levels = elided := by
  cases value with
  | list | tuple | object => exact if_pos spent
  | _ => cases container

/-- A container takes one of the levels, and its parts are cut off below the rest. -/
theorem truncated_container (left : 0 < levels) :
    value.truncated levels = value.rebuilt (truncated (levels - 1)) := by
  have unspent : ¬levels ≤ 0 := by omega
  cases value with
  | list | tuple => rw [truncated, if_neg unspent, truncatedItems_eq_map, rebuilt]
  | object => rw [truncated, if_neg unspent, truncatedMembers_eq_map, rebuilt]
  | _ => cases container

end Containers

/-- What is left of a value nests no deeper than the levels that it had. -/
theorem nesting_truncated_le (value : Value) (levels : Int) :
    ((value.truncated levels).nesting : Int) ≤ max levels 0 := by
  -- The levels are generalised, since a part has one less.
  induction value using container_induction generalizing levels with
  | atom value atom =>
    rw [truncated_atom atom, nesting_atom atom]
    exact Int.le_max_right levels 0
  | container value container ih =>
    rcases Int.lt_or_le 0 levels with left | spent
    · have kept := isContainer_rebuilt container (truncated (levels - 1))
      rw [truncated_container container left, nesting_container_le kept, parts_rebuilt,
        List.forall_mem_map]
      refine ⟨by omega, fun part member => ?_⟩
      -- The parts have a level less, and their bound is a level less as well.
      have deeper := ih part member (levels - 1)
      omega
    · rw [truncated_spent container spent]
      exact Int.le_max_right levels 0

/-- A value that nests within its levels is left whole. -/
theorem truncated_of_nesting_le {value : Value} {levels : Int}
    (within : (value.nesting : Int) ≤ levels) : value.truncated levels = value.withLists := by
  -- The levels are generalised, since a part has one less.
  induction value using container_induction generalizing levels with
  | atom value atom => rw [truncated_atom atom, withLists_atom atom]
  | container value container ih =>
    -- A level is left wherever a container stands, so the mark never takes its place.
    obtain ⟨left, each⟩ := (nesting_container_le container).mp within
    rw [truncated_container container left, withLists_container container]
    exact rebuilt_congr fun part member => ih part member (each part member)

/-- Two cuts leave what is left by the cut that leaves less. -/
theorem truncated_truncated (value : Value) (first second : Int) :
    (value.truncated first).truncated second = value.truncated (min first second) := by
  -- Both levels are generalised, since a part has one less of each.
  induction value using container_induction generalizing first second with
  | atom value atom => simp only [truncated_atom atom]
  | container value container ih =>
    rcases Int.lt_or_le 0 first with left | spent
    · have kept := isContainer_rebuilt container (truncated (first - 1))
      rw [truncated_container container left]
      rcases Int.lt_or_le 0 second with left' | spent
      · -- Both cuts pass the container, so its parts are cut twice with a level less each.
        rw [truncated_container kept left', rebuilt_rebuilt,
          truncated_container container (by omega)]
        have closer : min (first - 1) (second - 1) = min first second - 1 := by omega
        exact rebuilt_congr fun part member => closer ▸ ih part member (first - 1) (second - 1)
      · -- The second cut leaves the mark, and the closer of both does so at once.
        rw [truncated_spent kept spent, truncated_spent container (by omega)]
    · rw [truncated_spent container spent, truncated_spent container (by omega)]
      rfl

/-- A tuple leaves what a list of the same items leaves. -/
theorem truncated_withLists (value : Value) (levels : Int) :
    value.withLists.truncated levels = value.truncated levels := by
  -- The kind of a sequence does not matter to where it is cut off.
  induction value using container_induction generalizing levels with
  | atom value atom => rw [withLists_atom atom]
  | container value container ih =>
    have kept := isContainer_rebuilt container withLists
    rw [withLists_container container]
    rcases Int.lt_or_le 0 levels with left | spent
    · rw [truncated_container kept left, truncated_container container left, rebuilt_rebuilt]
      exact rebuilt_congr fun part member => ih part member (levels - 1)
    · rw [truncated_spent kept spent, truncated_spent container spent]

/-- What is left of raw data is raw data. -/
theorem isRaw_truncated {value : Value} (raw : value.isRaw = true) (levels : Int) :
    (value.truncated levels).isRaw = true := by
  -- The mark is a text, and so raw data itself.
  induction value using container_induction generalizing levels with
  | atom value atom => rwa [truncated_atom atom]
  | container value container ih =>
    rcases Int.lt_or_le 0 levels with left | spent
    · have kept := isContainer_rebuilt container (truncated (levels - 1))
      rw [truncated_container container left, isRaw_container kept, parts_rebuilt,
        List.forall_mem_map]
      exact fun part member =>
        ih part member ((isRaw_container container).mp raw part member) (levels - 1)
    · rw [truncated_spent container spent]
      rfl

end Value

end DeliveryRules
