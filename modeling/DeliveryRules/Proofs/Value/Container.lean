import DeliveryRules.Proofs.Value.Document

/-! Containers and the parts they hold, whatever the kind of the container is. -/

namespace DeliveryRules

namespace Value

/-- Whether a value is a container: a list, a tuple or an object. -/
def isContainer : Value → Bool
  | .list _ | .tuple _ | .object _ => true
  | _ => false

/-- What a container holds: its items, or the values of its members. -/
def parts : Value → List Value
  | .list items | .tuple items => items
  | .object members => members.map Prod.snd
  | _ => []

/-- A container built again over what a change makes of its parts, with a list for a tuple. -/
def rebuilt (change : Value → Value) : Value → Value
  | .list items | .tuple items => .list (items.map change)
  | .object members => .object (members.map fun member => (member.1, change member.2))
  | value => value

/-- What is built again holds what became of the parts. -/
theorem parts_rebuilt (change : Value → Value) (value : Value) :
    (value.rebuilt change).parts = value.parts.map change := by
  cases value <;> simp [rebuilt, parts]

/-- Changes that agree on the parts build the same container. -/
theorem rebuilt_congr {first second : Value → Value} {value : Value}
    (same : ∀ part ∈ value.parts, first part = second part) :
    value.rebuilt first = value.rebuilt second := by
  cases value with
  | list items | tuple items => exact congrArg list (List.map_congr_left same)
  | object members =>
    refine congrArg object (List.map_congr_left fun member listed => ?_)
    rw [same member.2 (List.mem_map_of_mem listed)]
  | _ => rfl

/-- A container that is built again twice is built over what both changes make of its parts. -/
theorem rebuilt_rebuilt (first second : Value → Value) (value : Value) :
    (value.rebuilt first).rebuilt second = value.rebuilt fun part => second (first part) := by
  cases value <;> simp [rebuilt]

/-- Induction over data: what holds nothing, and containers over their parts. -/
@[elab_as_elim]
theorem container_induction {motive : Value → Prop}
    (atom : ∀ value : Value, value.isContainer = false → motive value)
    (container : ∀ value : Value, value.isContainer = true →
      (∀ part ∈ value.parts, motive part) → motive value)
    (value : Value) : motive value := by
  -- The parts of a sequence are its items, and those of an object the values of its members.
  induction value using data_induction with
  | atom value unlisted unkeyed =>
    refine atom value ?_
    cases value with
    | list | tuple => cases unlisted
    | object members => exact absurd rfl (unkeyed members)
    | _ => rfl
  | sequence value items listed ih =>
    rcases items?_eq_some.mp listed with rfl | rfl <;> exact container _ rfl ih
  | object members ih =>
    exact container _ rfl (List.forall_mem_map.mpr ih)

/-- What is no container is no tuple and holds none. -/
theorem withLists_atom {value : Value} (atom : value.isContainer = false) :
    value.withLists = value := by
  cases value with
  | list | tuple | object => cases atom
  | _ => rfl

section Containers

variable {value : Value} (container : value.isContainer = true)

include container

/-- A container that is built again is still one. -/
theorem isContainer_rebuilt (change : Value → Value) :
    (value.rebuilt change).isContainer = true := by
  cases value with
  | list | tuple | object => rfl
  | _ => cases container

/-- A container is raw exactly if its parts are. -/
theorem isRaw_container : value.isRaw = true ↔ ∀ part ∈ value.parts, part.isRaw = true := by
  cases value with
  | list items | tuple items => exact areRaw_iff
  | object members =>
    rw [parts, List.forall_mem_map]
    exact membersAreRaw_iff
  | _ => cases container

/-- The tuples of a container are replaced in it and in its parts. -/
theorem withLists_container : value.withLists = value.rebuilt withLists := by
  cases value with
  | list items | tuple items => rw [withLists, rebuilt, itemsWithLists_eq_map]
  | object members => rw [withLists, rebuilt, membersWithLists_eq_map]
  | _ => cases container

end Containers

end Value

end DeliveryRules
