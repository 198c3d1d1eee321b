import DeliveryRules.Proofs.Value.Raw
import Mathlib.Data.List.Perm.Subperm

/-! Documents as they are decoded: data without built conditions, and no key twice in an object. -/

namespace DeliveryRules

mutual

/-- Whether a value is decoded data only, in which no object holds a key twice. -/
def Value.isDocument : Value → Bool
  | .condition _ => false
  | .list items => areDocuments items
  | .tuple items => areDocuments items
  | .object members => decide (members.map Prod.fst).Nodup && holdDocuments members
  | _ => true
termination_by structural value => value

/-- Whether every item is a document. -/
def areDocuments : List Value → Bool
  | [] => true
  | item :: rest => item.isDocument && areDocuments rest
termination_by structural items => items

/-- Whether every member holds a document. -/
def holdDocuments : List (String × Value) → Bool
  | [] => true
  | (_, value) :: rest => value.isDocument && holdDocuments rest
termination_by structural members => members

end

/-- Items are documents together exactly if each of them is. -/
theorem areDocuments_iff {items : List Value} :
    areDocuments items = true ↔ ∀ item ∈ items, item.isDocument = true := by
  induction items with
  | nil => simp [areDocuments]
  | cons item rest ih => simp [areDocuments, ih]

/-- Members hold documents together exactly if each of them does. -/
theorem holdDocuments_iff {members : List (String × Value)} :
    holdDocuments members = true ↔ ∀ member ∈ members, member.2.isDocument = true := by
  induction members with
  | nil => simp [holdDocuments]
  | cons member rest ih => simp [holdDocuments, ih]

namespace Members

variable {members others : Members} {key : String} {value : Value}

/-- What is found under a key is one of the members. -/
theorem mem_of_lookup (found : members.lookup key = some value) : (key, value) ∈ members := by
  obtain ⟨before, after, rfl, _⟩ := List.lookup_eq_some_iff.mp found
  simp

/-- Among members with different keys, each is found under its own key. -/
theorem lookup_of_mem (distinct : (members.map Prod.fst).Nodup) (member : (key, value) ∈ members) :
    members.lookup key = some value := by
  obtain ⟨before, after, rfl⟩ := List.append_of_mem member
  refine List.lookup_eq_some_iff.mpr ⟨before, after, rfl, fun earlier listed => ?_⟩
  -- An earlier member under the same key would repeat the key.
  rw [List.map_append, List.nodup_append] at distinct
  have apart := distinct.2.2 earlier.1 (List.mem_map_of_mem listed) key (by simp)
  simpa using Ne.symm apart

/-- Something is found exactly under the keys of the members. -/
theorem isSome_lookup : (members.lookup key).isSome = true ↔ key ∈ members.map Prod.fst := by
  rw [List.lookup_isSome_iff, List.mem_map]
  exact exists_congr fun member => and_congr_right fun _ => by rw [beq_iff_eq, eq_comm]

/-- As many members under keys that all occur are the same keys in some order. -/
theorem keys_perm (distinct : (members.map Prod.fst).Nodup)
    (covered : members.map Prod.fst ⊆ others.map Prod.fst)
    (length : members.length = others.length) :
    (members.map Prod.fst).Perm (others.map Prod.fst) :=
  -- There is no room for a key that occurs twice.
  (distinct.subperm covered).perm_of_length_le (by simp [length])

end Members

namespace Value

/-- Induction over data: atoms, sequences of items, and objects of members. -/
@[elab_as_elim]
theorem data_induction {motive : Value → Prop}
    (atom : ∀ value : Value, value.items? = none → (∀ members, value ≠ .object members) →
      motive value)
    (sequence : ∀ (value : Value) (items : List Value), value.items? = some items →
      (∀ item ∈ items, motive item) → motive value)
    (object : ∀ members : Members, (∀ member ∈ members, motive member.2) →
      motive (.object members))
    (value : Value) : motive value := by
  -- Items and members stand in lists, so the descent is by size and not by constructors.
  induction size : sizeOf value using Nat.strongRecOn generalizing value with
  | ind _ ih =>
    subst size
    by_cases keyed : ∃ members, value = .object members
    · obtain ⟨members, rfl⟩ := keyed
      refine object members fun member listed => ih _ ?_ member.2 rfl
      have smaller := List.sizeOf_lt_of_mem listed
      rcases member with ⟨key, held⟩
      simp only [Prod.mk.sizeOf_spec, Value.object.sizeOf_spec] at smaller ⊢
      omega
    cases listed : value.items? with
    | none => exact atom value listed (not_exists.mp keyed)
    | some items =>
      refine sequence value items listed fun item member => ih _ ?_ item rfl
      have smaller := List.sizeOf_lt_of_mem member
      rcases items?_eq_some.mp listed with rfl | rfl <;> simp <;> omega

/-- A sequence is a document exactly if its items are. -/
theorem isDocument_sequence {value : Value} {items : List Value}
    (listed : value.items? = some items) :
    value.isDocument = true ↔ ∀ item ∈ items, item.isDocument = true := by
  rw [← areDocuments_iff]
  rcases items?_eq_some.mp listed with rfl | rfl <;> rfl

/-- An object is a document exactly if its keys differ and it holds documents. -/
theorem isDocument_object {members : Members} :
    (Value.object members).isDocument = true ↔
      (members.map Prod.fst).Nodup ∧ ∀ member ∈ members, member.2.isDocument = true := by
  simp [isDocument, holdDocuments_iff]

end Value

end DeliveryRules
