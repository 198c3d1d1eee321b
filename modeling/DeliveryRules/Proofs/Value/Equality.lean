import DeliveryRules.Proofs.Number.Place
import DeliveryRules.Proofs.Value.Document
import DeliveryRules.Value.Equality

/-! Equality of data, whatever it is written like, and what cannot tell equal values apart. -/

namespace DeliveryRules

/-- The point of the number line that a value stands for, if it is a number and has one. -/
def Value.point? (value : Value) : Option (WithBotTop ℚ) := value.number?.bind Number.point?

/-- Two values are alike if they are the same data, in whatever way they are written. -/
inductive Alike : Value → Value → Prop
  | null : Alike .null .null
  | bool (truth : Bool) : Alike (.bool truth) (.bool truth)
  -- Whole and floating-point numbers go by the point they stand for.
  | number {left right : Value} {point : WithBotTop ℚ} :
    left.point? = some point → right.point? = some point → Alike left right
  | text (content : String) : Alike (.text content) (.text content)
  | bytes (octets : List UInt8) : Alike (.bytes octets) (.bytes octets)
  -- Lists and tuples go by their items, one after the other.
  | sequence {left right : Value} {items others : List Value} :
    left.items? = some items → right.items? = some others → items.length = others.length →
    (∀ (index : Nat) (a b : Value), items[index]? = some a → others[index]? = some b →
      Alike a b) → Alike left right
  -- Objects go by what they hold under each key, in whatever order the keys come.
  | object {members others : Members} :
    (members.map Prod.fst).Nodup → (others.map Prod.fst).Nodup →
    (∀ key, (members.lookup key).isSome = (others.lookup key).isSome) →
    (∀ (key : String) (a b : Value), members.lookup key = some a → others.lookup key = some b →
      Alike a b) → Alike (.object members) (.object others)

section Comparing

variable {left right : Value}

/-- Numbers are equal exactly if they stand for the same point. -/
theorem equal_numbers {a b : Number} (number : left.number? = some a)
    (number' : right.number? = some b) : left.equal right = (a.order? b == some .eq) := by
  -- Truth values are not numbers, so both sides are whole or floating-point.
  cases left <;> cases right <;>
    simp_all [Value.number?, Value.equal, Value.same, sameNumeral, Value.numeral?]

/-- Only numbers are equal to numbers. -/
theorem number?_of_equal {a : Number} (number : left.number? = some a)
    (equal : left.equal right = true) : ∃ b, right.number? = some b := by
  cases left <;> cases right <;>
    simp_all [Value.number?, Value.equal, Value.same, sameNumeral, Value.numeral?]

/-- Only sequences are equal to sequences. -/
theorem items?_of_equal {items : List Value} (listed : left.items? = some items)
    (equal : left.equal right = true) : ∃ others, right.items? = some others := by
  -- Every other pair of kinds is unequal at sight.
  rcases Value.items?_eq_some.mp listed with rfl | rfl <;> cases right <;>
    simp_all [Value.items?, Value.equal, Value.same, sameNumeral, Value.numeral?, Value.number?]

/-- Only objects are equal to objects. -/
theorem object_of_equal {members : Members} (equal : (Value.object members).equal right = true) :
    ∃ others, right = .object others := by
  cases right <;>
    simp_all [Value.equal, Value.same, sameNumeral, Value.numeral?, Value.number?]

/-- Sequences are equal exactly if their items are, whether they are lists or tuples. -/
theorem equal_sequences {items others : List Value} (listed : left.items? = some items)
    (listed' : right.items? = some others) : left.equal right = equalItems items others := by
  rcases Value.items?_eq_some.mp listed with rfl | rfl <;>
    rcases Value.items?_eq_some.mp listed' with rfl | rfl <;> simp [Value.equal]

/-- Items are equal exactly if there are as many and each is equal to the one at its place. -/
theorem equalItems_iff {items others : List Value} :
    equalItems items others = true ↔ items.length = others.length ∧
      ∀ (index : Nat) (a b : Value), items[index]? = some a → others[index]? = some b →
        a.equal b = true := by
  -- The other items are generalised, since both lists are walked together.
  induction items generalizing others with
  | nil => cases others <;> simp [equalItems]
  | cons item rest ih =>
    cases others with
    | nil => simp [equalItems]
    | cons other others =>
      simp only [equalItems, Bool.and_eq_true, ih, List.length_cons, Nat.add_right_cancel_iff]
      constructor
      · -- The first place is settled, and the others are one further on.
        rintro ⟨head, length, each⟩
        refine ⟨length, fun index a b here there => ?_⟩
        cases index with
        | zero => simp_all
        | succ index => exact each index a b (by simpa using here) (by simpa using there)
      · rintro ⟨length, each⟩
        refine ⟨each 0 item other rfl rfl, length, fun index a b here there => ?_⟩
        exact each (index + 1) a b (by simpa using here) (by simpa using there)

/-- Members are equal exactly if each is equal to what is found under its key. -/
theorem equalMembers_iff {members others : List (String × Value)} :
    equalMembers members others = true ↔
      ∀ member ∈ members, ∃ b, others.lookup member.1 = some b ∧ member.2.equal b = true := by
  induction members with
  | nil => simp [equalMembers]
  | cons member rest ih =>
    cases found : others.lookup member.1 <;> simp [equalMembers, ih, found]

/-- Objects are equal exactly if they have as many members and those of the one are found. -/
theorem equal_objects {members others : Members} :
    (Value.object members).equal (.object others) = true ↔ members.length = others.length ∧
      ∀ member ∈ members, ∃ b, others.lookup member.1 = some b ∧ member.2.equal b = true := by
  simp [Value.equal, equalMembers_iff]

end Comparing

/-- Members under different keys that both sides have are equally many on both sides. -/
theorem Members.length_eq {members others : Members} (distinct : (members.map Prod.fst).Nodup)
    (distinct' : (others.map Prod.fst).Nodup)
    (keys : ∀ key, (members.lookup key).isSome = (others.lookup key).isSome) :
    members.length = others.length := by
  -- Both sides have the same keys, each of them once.
  have same : (members.map Prod.fst).Perm (others.map Prod.fst) :=
    (List.perm_ext_iff_of_nodup distinct distinct').mpr fun key => by
      rw [← isSome_lookup, ← isSome_lookup, keys]
  simpa using same.length_eq

/-- Where one list has an item, another of the same length has one as well. -/
theorem exists_item {items others : List Value} {index : Nat} {a : Value}
    (length : items.length = others.length) (here : items[index]? = some a) :
    ∃ b, others[index]? = some b := by
  obtain ⟨within, _⟩ := List.getElem?_eq_some_iff.mp here
  exact ⟨others[index], List.getElem?_eq_getElem (length ▸ within)⟩

/-- Under a key that both sides have or lack, what is found on one side has a counterpart. -/
theorem Members.exists_member {members others : Members} {key : String} {a : Value}
    (keys : (members.lookup key).isSome = (others.lookup key).isSome)
    (here : members.lookup key = some a) : ∃ b, others.lookup key = some b := by
  have found : (members.lookup key).isSome = true := by simp [here]
  exact Option.isSome_iff_exists.mp (keys ▸ found)

namespace Alike

/-- Alikeness does not depend on the side. -/
theorem symm {left right : Value} (alike : Alike left right) : Alike right left := by
  induction alike with
  | null => exact .null
  | bool truth => exact .bool truth
  | number here there => exact .number there here
  | text content => exact .text content
  | bytes octets => exact .bytes octets
  | sequence listed listed' length each ih =>
    exact .sequence listed' listed length.symm fun index a b here there => ih index b a there here
  | object distinct distinct' keys each ih =>
    exact .object distinct' distinct (fun key => (keys key).symm) fun key a b here there =>
      ih key b a there here

/-- What is alike to a sequence is a sequence of as many items, each alike to its counterpart. -/
theorem of_sequence {left right : Value} {items : List Value} (alike : Alike left right)
    (listed : left.items? = some items) :
    ∃ others, right.items? = some others ∧ items.length = others.length ∧
      ∀ (index : Nat) (a b : Value), items[index]? = some a → others[index]? = some b →
        Alike a b := by
  cases alike with
  | number here there => rcases Value.items?_eq_some.mp listed with rfl | rfl <;> cases here
  | sequence listed' others length each =>
    cases listed.symm.trans listed'
    exact ⟨_, others, length, each⟩
  | _ => simp [Value.items?] at listed

/-- What is alike to an object is an object that holds something alike under each of its keys. -/
theorem of_object {members : Members} {right : Value} (alike : Alike (.object members) right) :
    ∃ others : Members, right = .object others ∧ (others.map Prod.fst).Nodup ∧
      (∀ key, (members.lookup key).isSome = (others.lookup key).isSome) ∧
      ∀ (key : String) (a b : Value), members.lookup key = some a → others.lookup key = some b →
        Alike a b := by
  cases alike with
  | number here there => cases here
  | sequence listed => cases listed
  | object distinct distinct' keys each => exact ⟨_, rfl, distinct', keys, each⟩

/-- Values that are alike stand for the same point, or for none. -/
theorem point?_eq {left right : Value} (alike : Alike left right) : left.point? = right.point? := by
  cases alike with
  | number here there => rw [here, there]
  | sequence listed listed' =>
    rcases Value.items?_eq_some.mp listed with rfl | rfl <;>
      rcases Value.items?_eq_some.mp listed' with rfl | rfl <;> rfl
  | _ => rfl

/-- Alikeness passes from one value to the next. -/
theorem trans {first second third : Value} (alike : Alike first second)
    (next : Alike second third) : Alike first third := by
  -- The third value is generalised, since the parts are alike to parts of it.
  induction alike generalizing third with
  | number here there => exact .number here (next.point?_eq ▸ there)
  | sequence listed listed' length each ih =>
    obtain ⟨last, listed'', length', each'⟩ := next.of_sequence listed'
    refine .sequence listed listed'' (length.trans length') fun index a c here there => ?_
    -- As many items stand in between, so there is one at this place as well.
    obtain ⟨b, between⟩ := exists_item length here
    exact ih index a b here between (each' index b c between there)
  | object distinct distinct' keys each ih =>
    obtain ⟨last, rfl, distinct'', keys', each'⟩ := next.of_object
    refine .object distinct distinct'' (fun key => (keys key).trans (keys' key)) ?_
    intro key a c here there
    obtain ⟨b, between⟩ := Members.exists_member (keys key) here
    exact ih key a b here between (each' key b c between there)
  -- Anything else is alike only to itself.
  | _ => exact next

/-- Values that are alike are documents. -/
theorem isDocument {left right : Value} (alike : Alike left right) : left.isDocument = true := by
  -- The parts are documents by induction, and the keys differ by assumption.
  induction alike with
  | @number left right point here there => cases left <;> first | rfl | cases here
  | sequence listed listed' length each ih =>
    refine (Value.isDocument_sequence listed).mpr fun item member => ?_
    obtain ⟨index, here⟩ := List.mem_iff_getElem?.mp member
    obtain ⟨b, there⟩ := exists_item length here
    exact ih index item b here there
  | object distinct distinct' keys each ih =>
    refine Value.isDocument_object.mpr ⟨distinct, fun member listed => ?_⟩
    have here := Members.lookup_of_mem distinct listed
    obtain ⟨b, there⟩ := Members.exists_member (keys member.1) here
    exact ih member.1 member.2 b here there
  | _ => rfl

/-- Values that are alike are equal. -/
theorem equal {left right : Value} (alike : Alike left right) : left.equal right = true := by
  -- Equality is decided part by part, as alikeness is.
  induction alike with
  | number here there =>
    obtain ⟨a, number, here⟩ := Option.bind_eq_some_iff.mp here
    obtain ⟨b, number', there⟩ := Option.bind_eq_some_iff.mp there
    rw [equal_numbers number number', beq_iff_eq]
    exact Number.order?_eq_some_eq.mpr ⟨_, here, there⟩
  | sequence listed listed' length each ih =>
    rw [equal_sequences listed listed']
    exact equalItems_iff.mpr ⟨length, ih⟩
  | object distinct distinct' keys each ih =>
    refine equal_objects.mpr ⟨Members.length_eq distinct distinct' keys, fun member listed => ?_⟩
    have here := Members.lookup_of_mem distinct listed
    obtain ⟨b, there⟩ := Members.exists_member (keys member.1) here
    exact ⟨b, there, ih member.1 member.2 b here there⟩
  | _ => simp [Value.equal, Value.same]

end Alike

/-- Numbers that are equal are alike. -/
theorem Value.alike_of_equal_number {left right : Value} {a : Number}
    (number : left.number? = some a) (equal : left.equal right = true) : Alike left right := by
  obtain ⟨b, number'⟩ := number?_of_equal number equal
  rw [equal_numbers number number', beq_iff_eq] at equal
  obtain ⟨point, here, there⟩ := Number.order?_eq_some_eq.mp equal
  have left : left.point? = some point := by simp [Value.point?, number, here]
  have right : right.point? = some point := by simp [Value.point?, number', there]
  exact .number left right

/-- Null, truth values, texts and byte strings are equal only to themselves. -/
theorem Value.alike_of_equal_atom {left right : Value} (document : left.isDocument = true)
    (unnumbered : left.number? = none) (single : left.items? = none)
    (keyless : ∀ members, left ≠ .object members) (equal : left.equal right = true) :
    Alike left right := by
  cases left with
  | null => cases right <;> first | exact .null | cases equal
  | bool truth =>
    cases right with
    | bool other =>
      obtain rfl : truth = other := by simpa [Value.equal] using equal
      exact .bool truth
    | _ => cases equal
  | text content =>
    cases right with
    | text other =>
      obtain rfl : content = other := by simpa [Value.equal, Value.same] using equal
      exact .text content
    | _ => cases equal
  | bytes octets =>
    cases right with
    | bytes other =>
      obtain rfl : octets = other := by simpa [Value.equal, Value.same] using equal
      exact .bytes octets
    | _ => cases equal
  | int n => cases unnumbered
  | float x => cases unnumbered
  | list items => cases single
  | tuple items => cases single
  | object members => exact absurd rfl (keyless members)
  | condition built => cases document

/-- A document is alike to every value that is equal to it. -/
theorem Value.alike_of_equal {left right : Value} (document : left.isDocument = true)
    (equal : left.equal right = true) : Alike left right := by
  -- The right side is generalised, since the parts are equal to parts of it.
  induction left using Value.data_induction generalizing right with
  | atom left single keyless =>
    cases number : left.number? with
    | some a => exact alike_of_equal_number number equal
    | none => exact alike_of_equal_atom document number single keyless equal
  | sequence left items listed ih =>
    obtain ⟨others, listed'⟩ := items?_of_equal listed equal
    rw [equal_sequences listed listed'] at equal
    obtain ⟨length, each⟩ := equalItems_iff.mp equal
    refine .sequence listed listed' length fun index a b here there => ?_
    have member := List.mem_of_getElem? here
    exact ih a member ((Value.isDocument_sequence listed).mp document a member)
      (each index a b here there)
  | object members ih =>
    obtain ⟨others, rfl⟩ := object_of_equal equal
    obtain ⟨length, each⟩ := equal_objects.mp equal
    obtain ⟨distinct, documents⟩ := Value.isDocument_object.mp document
    -- As many members whose keys are all found leave no key over on the other side.
    have covered : members.map Prod.fst ⊆ others.map Prod.fst := by
      intro key occurs
      obtain ⟨member, listed, rfl⟩ := List.mem_map.mp occurs
      obtain ⟨b, there, _⟩ := each member listed
      exact Members.isSome_lookup.mp (by simp [there])
    have same := Members.keys_perm distinct covered length
    have distinct' : (others.map Prod.fst).Nodup := same.nodup_iff.mp distinct
    refine .object distinct distinct' (fun key => ?_) fun key a b here there => ?_
    · rw [Bool.eq_iff_iff, Members.isSome_lookup, Members.isSome_lookup, same.mem_iff]
    · have listed := Members.mem_of_lookup here
      obtain ⟨other, there', equal⟩ := each _ listed
      cases there.symm.trans there'
      exact ih _ listed (documents _ listed) equal

/-- Whether a number counts as true is told by its point: it is not at zero. -/
theorem Value.isTruthy_of_point? {value : Value} {point : WithBotTop ℚ}
    (stands : value.point? = some point) :
    value.isTruthy = false ↔ point = WithBotTop.coe 0 := by
  cases value with
  | int n =>
    have zero := Number.point?_int_eq_zero (n := n)
    simp only [Value.point?, number?, Option.bind_some] at stands
    simpa [isTruthy, stands] using zero.symm
  | float x =>
    have zero := Number.point?_float_eq_zero (x := x)
    simp only [Value.point?, number?, Option.bind_some] at stands
    simpa [isTruthy, stands] using zero.symm
  | _ => cases stands

/-- A sequence counts as true if it has items. -/
theorem Value.isTruthy_sequence {value : Value} {items : List Value}
    (listed : value.items? = some items) : value.isTruthy = (items.length != 0) := by
  rcases items?_eq_some.mp listed with rfl | rfl <;> cases items <;> rfl

/-- An object counts as true if it has members. -/
theorem Value.isTruthy_object (members : Members) :
    (Value.object members).isTruthy = (members.length != 0) := by
  cases members <;> rfl

/-- The order of two values is the order of their points, if both have one. -/
theorem Value.order_eq_cmp (left right : Value) :
    (do (← left.number?).order? (← right.number?)) =
      (do return cmp (← left.point?) (← right.point?) : Option Ordering) := by
  unfold Value.point?
  cases left.number? with
  | none => rfl
  | some a =>
    cases right.number? with
    | none =>
      change none = a.point?.bind fun _ => none
      cases a.point? <;> rfl
    | some b => exact a.order?_eq_cmp b

namespace Alike

/-- Values that are alike count as true together. -/
theorem isTruthy_eq {left right : Value} (alike : Alike left right) :
    left.isTruthy = right.isTruthy := by
  -- A number is true by its point, and a container by its length.
  cases alike with
  | number here there =>
    have same : left.isTruthy = false ↔ right.isTruthy = false := by
      rw [Value.isTruthy_of_point? here, Value.isTruthy_of_point? there]
    simpa using same
  | sequence listed listed' length =>
    rw [Value.isTruthy_sequence listed, Value.isTruthy_sequence listed', length]
  | object distinct distinct' keys =>
    rw [Value.isTruthy_object, Value.isTruthy_object, Members.length_eq distinct distinct' keys]
  | _ => rfl

/-- Equality cannot tell values apart that are alike. -/
theorem equal_eq {a a' b b' : Value} (left : Alike a a') (right : Alike b b') :
    a.equal b = a'.equal b' := by
  rw [Bool.eq_iff_iff]
  -- Either way the two are joined through the alike values.
  constructor
  · intro equal
    exact (left.symm.trans ((Value.alike_of_equal left.isDocument equal).trans right)).equal
  · intro equal
    exact (left.trans ((Value.alike_of_equal left.symm.isDocument equal).trans right.symm)).equal

/-- No comparison can tell values apart that are alike. -/
theorem holds_eq {a a' b b' : Value} (left : Alike a a') (right : Alike b b')
    (comparator : Comparator) : comparator.holds a b = comparator.holds a' b' := by
  unfold Comparator.holds
  rw [Value.order_eq_cmp, Value.order_eq_cmp, left.point?_eq, right.point?_eq,
    left.equal_eq right]

end Alike

end DeliveryRules
