import DeliveryRules.Proofs.Path.Resolve

/-! Equality of data is symmetric and transitive, and reflexive on data that is defined. -/

namespace DeliveryRules

/-- One value spells another anew: at any depth lists may stand for tuples or tuples for lists, and
keys may come in another order. -/
inductive Respelled : Value → Value → Prop
  | itself (value : Value) : Respelled value value
  | sequence {left right : Value} {items others : List Value} :
    left.items? = some items → right.items? = some others → items.length = others.length →
    (∀ (index : Nat) (a b : Value), items[index]? = some a → others[index]? = some b →
      Respelled a b) → Respelled left right
  | object {members others : Members} :
    (members.map Prod.fst).Nodup → (others.map Prod.fst).Nodup →
    (∀ key, (members.lookup key).isSome = (others.lookup key).isSome) →
    (∀ (key : String) (a b : Value), members.lookup key = some a → others.lookup key = some b →
      Respelled a b) → Respelled (.object members) (.object others)

namespace Respelled

variable {left right : Value}

/-- What spells a value anew is spelled anew by it. -/
theorem symm (respelled : Respelled left right) : Respelled right left := by
  -- Each part is spelled back by itself.
  induction respelled with
  | itself value => exact .itself value
  | sequence listed listed' length each ih =>
    exact .sequence listed' listed length.symm fun index a b here there => ih index b a there here
  | object distinct distinct' keys each ih =>
    exact .object distinct' distinct (fun key => (keys key).symm) fun key a b here there =>
      ih key b a there here

/-- A document that is spelled anew is still a document. -/
theorem isDocument (respelled : Respelled left right) (document : left.isDocument = true) :
    right.isDocument = true := by
  -- What stands in the new spelling comes from a part of the old one.
  induction respelled with
  | itself value => exact document
  | sequence listed listed' length each ih =>
    refine (Value.isDocument_sequence listed').mpr fun item member => ?_
    obtain ⟨index, there⟩ := List.mem_iff_getElem?.mp member
    obtain ⟨a, here⟩ := exists_item length.symm there
    have origin := (Value.isDocument_sequence listed).mp document a (List.mem_of_getElem? here)
    exact ih index a item here there origin
  | object distinct distinct' keys each ih =>
    refine Value.isDocument_object.mpr ⟨distinct', fun member listed => ?_⟩
    have there := Members.lookup_of_mem distinct' listed
    obtain ⟨a, here⟩ := Members.exists_member (keys member.1).symm there
    have origin := (Value.isDocument_object.mp document).2 _ (Members.mem_of_lookup here)
    exact ih member.1 a member.2 here there origin

/-- A value that is alike to itself is alike to every new spelling of it. -/
theorem alike (respelled : Respelled left right) (itself : Alike left left) : Alike left right := by
  induction respelled with
  | itself value => exact itself
  | sequence listed listed' length each ih =>
    -- Of a value that is alike to itself each part is, wherever it stands.
    obtain ⟨_, same, _, own⟩ := itself.of_sequence listed
    cases listed.symm.trans same
    exact .sequence listed listed' length fun index a b here there =>
      ih index a b here there (own index a a here here)
  | object distinct distinct' keys each ih =>
    obtain ⟨_, same, _, _, own⟩ := itself.of_object
    cases same
    exact .object distinct distinct' keys fun key a b here there =>
      ih key a b here there (own key a a here here)

end Respelled

/-- Whether a value is the number that is equal to nothing, not even to itself. -/
def Value.isUndefined : Value → Bool
  | .float .nan => true
  | _ => false

/-- A defined scalar is alike to itself. -/
theorem Value.alike_self {content : Value} (scalar : content.isScalar = true)
    (defined : content.isUndefined = false) : Alike content content := by
  cases content with
  | null => exact .null
  | bool truth => exact .bool truth
  | int n => exact .number rfl rfl
  | float x =>
    cases x with
    | nan => cases defined
    | infinity negative => cases negative <;> exact .number rfl rfl
    | finite x => exact .number rfl rfl
  | text content => exact .text content
  | _ => cases scalar

/-- Whether a value is defined: the undefined number stands nowhere in it. -/
def Value.IsDefined (value : Value) : Prop :=
  ∀ segments, followSegments? value segments ≠ some (.float .nan)

/-- A defined value is not itself the undefined number. -/
theorem Value.IsDefined.isUndefined {value : Value} (defined : value.IsDefined) :
    value.isUndefined = false := by
  by_contra undefined
  have here := defined []
  unfold Value.isUndefined at undefined
  split at undefined
  · exact here rfl
  · exact undefined rfl

/-- What one step leads to in a defined value is defined. -/
theorem Value.IsDefined.follow {value next : Value} {segment : Segment} (defined : value.IsDefined)
    (step : segment.follow? value = some next) : next.IsDefined := by
  intro segments reached
  refine defined (segment :: segments) ?_
  rw [followSegments?_cons, step]
  exact reached

namespace Alike

variable {value left right : Value}

/-- The undefined number is alike to nothing. -/
theorem not_nan (right : Value) : ¬Alike (.float .nan) right := by
  intro alike
  cases alike with
  | number here => cases here
  | sequence listed => cases listed

/-- A value that is alike to itself is defined. -/
theorem isDefined (alike : Alike value value) : value.IsDefined := by
  -- The same steps lead to parts that are alike, so to no part that is alike to nothing.
  intro segments reached
  have found := alike.followSegments? segments
  rw [reached] at found
  cases found with
  | some undefined => exact not_nan _ undefined

/-- A document that is defined is alike to itself. -/
theorem of_isDefined (document : value.isDocument = true) (defined : value.IsDefined) :
    Alike value value := by
  -- The induction is on the data: its parts are documents, and defined as what a step leads to.
  induction value using Value.data_induction with
  | atom value single keyless =>
    -- An atom that is no scalar is a byte string.
    by_cases scalar : value.isScalar = true
    · exact Value.alike_self scalar defined.isUndefined
    · cases value with
      | bytes octets => exact .bytes octets
      | list items | tuple items => cases single
      | object members => exact absurd rfl (keyless members)
      | condition built => cases document
      | _ => exact absurd rfl scalar
  | sequence value items listed ih =>
    refine .sequence listed listed rfl fun index a b here there => ?_
    cases here.symm.trans there
    have member := List.mem_of_getElem? here
    have step : (Segment.index index).follow? value = some a :=
      (Value.element?_of_items? listed index).trans here
    exact ih a member ((Value.isDocument_sequence listed).mp document a member)
      (defined.follow step)
  | object members ih =>
    obtain ⟨distinct, documents⟩ := Value.isDocument_object.mp document
    refine .object distinct distinct (fun _ => rfl) fun key a b here there => ?_
    cases here.symm.trans there
    have member := Members.mem_of_lookup here
    have step : (Segment.key key).follow? (.object members) = some a := here
    exact ih _ member (documents _ member) (defined.follow step)

/-- A truth value is alike to no number. -/
theorem number?_of_bool {truth : Bool} (alike : Alike (.bool truth) right) :
    right.number? = none := by
  cases alike with
  | bool => rfl
  | number here => cases here
  | sequence listed => cases listed

/-- Values that are alike hold no truth value where the other holds a number. -/
theorem number?_of_followed {segments : List Segment} {truth : Bool} {other : Value}
    (alike : Alike left right)
    (here : DeliveryRules.followSegments? left segments = some (.bool truth))
    (there : DeliveryRules.followSegments? right segments = some other) :
    other.number? = none := by
  have found := alike.followSegments? segments
  rw [here, there] at found
  cases found with
  | some parts => exact parts.number?_of_bool

end Alike

section Equality

variable {first second : Value}

/-- A document is equal to the values that are alike to it. -/
theorem equal_iff_alike (document : first.isDocument = true) :
    first.equal second = true ↔ Alike first second :=
  ⟨Value.alike_of_equal document, Alike.equal⟩

/-- Values that are equal to others stay so if both are spelled anew. -/
theorem equal_of_respelled {first' second' : Value} (document : first.isDocument = true)
    (here : Respelled first first') (there : Respelled second second')
    (equal : first.equal second = true) : first'.equal second' = true := by
  have alike := Value.alike_of_equal document equal
  -- Both values are alike to something, so each is alike to itself and to its new spelling.
  have left : Alike first first' := here.alike (alike.trans alike.symm)
  have right : Alike second second' := there.alike (alike.symm.trans alike)
  exact (left.symm.trans (alike.trans right)).equal

/--
Equality of documents is symmetric and transitive, and reflexive where no number is undefined.

New spellings of the documents, with other kinds of sequences and other orders of keys, are equal
if the documents are. Numbers are equal if they stand for one point. Where one document holds a
truth value and the other a number at the same place, the two are not equal.
-/
theorem equal_partialEquivalence (here : first.isDocument = true)
    (there : second.isDocument = true) :
    first.equal second = second.equal first ∧
      (∀ third, first.equal second = true → second.equal third = true →
        first.equal third = true) ∧
      (first.equal first = true ↔ first.IsDefined) ∧
      (∀ first' second', Respelled first first' → Respelled second second' →
        first'.equal second' = first.equal second) ∧
      (∀ a b, first.number? = some a → second.number? = some b →
        (first.equal second = true ↔ ∃ point, a.point? = some point ∧ b.point? = some point)) ∧
      ∀ segments truth other number, other.number? = some number →
        followSegments? first segments = some (.bool truth) ∧
            followSegments? second segments = some other ∨
          followSegments? first segments = some other ∧
            followSegments? second segments = some (.bool truth) →
        first.equal second = false := by
  refine ⟨?_, fun third equal next => ?_, ?_, fun first' second' spelled spelled' => ?_,
    fun a b number number' => ?_, fun segments truth other number counted parts => ?_⟩
  · rw [Bool.eq_iff_iff, equal_iff_alike here, equal_iff_alike there]
    exact ⟨Alike.symm, Alike.symm⟩
  · -- On documents equality is alikeness, which passes on.
    rw [equal_iff_alike here] at equal ⊢
    exact equal.trans (Value.alike_of_equal there next)
  · rw [equal_iff_alike here]
    exact ⟨Alike.isDefined, Alike.of_isDefined here⟩
  · rw [Bool.eq_iff_iff]
    constructor
    · exact equal_of_respelled (spelled.isDocument here) spelled.symm spelled'.symm
    · exact equal_of_respelled here spelled spelled'
  · rw [equal_numbers number number', beq_iff_eq]
    exact Number.order?_eq_some_eq
  · -- Equal values would be alike, and so would be what they hold at the place.
    by_contra equal
    have alike := Value.alike_of_equal here (Bool.not_eq_false _ ▸ equal)
    have plain : other.number? = none := by
      rcases parts with ⟨left, right⟩ | ⟨left, right⟩
      · exact alike.number?_of_followed left right
      · exact alike.symm.number?_of_followed right left
    cases counted.symm.trans plain

/-- An order is equal to itself written otherwise, and to none that counts what it only affirms. -/
theorem equal_partialEquivalence_order :
    let first : Value := .object [("tip", .int 1),
      ("items", .list [.bool true, .float (.ofInt 2)])]
    let second : Value := .object [("items", .tuple [.bool true, .int 2]),
      ("tip", .float (.ofInt 1))]
    let counted : Value := .object [("tip", .int 1), ("items", .list [.int 1, .int 2])]
    first.isDocument = true ∧ second.isDocument = true ∧ counted.isDocument = true ∧
      first.equal second = true ∧ second.equal first = true ∧ first.equal first = true ∧
      first.IsDefined ∧ first.equal counted = false := by
  intro first second counted
  have here : first.isDocument = true := by decide
  have there : second.isDocument = true := by decide
  have plain : counted.isDocument = true := by decide
  have equal : first.equal second = true := by decide
  obtain ⟨symmetric, transitive, defined, _⟩ := equal_partialEquivalence here there
  obtain ⟨_, _, _, _, _, apart⟩ := equal_partialEquivalence here plain
  have back : second.equal first = true := symmetric.symm.trans equal
  have own : first.equal first = true := transitive first equal back
  -- The first item is affirmed in the one and counted in the other.
  have different : first.equal counted = false :=
    apart [.key "items", .index 0] true (.int 1) (.int 1) rfl (.inl ⟨rfl, rfl⟩)
  exact ⟨here, there, plain, equal, back, own, defined.mp own, different⟩

end Equality

end DeliveryRules
