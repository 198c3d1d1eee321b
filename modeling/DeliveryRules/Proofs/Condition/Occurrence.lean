import DeliveryRules.Proofs.Condition.Location

/-! The nodes of a document in the order in which it is read, each with a place of its own. -/

namespace DeliveryRules

/-- A node met in a document: the steps that lead to it, and the value that is found there. -/
structure Occurrence where
  steps : List Step
  value : Value

namespace Operator

/-- Whether a tag names an operator that takes so many arguments. -/
def accepts (tag : String) (count : Nat) : Bool := (ofTag? tag).any (·.admits count)

end Operator

mutual

/-- The nodes of a document from the top and from left to right, entered while they are in shape. -/
def occurrencesAt (steps : List Step) (value : Value) : List Occurrence :=
  ⟨steps, value⟩ ::
    match value with
    | .object [(tag, .list items)] =>
      if Operator.accepts tag items.length then argumentOccurrences steps tag 0 items else []
    | .object [(tag, .tuple items)] =>
      if Operator.accepts tag items.length then argumentOccurrences steps tag 0 items else []
    | _ => []
termination_by structural value

/-- The nodes below consecutive arguments, counted from the given index. -/
def argumentOccurrences (steps : List Step) (tag : String) (index : Nat) (items : List Value) :
    List Occurrence :=
  match items with
  | [] => []
  | item :: rest =>
    occurrencesAt (steps ++ [⟨tag, index⟩]) item ++ argumentOccurrences steps tag (index + 1) rest
termination_by structural items

end

/-- The nodes of a document in the order in which it is read. -/
def Value.occurrences (value : Value) : List Occurrence := occurrencesAt [] value

namespace Occurrence

/-- The number of nodes on the way to a node, with the node itself. -/
def depth (occurrence : Occurrence) : Int := occurrence.steps.length + 1

/-- The node itself as a place in the tree. -/
def node (occurrence : Occurrence) : Location := ⟨occurrence.steps, none⟩

/-- Whether a node is too deep or has no shape that a node can have. -/
def offends (limit : Int) (occurrence : Occurrence) : Bool :=
  limit < occurrence.depth || !occurrence.value.isWellShaped

/-- The place of a node, which is at its operator key if the fault lies in what the key holds. -/
def place (limit : Int) (occurrence : Occurrence) : Location :=
  if limit < occurrence.depth || occurrence.value.isWellShaped then occurrence.node
  else occurrence.value.faultPlace occurrence.node

/-- Whether what is wrong with a node can be told, without a number that is too long to be shown. -/
def isTellable (limit : Int) (occurrence : Occurrence) : Bool :=
  if limit < occurrence.depth then isShort limit else occurrence.value.faultIsTellable

end Occurrence

/-- Arguments that do not make an application are too few or too many, or their tag is strange. -/
theorem accepts_of_leaf {tag : String} (argument : Value) {items : List Value}
    (listed : argument.items? = some items)
    (leaf : (Value.object [(tag, argument)]).application? = none) :
    Operator.accepts tag items.length = false := by
  -- A tag that names an operator takes another number of arguments.
  cases found : Operator.ofTag? tag with
  | none => simp [Operator.accepts, found]
  | some operator => simpa [Operator.accepts, Value.application?, found, listed] using leaf

/-- The nodes of an application are itself and the nodes below its arguments. -/
theorem occurrencesAt_application {steps : List Step} {value : Value} {operator : Operator}
    {items : List Value} (applied : value.application? = some (operator, items)) :
    occurrencesAt steps value =
      ⟨steps, value⟩ :: argumentOccurrences steps operator.tag 0 items := by
  -- Arguments in a list and in a tuple are looked at alike.
  obtain ⟨argument, rfl, listed, admitted⟩ := Value.application?_eq_some.mp applied
  rcases Value.items?_eq_some.mp listed with rfl | rfl <;>
    simp [occurrencesAt, Operator.accepts, admitted]

/-- A value that applies no operator is the only node below it. -/
theorem occurrencesAt_leaf {steps : List Step} {value : Value} (leaf : value.application? = none) :
    occurrencesAt steps value = [⟨steps, value⟩] := by
  -- A tag over some arguments is the only shape that could be entered.
  unfold occurrencesAt
  split
  · rename_i tag items
    have refused := accepts_of_leaf (.list items) rfl leaf
    simp [refused]
  · rename_i tag items
    have refused := accepts_of_leaf (.tuple items) rfl leaf
    simp [refused]
  · rfl

/-- The nodes below some arguments are those below each of them, at its own index. -/
theorem mem_argumentOccurrences {steps : List Step} {tag : String} {index : Nat}
    {items : List Value} {occurrence : Occurrence} :
    occurrence ∈ argumentOccurrences steps tag index items ↔
      ∃ place item, items[place]? = some item ∧
        occurrence ∈ occurrencesAt (steps ++ [⟨tag, index + place⟩]) item := by
  -- The index is generalised, since it grows from one argument to the next.
  induction items generalizing index with
  | nil => simp [argumentOccurrences]
  | cons first rest ih =>
    rw [argumentOccurrences, List.mem_append, ih]
    constructor
    · rintro (here | ⟨place, item, found, below⟩)
      · exact ⟨0, first, rfl, here⟩
      · refine ⟨place + 1, item, found, ?_⟩
        rwa [Nat.add_right_comm] at below
    · rintro ⟨_ | place, item, found, below⟩
      · cases found
        exact .inl below
      · refine .inr ⟨place, item, found, ?_⟩
        rwa [Nat.add_right_comm]

/-- The steps to a node continue those to the nodes above it, by way of operator tags. -/
theorem steps_of_mem {steps : List Step} {value : Value} {occurrence : Occurrence}
    (member : occurrence ∈ occurrencesAt steps value) :
    ∃ further, occurrence.steps = steps ++ further ∧
      further.all (fun step => isPlainKey step.tag) = true := by
  -- A node is either the value itself or lies below one of its arguments.
  induction value using Value.document_induction generalizing steps with
  | leaf value unapplied =>
    rw [occurrencesAt_leaf unapplied, List.mem_singleton] at member
    subst member
    exact ⟨[], by simp, rfl⟩
  | node value operator items applied ih =>
    rw [occurrencesAt_application applied, List.mem_cons] at member
    rcases member with rfl | below
    · exact ⟨[], by simp, rfl⟩
    · obtain ⟨place, item, found, below⟩ := mem_argumentOccurrences.mp below
      obtain ⟨further, continued, plain⟩ := ih item (List.mem_of_getElem? found) below
      refine ⟨⟨operator.tag, 0 + place⟩ :: further, ?_, ?_⟩
      · rw [continued, List.append_assoc, List.singleton_append]
      · have known : Value.isKnownKey operator.tag = true := by simp [Value.isKnownKey]
        simp [isPlainKey_of_known known, plain]

/-- No two nodes below consecutive arguments are reached by the same steps. -/
theorem argumentOccurrences_steps_ne {steps : List Step} {tag : String} {index : Nat}
    {items : List Value}
    (each : ∀ item ∈ items, ∀ place : List Step,
      (occurrencesAt place item).Pairwise fun left right => left.steps ≠ right.steps) :
    (argumentOccurrences steps tag index items).Pairwise fun left right =>
      left.steps ≠ right.steps := by
  -- The nodes below the first argument are apart from each other and from all later ones.
  induction items generalizing index with
  | nil => simp [argumentOccurrences]
  | cons first rest ih =>
    rw [argumentOccurrences, List.pairwise_append]
    refine ⟨each first (by simp) _, ih fun item member => each item (by simp [member]), ?_⟩
    -- What lies below different arguments differs at the index of the argument.
    intro left here right there same
    obtain ⟨place, item, _, below⟩ := mem_argumentOccurrences.mp there
    obtain ⟨further, continued, _⟩ := steps_of_mem here
    obtain ⟨others, continued', _⟩ := steps_of_mem below
    rw [continued, continued'] at same
    simp only [List.append_assoc, List.append_cancel_left_eq, List.cons_append, List.cons.injEq,
      Step.mk.injEq, true_and] at same
    omega

/-- No two nodes of a document are reached by the same steps. -/
theorem occurrencesAt_steps_ne (steps : List Step) (value : Value) :
    (occurrencesAt steps value).Pairwise fun left right => left.steps ≠ right.steps := by
  -- A node is apart from those below it, and these are apart from each other.
  induction value using Value.document_induction generalizing steps with
  | leaf value unapplied => simp [occurrencesAt_leaf unapplied]
  | node value operator items applied ih =>
    rw [occurrencesAt_application applied, List.pairwise_cons]
    refine ⟨?_, argumentOccurrences_steps_ne fun item member place => ih item member place⟩
    -- Whatever lies below an argument takes at least one step more.
    intro occurrence there same
    obtain ⟨place, item, _, below⟩ := mem_argumentOccurrences.mp there
    obtain ⟨further, continued, _⟩ := steps_of_mem below
    simp [continued] at same

/-- A node is blamed at its own steps, and at no key but a known one. -/
theorem Occurrence.isPlain_place (limit : Int) {occurrence : Occurrence}
    (plain : occurrence.steps.all (fun step => isPlainKey step.tag) = true) :
    (occurrence.place limit).isPlain = true ∧
      (occurrence.place limit).steps = occurrence.steps := by
  -- The place is the node, or the node and its own key, which is a known one then.
  unfold Occurrence.place Value.faultPlace
  split
  · simp [Occurrence.node, Location.isPlain, plain]
  split
  · split_ifs with known
    · simp [Occurrence.node, Location.isPlain, Location.under, plain, isPlainKey_of_known known]
    · simp [Occurrence.node, Location.isPlain, plain]
  · simp [Occurrence.node, Location.isPlain, plain]

/-- No two nodes of a document can be blamed under the same text. -/
theorem Value.places_ne (value : Value) :
    value.occurrences.Pairwise fun left right =>
      ∀ limit other : Int, (left.place limit).text ≠ (right.place other).text := by
  -- The steps tell the nodes apart, and the text tells the steps.
  refine (occurrencesAt_steps_ne [] value).imp_of_mem ?_
  intro left right here there apart limit other same
  obtain ⟨further, continued, plain⟩ := steps_of_mem here
  obtain ⟨others, continued', plain'⟩ := steps_of_mem there
  rw [List.nil_append] at continued continued'
  obtain ⟨plain, steps⟩ := Occurrence.isPlain_place limit (continued ▸ plain)
  obtain ⟨plain', steps'⟩ := Occurrence.isPlain_place other (continued' ▸ plain')
  have places := Location.text_injective plain plain' same
  exact apart (steps.symm.trans ((congrArg Location.steps places).trans steps'))

end DeliveryRules
