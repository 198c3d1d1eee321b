import DeliveryRules.Condition.Wire
import DeliveryRules.Proofs.Condition.Parser

/-! Reading a document and writing a condition undo each other. -/

namespace DeliveryRules

/-- What is read from raw data is well formed and fits into the levels it was read within. -/
theorem Describes.wellFormed {levels : Int} {value : Value} {built : Condition}
    (described : Describes levels value built) (raw : value.isRaw = true) :
    built.isWellFormed = true ∧ built.depth ≤ levels := by
  -- Raw data holds nothing built, so every part comes from a node of the document.
  induction described with
  | built condition positive => simp [Value.isRaw] at raw
  | literal positive scalar => exact ⟨scalar, by simp only [Condition.depth]; omega⟩
  | field path positive => exact ⟨rfl, by simp only [Condition.depth]; omega⟩
  | @node levels value operator pairs positive applied each ih =>
    have items := (Value.isRaw_application applied).mp raw
    have admitted := Value.admits_of_application applied
    -- Each part was read within one level less than the node.
    have parts : ∀ part ∈ pairs.map Prod.snd,
        part.isWellFormed = true ∧ part.depth ≤ (levels - 1).toNat := by
      intro part member
      obtain ⟨pair, paired, rfl⟩ := List.mem_map.mp member
      obtain ⟨formed, within⟩ := ih pair paired (items pair.1 (List.mem_map_of_mem paired))
      exact ⟨formed, by omega⟩
    have admitted : operator.admits ((pairs.map Prod.snd).map Value.condition).length = true := by
      simpa using admitted
    constructor
    · exact Condition.isWellFormed_node (by simpa using admitted) fun part member =>
        (parts part member).1
    · rw [Operator.depth_assemble admitted]
      have within := deepest_le fun part member => (parts part member).2
      omega

/-- The parts of a node are written one by one. -/
theorem Operator.toWire_assemble {operator : Operator} {operands : List Value}
    (admitted : operator.admits operands.length = true) :
    (operator.assemble operands).toWire =
      (fun written => .object [(operator.tag, .list written)]) <$> operandsWire operands := by
  -- The arrangement tells the operands by name, and each is written in its place.
  cases arranged admitted <;>
    simp [assemble, Operator.tag, Condition.toWire, operandsWire, map_eq_pure_bind,
      -bind_pure_comp] <;>
    rfl

/-- Operands that are each written are written together, in order. -/
theorem operandsWire_of_each {pairs : List (Value × Condition)} {write : Value × Condition → Value}
    (each : ∀ pair ∈ pairs, pair.2.toWire = .ok (write pair)) :
    operandsWire ((pairs.map Prod.snd).map .condition) = .ok (pairs.map write) := by
  -- The operands are written in order, and all of them can be.
  induction pairs with
  | nil => rfl
  | cons pair rest ih =>
    have head := each pair (by simp)
    have tail := ih fun other member => each other (by simp [member])
    simp only [List.map_cons, operandsWire, operandWire, head, tail]
    rfl

/-- What is read from raw data is written back as that data, with lists for its tuples. -/
theorem Describes.toWire {levels : Int} {value : Value} {built : Condition}
    (described : Describes levels value built) (raw : value.isRaw = true) :
    built.toWire = .ok value.withLists := by
  -- A node is written under its own tag, over what its parts are written as.
  induction described with
  | built condition positive => simp [Value.isRaw] at raw
  | literal positive scalar => rw [Value.withLists_scalar scalar, Condition.toWire]
  | field path positive => rfl
  | @node levels value operator pairs positive applied each ih =>
    have items := (Value.isRaw_application applied).mp raw
    have admitted := Value.admits_of_application applied
    have written := operandsWire_of_each fun pair member =>
      ih pair member (items pair.1 (List.mem_map_of_mem member))
    rw [Operator.toWire_assemble (by simpa using admitted), written,
      Value.withLists_application applied, List.map_map]
    rfl

/-- Parts that each have a document are paired with their documents, in order. -/
theorem exists_pairs {parts : List Condition} {relates : Value → Condition → Prop}
    (each : ∀ part ∈ parts, ∃ wire, relates wire part) :
    ∃ pairs : List (Value × Condition), parts = pairs.map Prod.snd ∧
      ∀ pair ∈ pairs, relates pair.1 pair.2 := by
  -- Each part is paired with a document that is chosen for it.
  induction parts with
  | nil => exact ⟨[], rfl, by simp⟩
  | cons part rest ih =>
    obtain ⟨wire, head⟩ := each part (by simp)
    obtain ⟨pairs, rfl, tail⟩ := ih fun other member => each other (by simp [member])
    exact ⟨(wire, part) :: pairs, rfl, List.forall_mem_cons.mpr ⟨head, tail⟩⟩

/-- A well-formed condition is written as raw data that describes it within its own depth. -/
theorem Condition.exists_wire (built : Condition) (wellFormed : built.isWellFormed = true) :
    ∃ wire, built.toWire = .ok wire ∧ wire.isRaw = true ∧ Describes built.depth wire built := by
  -- The induction is on well-formed conditions, which are built from documents level by level.
  induction built, wellFormed using Condition.wellFormed_induction with
  | literal content scalar =>
    refine ⟨content, rfl, ?_, .literal (by simp [Condition.depth]) scalar⟩
    cases content <;> simp_all [Value.isScalar, Value.isRaw]
  | field path =>
    exact ⟨_, rfl, rfl, .field path (by simp [Condition.depth])⟩
  | node operator parts admitted formed each =>
    -- The documents of the parts are the arguments of the document of the node.
    obtain ⟨pairs, rfl, related⟩ := exists_pairs each
    have operands : operator.admits ((pairs.map Prod.snd).map Value.condition).length = true := by
      simpa using admitted
    have applied : (Value.object [(operator.tag, .list (pairs.map Prod.fst))]).application? =
        some (operator, pairs.map Prod.fst) :=
      Value.application?_eq_some.mpr ⟨_, rfl, rfl, by simpa using admitted⟩
    refine ⟨_, ?_, ?_, .node (by rw [Operator.depth_assemble operands]; omega) applied ?_⟩
    · rw [Operator.toWire_assemble operands,
        operandsWire_of_each fun pair member => (related pair member).1]
      rfl
    · rw [Value.isRaw_application applied]
      intro item member
      obtain ⟨pair, paired, rfl⟩ := List.mem_map.mp member
      exact (related pair paired).2.1
    · intro pair member
      have listed : pair.2 ∈ pairs.map Prod.snd := List.mem_map_of_mem member
      have within := depth_le_deepest listed
      rw [Operator.depth_assemble operands]
      exact (related pair member).2.2.mono (by omega)

/--
Reading and writing undo each other over the whole condition language.

Raw data that is read is written back with lists for its tuples and otherwise unchanged.
A well-formed condition is read back from what it is written as, at exactly the limits that cover
its depth.
-/
theorem wire_roundTrip :
    (∀ (raw : Value) (limit : Int) (built : Condition), raw.isRaw = true →
      raw.toCondition limit = .ok built →
      (Value.condition built).toWire = .ok raw.withLists) ∧
    (∀ built : Condition, built.isWellFormed = true →
      ∃ wire, (Value.condition built).toWire = .ok wire ∧
        ∀ limit : Int, wire.toCondition limit = .ok built ↔ built.depth ≤ limit) := by
  -- Each half takes the description as its middle: the reader decides it, the writer inverts it.
  constructor
  · intro raw limit built isRaw read
    have described := (toCondition_iff (Value.ne_condition isRaw)).mp read
    exact described.toWire isRaw
  · intro built wellFormed
    obtain ⟨wire, written, isRaw, described⟩ := built.exists_wire wellFormed
    refine ⟨wire, written, fun limit => ?_⟩
    -- The document describes the condition within its depth, and nothing within fewer levels.
    rw [toCondition_iff (Value.ne_condition isRaw)]
    constructor
    · intro within
      exact (within.wellFormed isRaw).2
    · intro covered
      exact described.mono covered

/-- A truth value, a whole number and a float of the same size come back as what they were. -/
theorem wire_roundTrip_mixedScalars :
    let raw : Value := .object [("if", .tuple [.object [("==", .list [.bool true, .int 1])],
      .object [("and", .tuple [.float (.ofInt 1), .object [("var", .text "order.tip")]])], .null])]
    let equal : Condition :=
      .comparison .equal (.condition (.literal (.bool true))) (.condition (.literal (.int 1)))
    let both : Condition := .junction .all
      [.condition (.literal (.float (.ofInt 1))), .condition (.field (.text "order.tip"))]
    let built : Condition :=
      .branch (.condition equal) (.condition both) (.condition (.literal .null))
    raw.isRaw = true ∧ raw.toCondition 3 = .ok built ∧
      (Value.condition built).toWire = .ok raw.withLists ∧ built.isWellFormed = true ∧
      ∃ wire, (Value.condition built).toWire = .ok wire ∧
        ∀ limit : Int, wire.toCondition limit = .ok built ↔ built.depth ≤ limit :=
  ⟨rfl, rfl, wire_roundTrip.1 _ 3 _ rfl rfl, rfl, wire_roundTrip.2 _ rfl⟩

end DeliveryRules
