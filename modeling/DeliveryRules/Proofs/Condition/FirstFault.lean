import DeliveryRules.Proofs.Condition.Occurrence
import DeliveryRules.Proofs.Condition.Parser
import DeliveryRules.Rule.Error

/-! Reading a document accepts its grammar exactly, and blames the first node that offends it. -/

namespace DeliveryRules

/-- Whether a fault is the one that a node has by itself, and tells its depth or shape and place. -/
structure StructureError.Blames (limit : Int) (fault : StructureError) (offender : Occurrence) :
    Prop where
  own : parseAt limit offender.node offender.depth offender.value = .error fault
  deep : fault.isDepth = decide (limit < offender.depth)
  placed : fault.details.lookup "node" = some (.text (offender.place limit).text)
  told : fault.isTellable = offender.isTellable limit

namespace StructureError.Blames

variable {limit : Int} {fault : StructureError} {offender : Occurrence}

/-- The report of a fault that can be told has the kind of its node's offence, and its place. -/
theorem report_of_isTellable (blamed : fault.Blames limit offender)
    (tellable : offender.isTellable limit = true) :
    ∃ report, fault.report? = some report ∧
      report.kind = (if limit < offender.depth then .conditionDepth else .invalidCondition) ∧
      report.details.member? "node" = some (.text (offender.place limit).text) := by
  -- The kind of the report tells whether the fault is one of depth.
  refine ⟨fault.report, ?_, ?_, blamed.placed⟩
  · rw [report?, blamed.told, tellable, if_pos rfl]
  · show fault.reportKind = _
    by_cases deep : limit < offender.depth <;> simp [reportKind, blamed.deep, deep]

/-- A fault that cannot be told has no report. -/
theorem report?_of_not_isTellable (blamed : fault.Blames limit offender)
    (untellable : offender.isTellable limit = false) : fault.report? = none := by
  rw [report?, blamed.told, untellable]
  rfl

end StructureError.Blames

/-- Whether an outcome is a result if no node offends, and else the fault of the first that does. -/
def Settles {α : Type} (limit : Int) (nodes : List Occurrence)
    (outcome : Except StructureError α) : Prop :=
  match nodes.find? (·.offends limit) with
  | none => ∃ result, outcome = .ok result
  | some first => ∃ fault, outcome = .error fault ∧ fault.Blames limit first

section Settling

variable {α β : Type} {limit : Int} {nodes rest : List Occurrence}

/-- A changed result is owed to the same nodes. -/
theorem Settles.map {outcome : Except StructureError α} (settled : Settles limit nodes outcome)
    (change : α → β) : Settles limit nodes (change <$> outcome) := by
  -- A change of the result leaves both the success and the fault as they are.
  unfold Settles at settled ⊢
  split at settled
  · obtain ⟨result, rfl⟩ := settled
    exact ⟨change result, rfl⟩
  · obtain ⟨fault, rfl, blamed⟩ := settled
    exact ⟨fault, rfl, blamed⟩

/-- Two steps are settled by the nodes of the first and then by those of the second. -/
theorem Settles.bind {outcome : Except StructureError α} {next : α → Except StructureError β}
    (settled : Settles limit nodes outcome) (after : ∀ result, Settles limit rest (next result)) :
    Settles limit (nodes ++ rest) (outcome >>= next) := by
  -- The nodes of the second step count only if none of the first offends.
  unfold Settles at settled ⊢
  rw [List.find?_append]
  split at settled
  · rename_i inoffensive
    obtain ⟨result, rfl⟩ := settled
    rw [inoffensive, Option.none_or]
    exact after result
  · rename_i first found
    obtain ⟨fault, rfl, blamed⟩ := settled
    rw [found, Option.some_or]
    exact ⟨fault, rfl, blamed⟩

/-- An offending node settles an outcome by itself, whatever comes after it. -/
theorem settles_of_offends {first : Occurrence} {outcome : Except StructureError α}
    {fault : StructureError} (offends : first.offends limit = true)
    (refused : outcome = .error fault) (blamed : fault.Blames limit first) :
    Settles limit (first :: rest) outcome := by
  -- The search for the first offender stops at it.
  unfold Settles
  rw [List.find?_cons_of_pos offends]
  exact ⟨fault, refused, blamed⟩

/-- An inoffensive node leaves the outcome to the nodes that come after it. -/
theorem settles_of_inoffensive {first : Occurrence} {outcome : Except StructureError α}
    (inoffensive : first.offends limit = false) (settled : Settles limit rest outcome) :
    Settles limit (first :: rest) outcome := by
  unfold Settles at settled ⊢
  rwa [List.find?_cons_of_neg (by simp [inoffensive])]

/-- A node below the limit is blamed for its depth alone. -/
theorem settles_of_tooDeep {steps : List Step} {value : Value}
    (deep : limit < steps.length + 1) :
    Settles limit (⟨steps, value⟩ :: rest)
      (parseAt limit ⟨steps, none⟩ (steps.length + 1) value) := by
  -- That the node is too deep is said before its shape is looked at.
  refine settles_of_offends ?_ (parseAt_tooDeep deep) ⟨parseAt_tooDeep deep, ?_, ?_, ?_⟩
  · simp [Occurrence.offends, Occurrence.depth, deep]
  · simp [StructureError.isDepth, Occurrence.depth, deep]
  · simp [Occurrence.place, Occurrence.depth, Occurrence.node, deep, StructureError.details,
      StructureError.node]
  · simp [Occurrence.isTellable, Occurrence.depth, deep, StructureError.isTellable]

/-- Arguments are settled by the nodes below them if each argument is settled by its own. -/
theorem settles_parseOperands {steps : List Step} {operator : Operator} {items : List Value}
    {index : Nat}
    (each : ∀ item ∈ items, ∀ place : List Step,
      Settles limit (occurrencesAt place item)
        (parseAt limit ⟨place, none⟩ (place.length + 1) item)) :
    Settles limit (argumentOccurrences steps operator.tag index items)
      (parseOperands limit ⟨steps, none⟩ (steps.length + 1) operator index items) := by
  -- The index is generalised, since each argument is told from the others by its own.
  induction items generalizing index with
  | nil => exact ⟨[], rfl⟩
  | cons item rest ih =>
    rw [argumentOccurrences, parseOperands]
    have head := each item (by simp) (steps ++ [Step.mk operator.tag index])
    -- One step more is one level more.
    have level : ((steps ++ [Step.mk operator.tag index]).length : Int) + 1 =
        steps.length + 1 + 1 := by simp
    rw [level] at head
    have tail : Settles limit (argumentOccurrences steps operator.tag (index + 1) rest)
        (parseOperands limit ⟨steps, none⟩ (steps.length + 1) operator (index + 1) rest) :=
      ih fun other member => each other (by simp [member])
    refine head.bind fun operand => ?_
    exact tail.map (Value.condition operand :: ·)

end Settling

/-- A document with no built part is settled by its nodes, wherever in a tree it is read. -/
theorem settles_parseAt {limit : Int} {value : Value} (raw : value.isRaw = true)
    (steps : List Step) :
    Settles limit (occurrencesAt steps value)
      (parseAt limit ⟨steps, none⟩ (steps.length + 1) value) := by
  -- The induction is on what applies an operator, wherever the node stands.
  induction value using Value.document_induction generalizing steps with
  | leaf value unapplied =>
    rw [occurrencesAt_leaf unapplied]
    by_cases deep : limit < steps.length + 1
    · exact settles_of_tooDeep deep
    rcases Value.leaf_cases unapplied with scalar | ⟨path, rfl⟩ | misshapen
    · -- A scalar and a reference are read at once, and any other leaf is the offender.
      refine settles_of_inoffensive ?_ ⟨_, parseAt_scalar (Int.not_lt.mp deep) scalar⟩
      simp [Occurrence.offends, Occurrence.depth, deep, Value.isWellShaped, scalar]
    · refine settles_of_inoffensive ?_ ⟨_, parseAt_reference (Int.not_lt.mp deep)⟩
      simp [Occurrence.offends, Occurrence.depth, deep, Value.isWellShaped, Value.isReference]
    · obtain ⟨fault, refused, shape, place, told⟩ :=
        parseAt_misshapen ⟨steps, none⟩ (Int.not_lt.mp deep) misshapen (Value.ne_condition raw)
      refine settles_of_offends ?_ refused ⟨refused, ?_, ?_, ?_⟩
      · simp [Occurrence.offends, misshapen]
      · simp [shape, Occurrence.depth, deep]
      · simp [place, Occurrence.place, Occurrence.depth, Occurrence.node, deep, misshapen]
      · simp [told, Occurrence.isTellable, Occurrence.depth, deep]
  | node value operator items applied ih =>
    rw [occurrencesAt_application applied]
    by_cases deep : limit < steps.length + 1
    · exact settles_of_tooDeep deep
    · -- An application within the limit does not offend by itself, so its arguments settle it.
      refine settles_of_inoffensive ?_ ?_
      · simp [Occurrence.offends, Occurrence.depth, deep, Value.isWellShaped, applied]
      rw [parseAt_application (by omega) applied]
      have rawItems := (Value.isRaw_application applied).mp raw
      refine Settles.map ?_ operator.assemble
      exact settles_parseOperands fun item member place =>
        ih item member (rawItems item member) place

/-- A document is settled by its nodes. -/
theorem settles_toCondition (limit : Int) {document : Value} (raw : document.isRaw = true) :
    Settles limit document.occurrences (document.toCondition limit) := by
  rw [toCondition_eq_parseAt (Value.ne_condition raw)]
  exact settles_parseAt raw []

/-- None of some nodes offends exactly if each of them is within the limit and in shape. -/
theorem find?_offends_eq_none_iff {limit : Int} {nodes : List Occurrence} :
    nodes.find? (·.offends limit) = none ↔
      ∀ node ∈ nodes, node.depth ≤ limit ∧ node.value.isWellShaped = true := by
  simp [List.find?_eq_none, Occurrence.offends]

/-- A document is read exactly if each of its nodes is within the limit and in shape. -/
theorem read_iff_inShape {limit : Int} {document : Value} (raw : document.isRaw = true) :
    (∃ built, document.toCondition limit = .ok built) ↔
      ∀ node ∈ document.occurrences, node.depth ≤ limit ∧ node.value.isWellShaped = true := by
  -- The outcome is a result in the one case, and the fault of the first offender in the other.
  have settled := settles_toCondition limit raw
  rw [← find?_offends_eq_none_iff]
  unfold Settles at settled
  split at settled
  · rename_i inoffensive
    exact iff_of_true settled inoffensive
  · -- An offending node is the fault of the reading.
    rename_i first found
    obtain ⟨fault, refused, _⟩ := settled
    exact iff_of_false (by simp [refused]) (by simp [found])

/-- A document that is read has no node below the limit and none out of shape. -/
theorem inShape_of_read {limit : Int} {document : Value} {built : Condition}
    (raw : document.isRaw = true) (read : document.toCondition limit = .ok built) :
    ∀ node ∈ document.occurrences, node.depth ≤ limit ∧ node.value.isWellShaped = true :=
  (read_iff_inShape raw).mp ⟨built, read⟩

/--
A document is read exactly if each of its nodes is within the limit and in shape.

It is else refused with the fault of the first that is not, at a place that no other node has. The
fault has its report only if no number that the report would show is too long.
-/
theorem toCondition_blames_first (raw : Value) (unbuilt : raw.isRaw = true) (limit : Int) :
    ((∃ built, raw.toCondition limit = .ok built) ↔
        ∀ node ∈ raw.occurrences, node.depth ≤ limit ∧ node.value.isWellShaped = true) ∧
      (∀ first, raw.occurrences.find? (·.offends limit) = some first →
        ∃ fault, raw.toCondition limit = .error fault ∧
          parseAt limit first.node first.depth first.value = .error fault ∧
          (first.isTellable limit = true → ∃ report, fault.report? = some report ∧
            report.kind =
              (if limit < first.depth then .conditionDepth else .invalidCondition) ∧
            report.details.member? "node" = some (.text (first.place limit).text)) ∧
          (first.isTellable limit = false → fault.report? = none)) ∧
      raw.occurrences.Pairwise fun left right =>
        ∀ own other : Int, (left.place own).text ≠ (right.place other).text := by
  -- The first half is about all nodes, the second about the first that offends.
  refine ⟨read_iff_inShape unbuilt, ?_, raw.places_ne⟩
  intro first found
  have settled := settles_toCondition limit unbuilt
  simp only [Settles, found] at settled
  obtain ⟨fault, refused, blamed⟩ := settled
  exact ⟨fault, refused, blamed.own, blamed.report_of_isTellable,
    blamed.report?_of_not_isTellable⟩

/-- A fault far down in the first argument is told before one at the top of the second. -/
theorem toCondition_blames_first_deepest :
    ∃ fault report, (Value.object [("and", .list [.object [("or", .list [.object
        [("not", .null)]])], .list []])]).toCondition 3 = .error fault ∧
      fault.report? = some report ∧ report.kind = .invalidCondition ∧
      report.details.member? "node" = some (.text "$.and[0].or[0]") := by
  -- The first offender in the order of reading is the third node down the first argument.
  obtain ⟨_, blamed, _⟩ := toCondition_blames_first
    (.object [("and", .list [.object [("or", .list [.object [("not", .null)]])], .list []])])
    (by decide) 3
  obtain ⟨fault, refused, _, told, _⟩ := blamed
    ⟨[⟨"and", 0⟩, ⟨"or", 0⟩], .object [("not", .null)]⟩ rfl
  obtain ⟨report, reported, kind, placed⟩ := told rfl
  exact ⟨fault, report, refused, reported, kind, placed⟩

/-- A path that is a number with too many digits is refused, but its fault cannot be told. -/
theorem toCondition_untellable :
    let document : Value := .object [("var", .int (tenTo digitLimit))]
    document.isRaw = true ∧ ∃ fault, document.toCondition 32 = .error fault ∧
      fault.report? = none := by
  -- The argument holds of every number that is too long, so that none has to be written out.
  have general : ∀ n : Int, isShort n = false →
      (Value.object [("var", .int n)]).isRaw = true ∧
        ∃ fault, (Value.object [("var", .int n)]).toCondition 32 = .error fault ∧
          fault.report? = none := by
    intro n long
    refine ⟨rfl, .pathNotText (some (Location.root.under "var")) (.int n), rfl, ?_⟩
    rw [StructureError.report?, StructureError.isTellable, Value.isWritable, long]
    rfl
  exact general _ isShort_tenTo

end DeliveryRules
