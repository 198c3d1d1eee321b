import DeliveryRules.Catalog.Packaged
import DeliveryRules.Proofs.Condition.FirstFault
import DeliveryRules.Proofs.Outcome
import DeliveryRules.Proofs.Rule.Validation
import DeliveryRules.Rule.Preview

/-! A preview vouches for a rule as far down as its check goes, which need not be to the end. -/

namespace DeliveryRules

/-- Whether a node refers to a field by a path. -/
def Occurrence.RefersTo (node : Occurrence) (path : String) : Prop :=
  node.value = .object [(fieldTag, .text path)]

/-- An application is not a reference, since its key is the tag of an operator. -/
theorem Occurrence.not_refersTo_of_application {steps : List Step} {value : Value}
    {operator : Operator} {items : List Value} {path : String}
    (applied : value.application? = some (operator, items)) :
    ¬Occurrence.RefersTo ⟨steps, value⟩ path := by
  -- A reference applies nothing.
  intro refers
  obtain ⟨argument, rfl, _, _⟩ := Value.application?_eq_some.mp applied
  -- Both keys would have to be the same.
  simp [RefersTo] at refers

/--
The paths found within some levels are those of the references that lie high enough.

A node takes two levels, its object and its arguments, and a reference needs the first of its own.
-/
theorem mem_collectFields_iff {levels : Int} {steps : List Step} {value : Value} {path : String}
    (shaped : ∀ node ∈ occurrencesAt steps value, node.value.isWellShaped = true) :
    path ∈ collectFields levels value ↔
      ∃ node ∈ occurrencesAt steps value,
        2 * (node.depth - steps.length) ≤ levels + 1 ∧ node.RefersTo path := by
  -- Levels and steps are generalised, since both change from node to argument.
  induction value using Value.document_induction generalizing levels steps with
  | leaf value unapplied =>
    have itself : value.isWellShaped = true :=
      shaped ⟨steps, value⟩ (by simp [occurrencesAt_leaf unapplied])
    simp only [occurrencesAt_leaf unapplied, List.mem_singleton, exists_eq_left,
      Occurrence.RefersTo, Occurrence.depth]
    rcases Value.leaf_cases unapplied with scalar | ⟨own, rfl⟩ | misshapen
    · -- A scalar refers to nothing.
      rw [collectFields_scalar levels scalar]
      cases value <;> simp_all [Value.isScalar]
    · -- A reference is found if a single level is left.
      have high : 2 * ((steps.length : Int) + 1 - steps.length) ≤ levels + 1 ↔ ¬levels < 1 := by
        omega
      rw [high]
      by_cases spent : levels < 1
      · rw [collectFields_of_spent spent]
        simp [spent]
      · simp [collectFields, collectMembers, spent, eq_comm]
    · rw [misshapen] at itself
      cases itself
  | node value operator items applied ih =>
    rw [collectFields_application levels applied, collectItems_eq_flatMap, List.mem_flatMap,
      occurrencesAt_application applied]
    rw [occurrencesAt_application applied] at shaped
    -- What lies below an argument is one step further down, and has two levels less.
    constructor
    · -- A path found below an argument is that of a reference there.
      rintro ⟨item, listed, found⟩
      obtain ⟨place, known⟩ := List.getElem?_of_mem listed
      have below : ∀ node ∈ occurrencesAt (steps ++ [⟨operator.tag, 0 + place⟩]) item,
          node ∈ argumentOccurrences steps operator.tag 0 items :=
        fun node member => mem_argumentOccurrences.mpr ⟨place, item, known, member⟩
      obtain ⟨node, member, high, refers⟩ := (ih item listed fun node member =>
        shaped node (List.mem_cons_of_mem _ (below node member))).mp found
      refine ⟨node, List.mem_cons_of_mem _ (below node member), ?_, refers⟩
      simp only [List.length_append, List.length_singleton] at high
      omega
    · -- A reference that lies high enough is found below its argument.
      rintro ⟨node, member, high, refers⟩
      rcases List.mem_cons.mp member with rfl | lower
      · exact absurd refers (Occurrence.not_refersTo_of_application applied)
      obtain ⟨place, item, known, member⟩ := mem_argumentOccurrences.mp lower
      have listed : item ∈ items := List.mem_of_getElem? known
      refine ⟨item, listed, (ih item listed fun other found => ?_).mpr
        ⟨node, member, ?_, refers⟩⟩
      · exact shaped other (List.mem_cons_of_mem _
          (mem_argumentOccurrences.mpr ⟨place, item, known, found⟩))
      · simp only [List.length_append, List.length_singleton]
        omega

/-- The references of a document that is read are those of its nodes, down to the given depth. -/
theorem mem_referencedFields_iff {limit within : Int} {document : Value} {built : Condition}
    {path : String} (raw : document.isRaw = true)
    (read : document.toCondition within = .ok built) :
    path ∈ referencedFields limit document ↔
      ∃ node ∈ document.occurrences, node.depth ≤ limit ∧ node.RefersTo path := by
  -- A document that is read has well-shaped nodes only.
  have shaped : ∀ node ∈ document.occurrences, node.value.isWellShaped = true :=
    fun node member => (inShape_of_read raw read node member).2
  -- At the top there are two levels for every node within the limit.
  have levels : ∀ node : Occurrence,
      2 * (node.depth - ([] : List Step).length) ≤ 2 * limit + 1 ↔ node.depth ≤ limit := by
    intro node
    simp only [List.length_nil]
    omega
  simp only [referencedFields, mem_collectFields_iff shaped, levels, Value.occurrences]

/-- A preview holds the verdict of its check, and its rule was read under the evaluation limit. -/
theorem previewRule_ok {limits : Limits} {catalog : Catalog} {category : Category} {tree : Value}
    {preview : Preview} (previewed : previewRule limits catalog category tree = .ok preview) :
    preview.verdict = validate limits.validation catalog category tree ∧
      ∃ built, tree.toCondition limits.evaluation = .ok built := by
  obtain ⟨explanation, _, previewed⟩ := bind_eq_ok.mp previewed
  obtain ⟨simulation, simulated, previewed⟩ := bind_eq_ok.mp previewed
  cases previewed
  refine ⟨rfl, ?_⟩
  -- Nothing is simulated unless the rule was read before.
  obtain ⟨results, ran, _⟩ := bind_eq_ok.mp simulated
  unfold runSamples at ran
  split at ran
  · cases ran
  · exact ⟨_, ‹_›⟩

/--
A preview that passes vouches for the references down to the depth of its check, and for no others.

It vouches for all of them, at any depth, if the evaluation goes no deeper than the check.
-/
theorem previewRule_vouches {limits : Limits} {catalog : Catalog} {category : Category}
    {tree : Value} {preview : Preview} (raw : tree.isRaw = true)
    (previewed : previewRule limits catalog category tree = .ok preview) :
    (preview.verdict.isValid = true ↔
        ∀ node ∈ tree.occurrences, node.depth ≤ limits.validation →
          ∀ path, node.RefersTo path → normalizePath path ∈ catalog.pathsFor category) ∧
      (limits.evaluation ≤ limits.validation → preview.verdict.isValid = true →
        ∀ node ∈ tree.occurrences, ∀ path, node.RefersTo path →
          normalizePath path ∈ catalog.pathsFor category) := by
  obtain ⟨verdict, built, read⟩ := previewRule_ok previewed
  -- The check finds the references down to its own limit.
  have vouched : preview.verdict.isValid = true ↔
      ∀ node ∈ tree.occurrences, node.depth ≤ limits.validation →
        ∀ path, node.RefersTo path → normalizePath path ∈ catalog.pathsFor category := by
    rw [verdict, isValid_iff]
    simp only [mem_referencedFields_iff raw read]
    constructor
    · intro allowed node member high path refers
      exact allowed path ⟨node, member, high, refers⟩
    · rintro allowed path ⟨node, member, high, refers⟩
      exact allowed node member high path refers
  refine ⟨vouched, ?_⟩
  intro covered passed node member
  -- The simulation read the whole rule, so no node is deeper than the check goes.
  have shallow : node.depth ≤ limits.evaluation := (inShape_of_read raw read node member).1
  exact vouched.mp passed node member (by omega)

/-- A rule on tips is vouched for where the check goes as deep as the evaluation. -/
theorem previewRule_vouches_tip :
    let tree : Value := .object [(">", .list [.object [("var", .text "order.tip")], .int 1000])]
    let preview : Preview := ⟨⟨[]⟩, "order.tip > 1000",
      ["Order $45.00 → false", "Order $150.00 → true", "Order $320.00 → true"]⟩
    previewRule ⟨2, 2, 2⟩ .packaged .providerSelection tree = .ok preview ∧
      ∀ node ∈ tree.occurrences, ∀ path, node.RefersTo path →
        normalizePath path ∈ Catalog.packaged.pathsFor .providerSelection := by
  intro tree preview
  have raw : tree.isRaw = true := by decide
  have previewed : previewRule ⟨2, 2, 2⟩ .packaged .providerSelection tree = .ok preview := rfl
  obtain ⟨_, vouched⟩ := previewRule_vouches raw previewed
  exact ⟨previewed, vouched (by decide) (by decide)⟩

/-- A rule passes with a reference to quotes that it has not, if only the evaluation reaches it. -/
theorem previewRule_unvouched :
    let quote : Value := .object [("var", .text "provider_quotes[0].fee")]
    let tree : Value := .object [("and", .list [quote])]
    ∃ preview, previewRule ⟨1, 2, 2⟩ .packaged .providerSelection tree = .ok preview ∧
      preview.verdict.isValid = true ∧
      ∃ node ∈ tree.occurrences, ∃ path, node.RefersTo path ∧
        normalizePath path ∉ Catalog.packaged.pathsFor .providerSelection := by
  intro quote tree
  -- The group is checked and the quote below it is not.
  have nodes : tree.occurrences = [⟨[], tree⟩, ⟨[⟨"and", 0⟩], quote⟩] := rfl
  have closed : normalizePath "provider_quotes[0].fee" ∉
      Catalog.packaged.pathsFor .providerSelection := by decide
  exact ⟨_, rfl, rfl, ⟨[⟨"and", 0⟩], quote⟩, by simp [nodes], _, rfl, closed⟩

end DeliveryRules
