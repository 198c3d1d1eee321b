import DeliveryRules.Proofs.Condition.Wire
import DeliveryRules.Proofs.Outcome
import DeliveryRules.Proofs.Rule.Evaluation
import DeliveryRules.Proofs.Rule.Explanation
import DeliveryRules.Proofs.Rule.Validation
import DeliveryRules.Rule.Preview

/-! Whether a rule has values is settled by its tree: no document makes it fail. -/

namespace DeliveryRules

/-- A rule that has a value on every document, and can be tried out and previewed. -/
structure Succeeds (limit : Int) (tree : Value) : Prop where
  evaluates : ∀ document, ∃ value, evaluate limit tree document = .ok value
  simulates : ∀ nesting category, ∃ lines, simulate limit nesting category tree = .ok lines
  previews : ∀ (limits : Limits) (catalog : Catalog) (category : Category),
    limits.evaluation = limit → ∃ preview, previewRule limits catalog category tree = .ok preview

/-- A rule whose every use fails with one and the same fault. -/
structure FailsWith (limit : Int) (tree : Value) (fault : StructureError) : Prop where
  evaluates : ∀ document, evaluate limit tree document = .error (.malformed fault)
  simulates : ∀ nesting category, simulate limit nesting category tree = .error (.malformed fault)
  previews : ∀ (limits : Limits) (catalog : Catalog) (category : Category),
    limits.evaluation = limit →
    previewRule limits catalog category tree = .error (.malformed fault)

/-- The amounts of the sample orders of each category are known. -/
theorem sample_amounts (category : Category) :
    (Sample.documents category).map orderAmount =
      [.ok "$45.00", .ok "$150.00", .ok "$320.00"] := by
  cases category <;> rfl

/-- The numbers of the sample orders are short. -/
theorem isWritable_sample {category : Category} {document : Value}
    (member : document ∈ Sample.documents category) : document.isWritable = true := by
  -- The samples of both categories are gone through one by one.
  have each : ∀ category, (Sample.documents category).all Value.isWritable = true := by
    intro category
    cases category <;> rfl
  exact List.all_eq_true.mp (each category) document member

/-- Every sample order has a line for a value whose numbers are short. -/
theorem simulationLine_total {category : Category} {document result : Value} (nesting : Int)
    (member : document ∈ Sample.documents category) (writable : result.isWritable = true) :
    ∃ line, simulationLine nesting document result = .ok line := by
  -- The amount of the sample is one of the three.
  have listed : orderAmount document ∈ (Sample.documents category).map orderAmount :=
    List.mem_map_of_mem member
  rw [sample_amounts] at listed
  simp only [List.mem_cons, List.not_mem_nil, or_false] at listed
  obtain ⟨text, rendered⟩ := @renderLiteral_total nesting result writable
  unfold simulationLine
  rcases listed with amount | amount | amount <;> exact ⟨_, by rw [amount, rendered]; rfl⟩

/-- A tree is evaluated like the condition that it is read as. -/
theorem evaluate_eq_of_read {limit : Int} {tree : Value} {built : Condition}
    (read : tree.toCondition limit = .ok built) (document : Value) :
    evaluate limit tree document = evaluate limit (.condition built) document := by
  simp only [evaluate, read]
  rfl

/-- Whether a use of a rule has a result, or fails for an index as the rule does on a document. -/
def FailsOnlyAtIndex {α : Type} (limit : Int) (tree : Value) (use : Except RuleError α) : Prop :=
  (∃ result, use = .ok result) ∨
    use = .error (.misuse (.numeral .tooManyDigits)) ∧
      ∃ document, evaluate limit tree document = .error (.numeral .tooManyDigits)

/--
A tree whose condition fails only for length is tried out on the samples, or fails at an index.

The values that samples have are written as part of their lines, so their numbers have to be short.
-/
theorem failsOnlyAtIndex_simulate {limit : Int} {tree : Value} {built : Condition} (nesting : Int)
    (category : Category) (read : tree.toCondition limit = .ok built)
    (bounded : ∀ document : Value, document.isWritable = true →
      FailsOnlyForLength (evaluate limit tree document)) :
    FailsOnlyAtIndex limit tree (simulate limit nesting category tree) := by
  cases ran : evaluateEach limit (.condition built) (Sample.documents category) with
  | error reason =>
    -- The first sample that fails does so for its length.
    obtain ⟨document, listed, failed⟩ := mapM_error_mem ran
    have length := bounded document (isWritable_sample listed)
    rw [← evaluate_eq_of_read read] at failed
    cases evaluated : evaluate limit tree document with
    | ok value =>
      rw [evaluated] at failed
      cases failed
    | error fault =>
      rw [evaluated] at failed length
      cases length
      cases failed
      refine .inr ⟨?_, document, evaluated⟩
      simp only [simulate, runSamples, read, ran]
      rfl
  | ok results =>
    -- What comes of the samples are the samples themselves, so each line has an amount.
    have samples : ∀ pair ∈ results,
        pair.1 ∈ Sample.documents category ∧ pair.2.isWritable = true := by
      intro pair member
      obtain ⟨document, listed, stepped⟩ := mapM_ok_mem ran member
      have length := bounded document (isWritable_sample listed)
      rw [← evaluate_eq_of_read read] at stepped
      cases evaluated : evaluate limit tree document with
      | ok value =>
        rw [evaluated] at stepped length
        cases stepped
        exact ⟨listed, length⟩
      | error fault =>
        rw [evaluated] at stepped
        cases stepped
    -- Every line can be written, since its value is short.
    obtain ⟨lines, shown⟩ : ∃ lines,
        results.mapM (fun pair => simulationLine nesting pair.1 pair.2) = .ok lines := by
      refine mapM_total fun pair member => ?_
      obtain ⟨listed, short⟩ := samples pair member
      exact simulationLine_total nesting listed short
    refine .inl ⟨lines, ?_⟩
    simp only [simulate, runSamples, read, ran]
    exact shown

/-- A tree that is resolved and whose numbers are short has a sentence in its preview. -/
theorem explanationOf_total (limits : Limits) {tree : Value} (resolved : tree.isResolved = true)
    (writable : tree.isWritable = true) : ∃ sentence, explanationOf limits tree = .ok sentence := by
  obtain ⟨sentence, explained⟩ :=
    explainAt_total limits.explanation limits.validation 1 tree resolved writable
  exact ⟨sentence, by simp only [explanationOf, explain, explained]; rfl⟩

/-- Whether the numbers in a tree are short, and so are the indexes of the paths it refers to. -/
structure HasShortNumbers (limit : Int) (tree : Value) : Prop where
  writable : tree.isWritable = true
  -- A malformed path leads nowhere without being cut, so its indexes do not matter.
  followable : ∀ path ∈ referencedFields limit tree, isFollowable path = true

/-- A rule whose uses fail only at an index that is too long. -/
structure IsBounded (limit : Int) (tree : Value) : Prop where
  evaluates : ∀ document : Value, document.isWritable = true →
    FailsOnlyForLength (evaluate limit tree document)
  simulates : ∀ nesting category,
    FailsOnlyAtIndex limit tree (simulate limit nesting category tree)
  previews : ∀ (limits : Limits) (catalog : Catalog) (category : Category),
    limits.evaluation = limit →
      FailsOnlyAtIndex limit tree (previewRule limits catalog category tree)

/-- A resolved tree that gives a well-formed condition within the limit fails only at an index. -/
theorem isBounded_of_wellFormed {limit : Int} {tree : Value} {built : Condition}
    (resolved : tree.isResolved = true) (writable : tree.isWritable = true)
    (read : tree.toCondition limit = .ok built) (wellFormed : built.isWellFormed = true)
    (within : built.depth ≤ limit) : IsBounded limit tree := by
  have evaluates : ∀ document : Value, document.isWritable = true →
      FailsOnlyForLength (evaluate limit tree document) := by
    intro document short
    rw [evaluate, read]
    exact failsOnlyForLength_evaluateAt short wellFormed
      (isWritable_of_toCondition read writable) (by omega)
  have simulates := fun nesting category =>
    failsOnlyAtIndex_simulate nesting category read evaluates
  refine ⟨evaluates, simulates, fun limits catalog category same => ?_⟩
  -- The sentence comes before the samples and is no obstacle to them.
  obtain ⟨sentence, explained⟩ := explanationOf_total limits resolved writable
  -- The preview has the outcome of its samples.
  rcases simulates limits.validation category with ⟨lines, simulated⟩ | ⟨failed, document, index⟩
  · refine .inl ⟨⟨validate limits.validation catalog category tree, sentence, lines⟩, ?_⟩
    simp only [previewRule, explained, same, simulated]
    rfl
  · refine .inr ⟨?_, document, index⟩
    simp only [previewRule, explained, same, failed]
    rfl

/-- A resolved tree that gives a well-formed condition within the limit succeeds. -/
theorem succeeds_of_wellFormed {limit : Int} {tree : Value} {built : Condition}
    (resolved : tree.isResolved = true) (short : HasShortNumbers limit tree)
    (read : tree.toCondition limit = .ok built) (wellFormed : built.isWellFormed = true)
    (within : built.depth ≤ limit) : Succeeds limit tree := by
  -- The tree refers to what it is read as refers to, and the limit covers all of it.
  have same : referencedFields limit tree = built.references := by
    rw [referencedFields_of_toCondition read, referencedFields]
    exact collectFields_eq_references wellFormed (by omega)
  -- The paths of the condition are those that the tree refers to.
  have followable : built.IsFollowable := by
    unfold Condition.IsFollowable
    rw [← same]
    exact short.followable
  have evaluates : ∀ document, ∃ value, evaluate limit tree document = .ok value := by
    intro document
    rw [evaluate, read]
    exact evaluateAt_total document wellFormed followable (by omega)
  -- Nothing fails at an index, since no document makes the rule fail.
  have settled : ∀ {α : Type} {use : Except RuleError α},
      FailsOnlyAtIndex limit tree use → ∃ result, use = .ok result := by
    rintro α use (given | ⟨_, document, failed⟩)
    · exact given
    · obtain ⟨value, evaluated⟩ := evaluates document
      cases evaluated.symm.trans failed
  have bounded := isBounded_of_wellFormed resolved short.writable read wellFormed within
  exact ⟨evaluates, fun nesting category => settled (bounded.simulates nesting category),
    fun limits catalog category same => settled (bounded.previews limits catalog category same)⟩

/-- A resolved tree that gives no condition fails with the fault of reading it. -/
theorem failsWith_of_refused {limit : Int} {tree : Value} {fault : StructureError}
    (resolved : tree.isResolved = true) (writable : tree.isWritable = true)
    (refused : tree.toCondition limit = .error fault) : FailsWith limit tree fault := by
  -- The fault comes before the first sample.
  have simulates : ∀ nesting category,
      simulate limit nesting category tree = .error (.malformed fault) := by
    intro nesting category
    simp only [simulate, runSamples, refused]
    rfl
  refine ⟨fun document => ?_, simulates, fun limits catalog category same => ?_⟩
  · simp only [evaluate, refused]
  · -- The sentence comes before the samples and is no obstacle to them.
    obtain ⟨sentence, explained⟩ := explanationOf_total limits resolved writable
    simp only [previewRule, explained, same, simulates]
    rfl

/-- Raw data that gives a condition fails only at an index, if its numbers are short. -/
theorem isBounded_of_raw {limit : Int} {tree : Value} {built : Condition}
    (raw : tree.isRaw = true) (writable : tree.isWritable = true)
    (read : tree.toCondition limit = .ok built) : IsBounded limit tree := by
  have described := (toCondition_iff (Value.ne_condition raw)).mp read
  obtain ⟨wellFormed, within⟩ := described.wellFormed raw
  exact isBounded_of_wellFormed (tree.isResolved_of_raw raw) writable read wellFormed within

/-- Raw data that gives a condition succeeds. -/
theorem succeeds_of_raw {limit : Int} {tree : Value} {built : Condition}
    (raw : tree.isRaw = true) (short : HasShortNumbers limit tree)
    (read : tree.toCondition limit = .ok built) : Succeeds limit tree := by
  have described := (toCondition_iff (Value.ne_condition raw)).mp read
  obtain ⟨wellFormed, within⟩ := described.wellFormed raw
  exact succeeds_of_wellFormed (tree.isResolved_of_raw raw) short read wellFormed within

/-- Raw data fails with the fault of reading it, or is read and fails only at an index. -/
theorem fails_or_bounded (limit : Int) {tree : Value} (raw : tree.isRaw = true)
    (writable : tree.isWritable = true) :
    (∃ fault, tree.toCondition limit = .error fault ∧ FailsWith limit tree fault) ∨
      (∃ built, tree.toCondition limit = .ok built) ∧ IsBounded limit tree := by
  cases read : tree.toCondition limit with
  | error fault =>
    have resolved := tree.isResolved_of_raw raw
    exact .inl ⟨fault, rfl, failsWith_of_refused resolved writable read⟩
  | ok built => exact .inr ⟨⟨built, rfl⟩, isBounded_of_raw raw writable read⟩

/-- Where raw data fails at an index, it refers to a path with one that is too long. -/
theorem exists_longIndex {limit : Int} {tree document : Value} (raw : tree.isRaw = true)
    (writable : tree.isWritable = true)
    (failed : evaluate limit tree document = .error (.numeral .tooManyDigits)) :
    ∃ path ∈ referencedFields limit tree, isFollowable path = false := by
  -- Otherwise the tree would succeed on every document.
  by_contra none
  have followable : ∀ path ∈ referencedFields limit tree, isFollowable path = true := by
    intro path referred
    cases long : isFollowable path with
    | true => rfl
    | false => exact absurd ⟨path, referred, long⟩ none
  cases read : tree.toCondition limit with
  | error fault => simp [evaluate, read] at failed
  | ok built =>
    have succeeds := succeeds_of_raw raw ⟨writable, followable⟩ read
    obtain ⟨value, evaluated⟩ := succeeds.evaluates document
    cases evaluated.symm.trans failed

/-- Raw data fails with the fault of reading it, or is read and succeeds. -/
theorem fails_or_succeeds {limit : Int} {tree : Value} (raw : tree.isRaw = true)
    (short : HasShortNumbers limit tree) :
    (∃ fault, tree.toCondition limit = .error fault ∧ FailsWith limit tree fault) ∨
      (∃ built, tree.toCondition limit = .ok built) ∧ Succeeds limit tree := by
  -- Reading the tree settles which of the two it is.
  cases read : tree.toCondition limit with
  | error fault =>
    have resolved := tree.isResolved_of_raw raw
    exact .inl ⟨fault, rfl, failsWith_of_refused resolved short.writable read⟩
  | ok built => exact .inr ⟨⟨built, rfl⟩, succeeds_of_raw raw short read⟩

/-- Raw data either fails with the fault of reading it, or gives a rule that never fails; and
well-formed conditions within the limit never fail. -/
theorem failure_settled_by_tree (limit : Int) :
    (∀ raw : Value, raw.isRaw = true → HasShortNumbers limit raw →
      (∃ fault, raw.toCondition limit = .error fault ∧ FailsWith limit raw fault) ∨
        (∃ built, raw.toCondition limit = .ok built) ∧ Succeeds limit raw) ∧
    (∀ built : Condition, built.isWellFormed = true → HasShortNumbers limit (.condition built) →
      built.depth ≤ limit → Succeeds limit (.condition built)) := by
  refine ⟨fun _ isRaw short => fails_or_succeeds isRaw short, ?_⟩
  intro built wellFormed short within
  have resolved : (Value.condition built).isResolved = true :=
    Condition.isResolved_of_wellFormed wellFormed
  exact succeeds_of_wellFormed resolved short rfl wellFormed within

/-- A number is compared with a text without failing, as soon as the limit covers the operands. -/
theorem failure_settled_by_tree_mixedOperands :
    let raw : Value := .object [(">", .list [.object [("var", .text "order.tip")], .text "ten"])]
    let built : Condition := .comparison .greater (.condition (.field (.text "order.tip")))
      (.condition (.literal (.text "ten")))
    (∃ fault, raw.toCondition 1 = .error fault ∧ FailsWith 1 raw fault) ∧
      Succeeds 2 raw ∧ Succeeds 2 (.condition built) := by
  intro raw built
  -- The only path that is referred to has no index.
  have shallow : HasShortNumbers 1 raw := ⟨rfl, by decide⟩
  have short : HasShortNumbers 2 raw := ⟨rfl, by decide⟩
  refine ⟨?_, ?_, (failure_settled_by_tree 2).2 built rfl ⟨rfl, by decide⟩ (by decide)⟩
  · -- One level covers the comparison, and not its operands.
    rcases (failure_settled_by_tree 1).1 raw rfl shallow with fails | ⟨⟨built, read⟩, _⟩
    · exact fails
    · cases read
  · rcases (failure_settled_by_tree 2).1 raw rfl short with ⟨fault, refused, _⟩ | ⟨_, succeeds⟩
    · cases refused
    · exact succeeds

end DeliveryRules
