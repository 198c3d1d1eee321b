import DeliveryRules.Proofs.Outcome
import DeliveryRules.Proofs.Rule.Operation
import DeliveryRules.Proofs.Rule.Rendering
import DeliveryRules.Rule.Explanation

/-! Every tree has a sentence, unless it compares by an operator that was never resolved. -/

namespace DeliveryRules

/-- The sentence of an operator over the sentences of its operands. -/
def Operator.sentence : Operator → List String → String
  | .compare comparator, operands =>
    comparisonSentence comparator (operands.getD 0 "") (operands.getD 1 "")
  | .join connective, operands => connective.joiner.intercalate operands
  | .branch, operands =>
    branchSentence (operands.getD 0 "") (operands.getD 1 "") (operands.getD 2 "")

section Sentences

variable {limit nesting depth : Int}

/-- What is too deep to be put into words is shown as JSON. -/
theorem explainAt_tooDeep {tree : Value} (deep : limit < depth) :
    explainAt limit nesting depth tree = shown (renderRaw nesting tree) := by
  rw [explainAt.eq_def, if_pos deep]

/-- Items are put into words one by one. -/
theorem explainItems_eq_mapM (items : List Value) :
    explainItems limit nesting depth items = items.mapM (explainAt limit nesting depth) := by
  induction items with
  | nil => rfl
  | cons item rest ih =>
    rw [explainItems, ih, List.mapM_cons]

/-- Arguments in an admitted number are put into words one by one. -/
theorem explainArguments_admitted {operator : Operator} {items : List Value} (tree : Value)
    (admitted : operator.admits items.length = true) :
    explainArguments limit nesting depth tree (some operator) items =
      operator.sentence <$> explainItems limit nesting (depth + 1) items := by
  -- Both sides ask for the same sentences in the same order, whatever the operator.
  cases Operator.arranged admitted <;>
    simp only [explainArguments, explainItems_eq_mapM, List.mapM_cons, List.mapM_nil, pure_bind,
      bind_assoc, map_bind, map_pure, Operator.sentence, List.getD_cons_zero, List.getD_cons_succ]

/-- An application is put into words argument by argument. -/
theorem explainAt_application {value : Value} {operator : Operator} {items : List Value}
    (shallow : ¬limit < depth) (applied : value.application? = some (operator, items)) :
    explainAt limit nesting depth value =
      operator.sentence <$> explainItems limit nesting (depth + 1) items := by
  obtain ⟨argument, rfl, listed, admitted⟩ := Value.application?_eq_some.mp applied
  -- The arguments stand in a list or in a tuple, which makes no difference.
  rcases Value.items?_eq_some.mp listed with rfl | rfl <;>
    simp only [explainAt, if_neg shallow, Operator.ofTag?_tag, explainArguments_admitted _ admitted]

/-- A built node is put into words in the same way. -/
theorem explainAt_assemble {operator : Operator} {operands : List Value}
    (shallow : ¬limit < depth) (admitted : operator.admits operands.length = true) :
    explainAt limit nesting depth (.condition (operator.assemble operands)) =
      operator.sentence <$> explainItems limit nesting (depth + 1) operands := by
  cases Operator.arranged admitted <;>
    simp only [Operator.assemble, explainAt, if_neg shallow, List.isEmpty_cons, Bool.false_eq_true,
      if_false, explainItems_eq_mapM, List.mapM_cons, List.mapM_nil, pure_bind, bind_assoc,
      map_bind, map_pure, Operator.sentence, List.getD_cons_zero, List.getD_cons_succ]

/-- Arguments in a number that their operator does not take are shown as JSON. -/
theorem explainArguments_refused {operator : Operator} {items : List Value} (tree : Value)
    (refused : operator.admits items.length = false) :
    explainArguments limit nesting depth tree (some operator) items =
      shown (renderRaw nesting tree) := by
  -- Each operator is matched with the number of arguments that it takes.
  unfold explainArguments
  split <;> simp_all [Operator.admits]

/-- What is under a key that does not apply it as an operator is shown as JSON. -/
theorem explainArguments_unapplied {tag : String} {argument : Value} {items : List Value}
    (tree : Value) (listed : argument.items? = some items)
    (unapplied : Value.application? (.object [(tag, argument)]) = none) :
    explainArguments limit nesting depth tree (Operator.ofTag? tag) items =
      shown (renderRaw nesting tree) := by
  -- The key is no operator at all, or one that refuses so many arguments.
  cases known : Operator.ofTag? tag with
  | none => simp [explainArguments]
  | some operator =>
    apply explainArguments_refused
    simpa [Value.application?, known, listed] using unapplied

/-- A value that is no scalar is written as JSON. -/
theorem renderLiteral_of_not_scalar {value : Value} (compound : value.isScalar = false) :
    renderLiteral nesting value = renderRaw nesting value := by
  cases value with
  | null | bool _ | int _ | float _ | text _ => cases compound
  | _ => rfl

/-- Data that is neither a reference nor an application is shown as it would be written. -/
theorem explainAt_data {value : Value} (shallow : ¬limit < depth)
    (data : ∀ built, value ≠ .condition built) (unapplied : value.application? = none)
    (unnamed : value.isReference = false) :
    explainAt limit nesting depth value = shown (renderLiteral nesting value) := by
  rw [explainAt.eq_def, if_neg shallow]
  split
  all_goals try exact absurd rfl (data _)
  · -- A key over a text is not the key of references.
    rename_i tag path
    have other : tag ≠ fieldTag := by simpa [Value.isReference] using unnamed
    rw [if_neg other]
    rfl
  -- A key over a list or a tuple is no operator, or one that does not take so many arguments.
  · exact explainArguments_unapplied _ rfl unapplied
  · exact explainArguments_unapplied _ rfl unapplied
  · split
    · rfl
    · rename_i compound
      rw [renderLiteral_of_not_scalar (Bool.not_eq_true _ ▸ compound)]

/-- What applies an operator is put into words operand by operand. -/
theorem explainAt_operation {value : Value} {operator : Operator} {items : List Value}
    (shallow : ¬limit < depth) (operated : value.operation? = some (operator, items)) :
    explainAt limit nesting depth value =
      operator.sentence <$> explainItems limit nesting (depth + 1) items := by
  -- A document and a node are taken apart in different ways, and put into words in one.
  rcases Value.operation?_cases operated with applied | ⟨admitted, rfl⟩
  · exact explainAt_application shallow applied
  · exact explainAt_assemble shallow admitted

/-- What applies no operator is a path, or shown, apart from a comparison that names no operator. -/
theorem explainAt_plain {value : Value} (shallow : ¬limit < depth)
    (unoperated : value.operation? = none)
    (checked : ∀ operator left right, value ≠ .condition (.unchecked operator left right)) :
    (∃ path, explainAt limit nesting depth value = .ok path) ∨
      (∃ content, value = .condition (.literal content) ∧
        explainAt limit nesting depth value = shown (renderLiteral nesting content)) ∨
      explainAt limit nesting depth value = shown (renderLiteral nesting value) := by
  -- Nodes that apply nothing are gone through by kind, and data by shape.
  by_cases built : ∃ condition, value = .condition condition
  · obtain ⟨condition, rfl⟩ := built
    cases condition with
    | literal content => exact .inr (.inl ⟨content, rfl, by rw [explainAt, if_neg shallow]⟩)
    | field path =>
      cases path with
      | text path => exact .inl ⟨path, by rw [explainAt, if_neg shallow]⟩
      -- A path that is no text is shown with its node.
      | _ => exact .inr (.inr (by rw [explainAt.eq_def, if_neg shallow]; rfl))
    | comparison comparator left right => cases unoperated
    | unchecked operator left right => exact absurd rfl (checked operator left right)
    | junction connective operands =>
      -- A group without members is shown as JSON.
      have empty : operands.isEmpty = true := by simpa [Value.operation?] using unoperated
      exact .inr (.inr (by rw [explainAt, if_neg shallow, if_pos empty]; rfl))
    | branch test accepted rejected => cases unoperated
  · have data := not_exists.mp built
    by_cases named : value.isReference = true
    · obtain ⟨path, rfl⟩ := Value.isReference_iff.mp named
      exact .inl ⟨path, by simp [explainAt, shallow]⟩
    · have unapplied := Value.operation?_of_data data ▸ unoperated
      exact .inr (.inr (explainAt_data shallow data unapplied (Bool.not_eq_true _ ▸ named)))

end Sentences

/-- The sentence of a tree at a depth has to name an operator that was never resolved. -/
inductive NamesUnchecked (limit : Int) : Int → Value → Prop
  | here {depth : Int} (operator left right : Value) : depth ≤ limit →
    NamesUnchecked limit depth (.condition (.unchecked operator left right))
  | operand {depth : Int} {value operand : Value} {operator : Operator} {items : List Value} :
    depth ≤ limit → value.operation? = some (operator, items) → operand ∈ items →
    NamesUnchecked limit (depth + 1) operand → NamesUnchecked limit depth value

/-- A resolved tree has no operator to name that was never resolved. -/
theorem NamesUnchecked.not_isResolved {limit depth : Int} {tree : Value}
    (names : NamesUnchecked limit depth tree) : ¬tree.isResolved = true := by
  -- The name is handed up from the operand to what applies the operator.
  induction names with
  | here operator left right within => simp [Value.isResolved, Condition.isResolved]
  | operand within operated member _ ih =>
    intro resolved
    exact ih (Value.isHereditary_isResolved.operand operated member resolved)

/-- A tree that has to name an unresolved operator has no sentence. -/
theorem NamesUnchecked.not_ok {limit nesting depth : Int} {tree : Value}
    (names : NamesUnchecked limit depth tree) (sentence : String) :
    explainAt limit nesting depth tree ≠ .ok sentence := by
  -- The sentence is generalised, since the operand would have another one.
  induction names generalizing sentence with
  | here operator left right within =>
    rw [explainAt, if_neg (by omega)]
    exact nofun
  | @operand depth value operand operator items within operated member _ ih =>
    intro spoken
    rw [explainAt_operation (by omega) operated, explainItems_eq_mapM, map_eq_ok] at spoken
    obtain ⟨sentences, each, _⟩ := spoken
    -- A sentence of the whole would be put together from one of the operand.
    obtain ⟨own, found⟩ := mapM_ok_each each member
    exact ih own found

/-- A sentence that stops at an unresolved operator has to name one. -/
theorem namesUnchecked_of_error {limit nesting depth : Int} {tree : Value}
    (stopped : explainAt limit nesting depth tree = .error .uncheckedOperator) :
    NamesUnchecked limit depth tree := by
  -- Showing a value fails for the length of a number only.
  have unshown : ∀ text, shown text ≠ .error .uncheckedOperator := by
    intro text
    cases text <;> exact nofun
  induction tree using Value.operation_induction generalizing depth with
  | leaf value unoperated =>
    by_contra unnamed
    by_cases deep : limit < depth
    · rw [explainAt_tooDeep deep] at stopped
      exact unshown _ stopped
    have checked : ∀ operator left right,
        value ≠ .condition (.unchecked operator left right) := by
      rintro operator left right rfl
      exact unnamed (.here operator left right (by omega))
    -- Of all that applies no operator, only the comparison without one is not put into words.
    rcases @explainAt_plain _ nesting _ _ deep unoperated checked with
      ⟨path, named⟩ | ⟨content, rfl, literal⟩ | other
    · rw [named] at stopped
      cases stopped
    · exact unshown _ (literal.symm.trans stopped)
    · exact unshown _ (other.symm.trans stopped)
  | node value operator items operated ih =>
    by_cases deep : limit < depth
    · rw [explainAt_tooDeep deep] at stopped
      exact absurd stopped (unshown _)
    · -- The error comes from one of the operands.
      rw [explainAt_operation deep operated, explainItems_eq_mapM, map_eq_error] at stopped
      obtain ⟨item, member, below⟩ := mapM_error_mem stopped
      exact .operand (by omega) operated member (ih item member below)

/-- A tree whose numbers are short has none that is too long to be shown. -/
theorem explainAt_writable {limit nesting depth : Int} {tree : Value}
    (writable : tree.isWritable = true) (reason : NumeralError) :
    explainAt limit nesting depth tree ≠ .error (.numeral reason) := by
  -- What is shown at all is no error.
  have kept : ∀ {text : Except NumeralError String}, (∃ content, text = .ok content) →
      shown text ≠ .error (.numeral reason) := by
    rintro _ ⟨content, rfl⟩
    exact nofun
  induction tree using Value.operation_induction generalizing depth with
  | leaf value unoperated =>
    by_cases deep : limit < depth
    · rw [explainAt_tooDeep deep]
      exact kept (renderRaw_total writable)
    by_cases unnamed : ∃ operator left right, value = .condition (.unchecked operator left right)
    · -- The comparison without an operator has no sentence for another reason.
      obtain ⟨operator, left, right, rfl⟩ := unnamed
      rw [explainAt, if_neg deep]
      exact nofun
    · have checked : ∀ operator left right,
          value ≠ .condition (.unchecked operator left right) :=
        fun operator left right same => unnamed ⟨operator, left, right, same⟩
      -- What applies no operator is a path, a literal, or shown as a whole.
      rcases @explainAt_plain _ nesting _ _ deep unoperated checked with
        ⟨path, named⟩ | ⟨content, rfl, literal⟩ | other
      · rw [named]
        exact nofun
      · rw [literal]
        exact kept (renderLiteral_total writable)
      · rw [other]
        exact kept (renderLiteral_total writable)
  | node value operator items operated ih =>
    by_cases deep : limit < depth
    · rw [explainAt_tooDeep deep]
      exact kept (renderRaw_total writable)
    · intro stopped
      rw [explainAt_operation deep operated, explainItems_eq_mapM, map_eq_error] at stopped
      obtain ⟨item, member, below⟩ := mapM_error_mem stopped
      exact ih item member (Value.isHereditary_isWritable.operand operated member writable) below

/-- A tree that is resolved and whose numbers are short has a sentence at every depth. -/
theorem explainAt_total (limit nesting depth : Int) (tree : Value)
    (resolved : tree.isResolved = true) (writable : tree.isWritable = true) :
    ∃ sentence, explainAt limit nesting depth tree = .ok sentence := by
  cases outcome : explainAt limit nesting depth tree with
  | ok sentence => exact ⟨sentence, rfl⟩
  | error reason =>
    -- Neither of the two reasons for which there is no sentence is given.
    cases reason with
    | uncheckedOperator => exact absurd resolved (namesUnchecked_of_error outcome).not_isResolved
    | numeral reason => exact absurd outcome (explainAt_writable writable reason)

/--
A tree has a sentence, whatever its shape, unless the sentence has to name an unresolved operator.

Only the nodes that are put into words count: those within the limit, under nodes that have words
themselves. A number that is too long to be shown is the only other obstacle, and trees whose
numbers are short have none; where they hold no unresolved operator either, they have a sentence
under all limits.
-/
theorem explain_isOk_iff (limit nesting : Int) (tree : Value) :
    ((∃ sentence, explain limit nesting tree = .ok sentence) ↔
        ¬NamesUnchecked limit 1 tree ∧
          ∀ reason, explain limit nesting tree ≠ .error (.numeral reason)) ∧
      (tree.isWritable = true → ∀ reason, explain limit nesting tree ≠ .error (.numeral reason)) ∧
      (tree.isResolved = true → tree.isWritable = true →
        ∃ sentence, explain limit nesting tree = .ok sentence) := by
  refine ⟨⟨?_, ?_⟩, explainAt_writable, explainAt_total limit nesting 1 tree⟩
  · -- What has a sentence names no unresolved operator and stops at no number.
    rintro ⟨sentence, spoken⟩
    exact ⟨fun names => names.not_ok sentence spoken, by simp [spoken]⟩
  · -- Both errors are excluded, so there is a sentence.
    rintro ⟨unnamed, short⟩
    cases outcome : explain limit nesting tree with
    | ok sentence => exact ⟨sentence, rfl⟩
    | error reason =>
      cases reason with
      | uncheckedOperator => exact absurd (namesUnchecked_of_error outcome) unnamed
      | numeral reason => exact absurd outcome (short reason)

/-- A comparison of two numbers by a sign that is only a text has no sentence. -/
theorem explain_unspoken :
    let one : Value := .condition (.literal (.int 1))
    let two : Value := .condition (.literal (.int 2))
    ¬∃ sentence, explain 32 32 (.condition (.unchecked (.text ">") one two)) = .ok sentence := by
  rintro one two ⟨sentence, spoken⟩
  cases spoken

end DeliveryRules
