import DeliveryRules.Proofs.Rule.Explanation
import DeliveryRules.Proofs.Rule.Reference
import DeliveryRules.Proofs.Rule.Rendering
import DeliveryRules.Rule.Validation

/-! Nothing that only reads a rule tells its document from the condition the document describes. -/

namespace DeliveryRules

section Sentences

variable {limit nesting depth : Int}

/-- A scalar is shown as it would be written, and so is a literal. -/
theorem explainAt_literal {value : Value} (scalar : value.isScalar = true) :
    explainAt limit nesting depth value =
      explainAt limit nesting depth (.condition (.literal value)) := by
  -- Below the limit both are shown as JSON, and above it as they are written.
  by_cases deep : limit < depth
  · rw [explainAt_tooDeep deep, explainAt_tooDeep deep, renderRaw, renderRaw,
      bounded_literal nesting scalar]
  · cases value with
    | null | bool _ | int _ | float _ | text _ =>
      simp [explainAt, deep, Value.isScalar]
    | _ => cases scalar

end Sentences

/-- A document and the condition it describes have one sentence, at every depth. -/
theorem Describes.explainAt_eq {within : Int} {value : Value} {built : Condition}
    (described : Describes within value built) (limit nesting depth : Int) :
    explainAt limit nesting depth value = explainAt limit nesting depth (.condition built) := by
  -- The depth is generalised, since an argument is one level further down.
  induction described generalizing depth with
  | built condition positive => rfl
  | literal positive scalar => exact explainAt_literal scalar
  | field path positive =>
    by_cases deep : limit < depth
    · have shown := (Describes.field path positive).renderRaw_eq nesting
      rw [explainAt_tooDeep deep, explainAt_tooDeep deep, shown]
    · simp [explainAt, deep]
  | @node within value operator pairs positive applied each ih =>
    have admitted := Value.admits_of_application applied
    by_cases deep : limit < depth
    · -- Below the limit both forms are shown as JSON, which is the same for both.
      have shown := (Describes.node positive applied each).renderRaw_eq nesting
      rw [explainAt_tooDeep deep, explainAt_tooDeep deep, shown]
    · rw [explainAt_application deep applied, explainAt_assemble deep (by simpa using admitted),
        explainItems_eq_mapM, explainItems_eq_mapM,
        mapM_conditions_congr fun pair member => ih pair member (depth + 1)]

/--
A document that is read under some limit cannot be told from the condition it is read as.

Whatever the limits are, both refer to the same fields, have the same sentence, are shown as the
same JSON and get the same verdict, with parts that were built before in any places. There is a
sentence unless one of those parts compares by an operator that was never resolved, or holds a
number that is too long.
-/
theorem readers_agree {within : Int} {document : Value} {built : Condition}
    (read : document.toCondition within = .ok built) :
    (∀ limit, referencedFields limit document = referencedFields limit (.condition built)) ∧
      (∀ limit nesting, explain limit nesting document = explain limit nesting (.condition built)) ∧
      (document.isResolved = true → document.isWritable = true → ∀ limit nesting,
        ∃ sentence, explain limit nesting document = .ok sentence) ∧
      (∀ nesting, renderRaw nesting document = renderRaw nesting (.condition built)) ∧
      ∀ limit catalog category,
        validate limit catalog category document =
          validate limit catalog category (.condition built) := by
  -- A sentence does not depend on the form, so it is asked of the document alone.
  have worded : document.isResolved = true → document.isWritable = true → ∀ limit nesting,
      ∃ sentence, explain limit nesting document = .ok sentence :=
    fun resolved writable limit nesting =>
      explainAt_total limit nesting 1 document resolved writable
  -- What was built before is read as itself.
  rcases describes_of_toCondition read with rfl | described
  · exact ⟨fun _ => rfl, fun _ _ => rfl, worded, fun _ => rfl, fun _ _ _ => rfl⟩
  have references : ∀ limit,
      referencedFields limit document = referencedFields limit (.condition built) :=
    fun limit => described.collectFields_eq (2 * limit)
  refine ⟨references, fun limit nesting => described.explainAt_eq limit nesting 1, worded,
    described.renderRaw_eq, fun limit catalog category => ?_⟩
  simp only [validate, references limit]

/-- A rule over a tuple that is half built already is shown the same where one level is left. -/
theorem readers_agree_halfBuilt :
    let amount : Condition := .comparison .greater (.condition (.field (.text "order.total")))
      (.condition (.literal (.int 50)))
    let document : Value := .object [("or", .tuple [.condition amount,
      .object [("==", .list [.object [("var", .text "order.city")], .text "Oslo"])]])]
    let built : Condition := .junction .any [.condition amount, .condition
      (.comparison .equal (.condition (.field (.text "order.city")))
        (.condition (.literal (.text "Oslo"))))]
    document.toCondition 3 = .ok built ∧
      referencedFields 3 document = ["order.total", "order.city"] ∧
      referencedFields 3 (.condition built) = ["order.total", "order.city"] ∧
      referencedFields 1 document = referencedFields 1 (.condition built) ∧
      explain 1 3 document = explain 1 3 (.condition built) ∧
      (∃ sentence, explain 1 3 document = .ok sentence) ∧
      renderRaw 3 document = renderRaw 3 (.condition built) := by
  intro amount document built
  -- The built part is taken over as it is.
  have read : document.toCondition 3 = .ok built := rfl
  obtain ⟨references, sentences, worded, shown, _⟩ := readers_agree read
  exact ⟨read, by decide, by decide, references 1, sentences 1 3, worded rfl rfl 1 3, shown 3⟩

end DeliveryRules
