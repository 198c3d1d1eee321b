import DeliveryRules.CommandLine.Outcome
import DeliveryRules.Proofs.Condition.Parser
import DeliveryRules.Proofs.Text.Quoted

/-! What a command complains about is told on one line, whatever its inputs hold. -/

namespace DeliveryRules

/-- An operator is named by a short tag. -/
theorem Operator.isOneLine_tag (operator : Operator) : IsOneLine operator.tag := by
  -- There are only so many operators, each with a tag of its own.
  rcases operator with comparator | connective | _
  · cases comparator <;> exact IsOneLine.ofList (by decide)
  · cases connective <;> exact IsOneLine.ofList (by decide)
  · exact IsOneLine.ofList (by decide)

/-- A misuse of an operator names the operator and counts its arguments. -/
theorem Operator.isOneLine_misuse (operator : Operator) (place : Location) (found : Option Nat) :
    IsOneLine (operator.misuse place found).message := by
  -- The message is put together from the tag, a number and what was found in place of it.
  have tagged : IsOneLine ("Operator '" ++ operator.tag) :=
    IsOneLine.append (.ofList (by decide)) operator.isOneLine_tag
  have given : IsOneLine ((found.map numeral).getD "non-list") := by
    cases found with
    | none => exact IsOneLine.ofList (by decide)
    | some count => exact isOneLine_numeral count
  -- What comes between the tag and the number of arguments is the same for every arity.
  have counted (arity : Nat) : IsOneLine ("Operator '" ++ operator.tag ++ "' requires exactly " ++
      numeral arity ++ " arguments, got ") :=
    ((tagged.append (.ofList (by decide))).append (isOneLine_numeral arity)).append
      (.ofList (by decide))
  cases operator with
  | compare comparator => exact (counted 2).append given
  | branch => exact (counted 3).append given
  | join connective => exact tagged.append (.ofList (by decide))

/-- The name of a kind of value is a word. -/
theorem Value.isOneLine_kindName (value : Value) : IsOneLine value.kindName := by
  fun_cases Value.kindName value <;> exact IsOneLine.ofList (by decide)

section Message

variable {limit depth : Int} {location : Location} {fault : StructureError}

/-- A node that is too deep is refused with the limit. -/
theorem isOneLine_of_tooDeep {value : Value} (deep : limit < depth)
    (refused : parseAt limit location depth value = .error fault) : IsOneLine fault.message := by
  -- The message shows the limit and nothing of the value.
  rw [parseAt_tooDeep deep] at refused
  cases refused
  exact IsOneLine.append (.ofList (by decide)) (isOneLine_signedNumeral limit)

/-- A node that applies no operator is refused with its kind, a count or its key in quotes. -/
theorem isOneLine_of_leaf {value : Value} (within : depth ≤ limit)
    (unapplied : value.application? = none)
    (refused : parseAt limit location depth value = .error fault) : IsOneLine fault.message := by
  -- A node that misuses an operator is told apart first, as its message names the operator.
  by_cases keyed : ∃ (operator : Operator) (argument : Value),
      value = .object [(operator.tag, argument)]
  · obtain ⟨operator, argument, rfl⟩ := keyed
    obtain ⟨found, told⟩ := parseAt_misused location within unapplied
    rw [told] at refused
    cases refused
    exact operator.isOneLine_misuse _ _
  -- Without an operator key the shapes are told apart as they are read.
  rw [parseAt.eq_def, if_neg (Int.not_lt.mpr within)] at refused
  split at refused
  · cases refused
  · cases refused
    exact IsOneLine.ofList (by decide)
  · cases refused
    exact IsOneLine.ofList (by decide)
  · cases refused
    exact IsOneLine.append (.ofList (by decide)) (Value.isOneLine_kindName _)
  · -- A single key is a reference without a text for its path, or no tag of an operator.
    rename_i tag argument
    split at refused
    · split at refused <;> cases refused
      exact IsOneLine.ofList (by decide)
    · cases found : Operator.ofTag? tag with
      | none =>
        rw [found] at refused
        cases refused
        exact IsOneLine.append (.ofList (by decide)) (isOneLine_quoted tag)
      | some operator =>
        exact absurd ⟨operator, argument, by rw [Operator.ofTag?_eq_some.mp found]⟩ keyed
  · cases refused
    exact IsOneLine.append (.ofList (by decide)) (isOneLine_numeral _)
  · cases refused

/-- A document is refused on one line, wherever the fault lies. -/
theorem isOneLine_of_parseAt {value : Value}
    (refused : parseAt limit location depth value = .error fault) : IsOneLine fault.message := by
  -- The induction is on what applies an operator, for any place and depth.
  induction value using Value.document_induction generalizing location depth with
  | leaf value unapplied =>
    by_cases deep : limit < depth
    · exact isOneLine_of_tooDeep deep refused
    · exact isOneLine_of_leaf (Int.not_lt.mp deep) unapplied refused
  | node value operator items applied ih =>
    by_cases deep : limit < depth
    · exact isOneLine_of_tooDeep deep refused
    -- The fault of an application within the limit is that of one of its arguments.
    · rw [parseAt_application (Int.not_lt.mp deep) applied, map_eq_error] at refused
      obtain ⟨item, listed, place, told⟩ := parseOperands_error refused
      exact ih item listed told

end Message

namespace CommandLine

/-- An input that cannot be used is named in quotes, if it is named at all. -/
theorem InputError.isOneLine_text (reason : InputError) : IsOneLine reason.text := by
  -- Every reason that names a file names it in quotes.
  cases reason with
  | unreadable reason =>
    cases reason <;> exact IsOneLine.append (.ofList (by decide)) (isOneLine_quoted _)
  | undecoded reason => exact IsOneLine.ofList (by decide)

/-- A report of a fault is its code in brackets and its message. -/
theorem isOneLine_report {fault : StructureError} (tellable : fault.isTellable = true)
    (message : IsOneLine fault.message) :
    IsOneLine (CommandError.rule (.malformed fault)).text := by
  -- The code and its brackets are fixed for a kind of report.
  have coded : IsOneLine fault.reportKind.code := by
    cases fault.reportKind <;> exact IsOneLine.ofList (by decide)
  have bracketed : IsOneLine ("[" ++ fault.reportKind.code ++ "] ") :=
    (IsOneLine.append (.ofList (by decide)) coded).append (.ofList (by decide))
  have reported : (CommandError.rule (.malformed fault)).text = fault.report.text := by
    simp only [CommandError.text, RuleError.report?, StructureError.report?, tellable, if_true]
    rfl
  -- The report of a fault is of no category, so nothing comes after the message.
  rw [reported]
  exact (bracketed.append message).append (.ofList (by decide) : IsOneLine "")

end CommandLine

end DeliveryRules
