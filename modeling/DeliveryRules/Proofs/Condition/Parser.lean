import DeliveryRules.Condition.Parser
import DeliveryRules.Proofs.Condition.Shape
import DeliveryRules.Proofs.Condition.WellFormed
import DeliveryRules.Proofs.Outcome

/-! The grammar of condition documents as a relation, which reading a document decides. -/

namespace DeliveryRules

/-- A value describes a condition within so many levels of nodes. -/
inductive Describes : Int → Value → Condition → Prop
  -- What is already built stands for itself, whatever it holds.
  | built {levels : Int} (condition : Condition) :
    0 < levels → Describes levels (.condition condition) condition
  | literal {levels : Int} {value : Value} :
    0 < levels → value.isScalar = true → Describes levels value (.literal value)
  | field {levels : Int} (path : String) :
    0 < levels → Describes levels (.object [(fieldTag, .text path)]) (.field (.text path))
  | node {levels : Int} {value : Value} {operator : Operator}
    {pairs : List (Value × Condition)} :
    0 < levels → value.application? = some (operator, pairs.map Prod.fst) →
    (∀ pair ∈ pairs, Describes (levels - 1) pair.1 pair.2) →
    Describes levels value (operator.assemble ((pairs.map Prod.snd).map .condition))

/-- More levels describe no fewer conditions. -/
theorem Describes.mono {levels more : Int} {value : Value} {built : Condition}
    (described : Describes levels value built) (enough : levels ≤ more) :
    Describes more value built := by
  -- Every level that is used up by the description is used up of the larger number too.
  induction described generalizing more with
  | built condition positive => exact .built condition (by omega)
  | literal positive scalar => exact .literal (by omega) scalar
  | field path positive => exact .field path (by omega)
  | node positive applied each ih =>
    exact .node (by omega) applied fun pair member => ih pair member (by omega)

section Nodes

variable {limit depth : Int} {location : Location} {operator : Operator}

/-- A node that is too deep is reported before anything else about it. -/
theorem parseAt_tooDeep {value : Value} (deep : limit < depth) :
    parseAt limit location depth value = .error (.tooDeep limit location) := by
  rw [parseAt.eq_def, if_pos deep]

/-- Nothing is read below the limit. -/
theorem depth_le_of_parseAt {value : Value} {built : Condition}
    (read : parseAt limit location depth value = .ok built) : depth ≤ limit := by
  -- Beyond the limit there is a fault, whatever the value is.
  by_contra deep
  rw [parseAt_tooDeep (by omega)] at read
  cases read

/-- What is already built is taken as it is. -/
theorem parseAt_built {condition : Condition} (within : depth ≤ limit) :
    parseAt limit location depth (.condition condition) = .ok condition := by
  rw [parseAt.eq_def, if_neg (by omega)]

/-- A scalar is a literal. -/
theorem parseAt_scalar {value : Value} (within : depth ≤ limit) (scalar : value.isScalar = true) :
    parseAt limit location depth value = .ok (.literal value) := by
  rw [parseAt.eq_def, if_neg (by omega)]
  cases value <;> simp_all [Value.isScalar]

/-- A text under the key of references is a path. -/
theorem parseAt_reference {path : String} (within : depth ≤ limit) :
    parseAt limit location depth (.object [(fieldTag, .text path)]) =
      .ok (.field (.text path)) := by
  rw [parseAt.eq_def, if_neg (by omega)]
  simp

/-- An admitted number of arguments is read one by one, and the operator put over them. -/
theorem parseArguments_admitted {items : List Value}
    (admitted : operator.admits items.length = true) :
    parseArguments limit location depth operator items =
      operator.assemble <$> parseOperands limit location depth operator 0 items := by
  -- Both sides read the same arguments in the same order, whatever the operator.
  cases Operator.arranged admitted <;>
    simp [parseArguments, parseOperands, Operator.assemble, map_eq_pure_bind, -bind_pure_comp] <;>
    rfl

/-- Any other number of arguments is a misuse of the operator. -/
theorem parseArguments_refused {items : List Value}
    (refused : operator.admits items.length = false) :
    parseArguments limit location depth operator items =
      .error (operator.misuse (location.under operator.tag) (some items.length)) := by
  -- The three arrangements that are read are all admitted ones.
  unfold parseArguments
  split
  · simp [Operator.admits] at refused
  · simp [Operator.admits] at refused
  · simp [Operator.admits] at refused
  · rfl

/-- An application is read argument by argument, and its operator put over the operands. -/
theorem parseAt_application {value : Value} {items : List Value} (within : depth ≤ limit)
    (applied : value.application? = some (operator, items)) :
    parseAt limit location depth value =
      operator.assemble <$> parseOperands limit location depth operator 0 items := by
  -- The reader finds the operator by its tag, and takes lists and tuples alike.
  obtain ⟨argument, rfl, listed, admitted⟩ := Value.application?_eq_some.mp applied
  rw [← parseArguments_admitted admitted]
  rcases Value.items?_eq_some.mp listed with rfl | rfl <;>
    simp [parseAt, Int.not_lt.mpr within]

/-- Arguments that are all read give the operand of each, in order. -/
theorem parseOperands_ok {items operands : List Value} {index : Nat}
    (read : parseOperands limit location depth operator index items = .ok operands) :
    ∃ pairs : List (Value × Condition), items = pairs.map Prod.fst ∧
      operands = (pairs.map Prod.snd).map .condition ∧
      ∀ pair ∈ pairs, ∃ place, parseAt limit place (depth + 1) pair.1 = .ok pair.2 := by
  -- Every argument is paired with what it was read as, wherever it stands.
  induction items generalizing operands index with
  | nil =>
    simp only [parseOperands, Except.ok.injEq] at read
    exact ⟨[], rfl, read.symm, by simp⟩
  | cons item rest ih =>
    rw [parseOperands] at read
    obtain ⟨first, head, read⟩ := bind_eq_ok.mp read
    obtain ⟨others, tail, read⟩ := bind_eq_ok.mp read
    obtain ⟨pairs, rfl, rfl, each⟩ := ih tail
    refine ⟨(item, first) :: pairs, rfl, (Except.ok.inj read).symm, ?_⟩
    rintro pair (_ | ⟨_, member⟩)
    · exact ⟨_, head⟩
    · exact each pair member

/-- Arguments that can each be read at any place are read together. -/
theorem parseOperands_of_each {pairs : List (Value × Condition)} {index : Nat}
    (each : ∀ pair ∈ pairs, ∀ place, parseAt limit place (depth + 1) pair.1 = .ok pair.2) :
    parseOperands limit location depth operator index (pairs.map Prod.fst) =
      .ok ((pairs.map Prod.snd).map .condition) := by
  -- The index only counts for the places, at all of which the arguments can be read.
  induction pairs generalizing index with
  | nil => rfl
  | cons pair rest ih =>
    have head := each pair (by simp)
    have tail : parseOperands limit location depth operator (index + 1) (rest.map Prod.fst) =
        .ok ((rest.map Prod.snd).map .condition) :=
      ih fun other member => each other (by simp [member])
    simp [parseOperands, head, tail, Bind.bind, Except.bind, Pure.pure, Except.pure]

/-- A misuse of an operator is a fault of shape that can be told, and is reported at its place. -/
theorem Operator.misuse_place (operator : Operator) (place : Location) (found : Option Nat) :
    (operator.misuse place found).isDepth = false ∧
      (operator.misuse place found).details.lookup "node" = some (.text place.text) ∧
      (operator.misuse place found).isTellable = true := by
  -- Each kind of operator has one message of its own for misuse.
  cases operator <;> exact ⟨rfl, rfl, rfl⟩

/-- An operator over anything but its number of arguments is misused, at its own key. -/
theorem parseAt_misused (location : Location) {argument : Value} (within : depth ≤ limit)
    (unapplied : (Value.object [(operator.tag, argument)]).application? = none) :
    ∃ found, parseAt limit location depth (.object [(operator.tag, argument)]) =
      .error (operator.misuse (location.under operator.tag) found) := by
  have shallow : ¬limit < depth := by omega
  cases listed : argument.items? with
  | some items =>
    -- A list and a tuple of the wrong length are refused alike.
    have refused : operator.admits items.length = false := by
      simpa [Value.application?, listed] using unapplied
    have told : parseArguments limit location depth operator items =
        .error (operator.misuse (location.under operator.tag) (some items.length)) :=
      parseArguments_refused refused
    refine ⟨some items.length, ?_⟩
    rw [← told]
    rcases Value.items?_eq_some.mp listed with rfl | rfl <;> simp [parseAt, shallow]
  | none =>
    refine ⟨none, ?_⟩
    cases argument with
    | list items => simp [Value.items?] at listed
    | tuple items => simp [Value.items?] at listed
    | _ => simp [parseAt, shallow]

/--
A node of no good shape has a fault of its own, reported at the node or at its operator key.

It cannot be told if it is that a path is no text but holds a number that is too long to be shown.
-/
theorem parseAt_misshapen (location : Location) {value : Value} (within : depth ≤ limit)
    (misshapen : value.isWellShaped = false) (unbuilt : ∀ condition, value ≠ .condition condition) :
    ∃ fault, parseAt limit location depth value = .error fault ∧ fault.isDepth = false ∧
      fault.details.lookup "node" = some (.text (value.faultPlace location).text) ∧
      fault.isTellable = value.faultIsTellable := by
  -- Under the key of an operator the fault is a misuse, and its place is the key.
  by_cases keyed : ∃ (operator : Operator) (argument : Value),
      value = .object [(operator.tag, argument)]
  · obtain ⟨operator, argument, rfl⟩ := keyed
    have unapplied : (Value.object [(operator.tag, argument)]).application? = none := by
      simp only [Value.isWellShaped, Bool.or_eq_false_iff] at misshapen
      simpa using misshapen.2
    have key : (Value.object [(operator.tag, argument)]).faultPlace location =
        location.under operator.tag := by
      simp [Value.faultPlace, Value.isKnownKey]
    have tellable : (Value.object [(operator.tag, argument)]).faultIsTellable = true := by
      simp [Value.faultIsTellable]
    obtain ⟨found, refused⟩ := parseAt_misused location within unapplied
    rw [key, tellable]
    exact ⟨_, refused, operator.misuse_place _ _⟩
  -- Without an operator key the shapes are told apart as they are read.
  rw [parseAt.eq_def, if_neg (by omega)]
  split
  · rename_i built
    exact absurd rfl (unbuilt built)
  · exact ⟨_, rfl, rfl, rfl, rfl⟩
  · exact ⟨_, rfl, rfl, rfl, rfl⟩
  · exact ⟨_, rfl, rfl, rfl, rfl⟩
  · rename_i tag argument
    split
    · -- Under the tag of a reference only a text is accepted.
      rename_i named
      subst named
      split
      · simp [Value.isWellShaped, Value.isReference] at misshapen
      · exact ⟨_, rfl, rfl, rfl, rfl⟩
    · rename_i other
      cases found : Operator.ofTag? tag with
      | none =>
        have unknown : Value.isKnownKey tag = false := by simp [Value.isKnownKey, found, other]
        have tellable : (Value.object [(tag, argument)]).faultIsTellable = true := by
          simp [Value.faultIsTellable, other]
        exact ⟨_, rfl, rfl, by simp [Value.faultPlace, unknown]; rfl, tellable.symm⟩
      | some operator =>
        exact absurd ⟨operator, argument, by rw [Operator.ofTag?_eq_some.mp found]⟩ keyed
  · -- With no key or several of them the fault lies in the object, and no key is at fault.
    rename_i members many
    refine ⟨_, rfl, rfl, ?_, ?_⟩
    · unfold Value.faultPlace
      split
      · rename_i tag argument single
        exact (many tag argument (Value.object.inj single)).elim
      · rfl
    · unfold Value.faultIsTellable
      split
      · rename_i tag argument single
        exact (many tag argument (Value.object.inj single)).elim
      · rfl
  · cases value <;> simp_all [Value.isWellShaped, Value.isScalar]

end Nodes

/-- What is read at a depth is described within the levels left from there. -/
theorem describes_of_parseAt {limit depth : Int} {location : Location} {value : Value}
    {built : Condition} (read : parseAt limit location depth value = .ok built) :
    Describes (limit - depth + 1) value built := by
  -- The levels left shrink by one from a node to its arguments, as the depth grows.
  induction value using Value.document_induction generalizing depth location built with
  | leaf value unapplied =>
    have within : depth ≤ limit := depth_le_of_parseAt read
    by_cases assembled : ∃ condition, value = .condition condition
    · obtain ⟨condition, rfl⟩ := assembled
      cases (parseAt_built within).symm.trans read
      exact .built built (by omega)
    rcases Value.leaf_cases unapplied with scalar | ⟨path, rfl⟩ | misshapen
    · cases (parseAt_scalar within scalar).symm.trans read
      exact .literal (by omega) scalar
    · cases (parseAt_reference within).symm.trans read
      exact .field path (by omega)
    · -- Nothing else is read, since it has none of the shapes of a node.
      obtain ⟨fault, refused, _⟩ :=
        parseAt_misshapen location within misshapen (not_exists.mp assembled)
      cases refused.symm.trans read
  | node value operator items applied ih =>
    have within : depth ≤ limit := depth_le_of_parseAt read
    rw [parseAt_application within applied] at read
    obtain ⟨operands, each, rfl⟩ := map_eq_ok.mp read
    obtain ⟨pairs, rfl, rfl, parts⟩ := parseOperands_ok each
    refine .node (by omega) applied fun pair member => ?_
    obtain ⟨place, read⟩ := parts pair member
    have described := ih pair.1 (List.mem_map_of_mem member) read
    exact described.mono (by omega)

/-- What is described within the levels left from a depth is read there, at any place. -/
theorem Describes.parseAt {limit depth levels : Int} {value : Value} {built : Condition}
    (described : Describes levels value built) (left : levels ≤ limit - depth + 1) :
    ∀ location, parseAt limit location depth value = .ok built := by
  -- The induction follows the grammar, and the place is only told when something is wrong.
  induction described generalizing depth with
  | built condition positive => exact fun location => parseAt_built (by omega)
  | literal positive scalar => exact fun location => parseAt_scalar (by omega) scalar
  | field path positive => exact fun location => parseAt_reference (by omega)
  | node positive applied each ih =>
    intro location
    rw [parseAt_application (by omega) applied,
      parseOperands_of_each fun pair member => ih pair member (by omega)]
    rfl

/-- A document that is not built already is read at the root of its tree. -/
theorem toCondition_eq_parseAt {limit : Int} {value : Value}
    (unbuilt : ∀ condition, value ≠ .condition condition) :
    value.toCondition limit = parseAt limit .root 1 value := by
  cases value with
  | condition condition => exact absurd rfl (unbuilt condition)
  | _ => rfl

/-- A document that is not built already is read exactly as the conditions it describes. -/
theorem toCondition_iff {limit : Int} {value : Value} {built : Condition}
    (unbuilt : ∀ condition, value ≠ .condition condition) :
    value.toCondition limit = .ok built ↔ Describes limit value built := by
  -- The root is at depth one, which leaves as many levels as the limit has.
  rw [toCondition_eq_parseAt unbuilt]
  constructor
  · intro read
    exact (describes_of_parseAt read).mono (by omega)
  · intro described
    exact described.parseAt (by omega) .root

/-- What a document is read as is described by it, or it is the document itself. -/
theorem describes_of_toCondition {limit : Int} {value : Value} {built : Condition}
    (read : value.toCondition limit = .ok built) :
    value = .condition built ∨ Describes limit value built := by
  -- What is built already is handed back without being looked at.
  by_cases assembled : ∃ condition, value = .condition condition
  · obtain ⟨condition, rfl⟩ := assembled
    cases read
    exact .inl rfl
  · exact .inr ((toCondition_iff (not_exists.mp assembled)).mp read)

section Telling

variable {limit depth : Int} {location : Location} {fault : StructureError}

/-- Arguments that are not read have one among them that is not. -/
theorem parseOperands_error {operator : Operator} {items : List Value} {index : Nat}
    (refused : parseOperands limit location depth operator index items = .error fault) :
    ∃ item ∈ items, ∃ place, parseAt limit place (depth + 1) item = .error fault := by
  -- The arguments are read in order, and the first that fails ends the reading.
  induction items generalizing index with
  | nil => cases refused
  | cons item rest ih =>
    rw [parseOperands] at refused
    rcases bind_eq_error.mp refused with here | ⟨operand, -, refused⟩
    · exact ⟨item, List.mem_cons_self, _, here⟩
    rcases bind_eq_error.mp refused with later | ⟨operands, -, refused⟩
    · obtain ⟨other, listed, place, told⟩ := ih later
      exact ⟨other, List.mem_cons_of_mem item listed, place, told⟩
    · cases refused

/-- That a node is too deep can be told unless the limit is too long to be written. -/
theorem isTellable_of_tooDeep {value : Value} (deep : limit < depth)
    (refused : parseAt limit location depth value = .error fault) :
    fault.isTellable = true ∨ isShort limit = false ∧ ∃ place, fault = .tooDeep limit place := by
  -- The message shows nothing but the limit.
  rw [parseAt_tooDeep deep] at refused
  cases refused
  cases short : isShort limit with
  | true => exact .inl short
  | false => exact .inr ⟨rfl, _, rfl⟩

/-- Of a document whose numbers are short, every fault can be told but for a limit that is long. -/
theorem isTellable_of_parseAt {value : Value} (raw : value.isRaw = true)
    (writable : value.isWritable = true)
    (refused : parseAt limit location depth value = .error fault) :
    fault.isTellable = true ∨ isShort limit = false ∧ ∃ place, fault = .tooDeep limit place := by
  -- The fault is that of one node, and what it shows is a part of that node.
  induction value using Value.document_induction generalizing location depth with
  | leaf value unapplied =>
    by_cases deep : limit < depth
    · exact isTellable_of_tooDeep deep refused
    have within := Int.not_lt.mp deep
    rcases Value.leaf_cases unapplied with scalar | ⟨path, rfl⟩ | misshapen
    · cases (parseAt_scalar within scalar).symm.trans refused
    · cases (parseAt_reference within).symm.trans refused
    -- Of a misshapen node nothing longer is shown than the node holds.
    · obtain ⟨other, found, _, _, told⟩ :=
        parseAt_misshapen location within misshapen (Value.ne_condition raw)
      cases found.symm.trans refused
      refine .inl (told.trans ?_)
      unfold Value.faultIsTellable
      split
      · rw [Value.isPartwise_isWritable.object] at writable
        simp_all
      · rfl
  | node value operator items applied ih =>
    by_cases deep : limit < depth
    · exact isTellable_of_tooDeep deep refused
    · rw [parseAt_application (Int.not_lt.mp deep) applied, map_eq_error] at refused
      obtain ⟨item, listed, place, told⟩ := parseOperands_error refused
      exact ih item listed ((Value.isRaw_application applied).mp raw item listed)
        ((Value.isPartwise_isWritable.application applied).mp writable item listed) told

/-- Of a document that gives no condition the fault can be told, but for a limit that is long. -/
theorem isTellable_of_toCondition {value : Value} (raw : value.isRaw = true)
    (writable : value.isWritable = true) (refused : value.toCondition limit = .error fault) :
    fault.isTellable = true ∨ isShort limit = false ∧ ∃ place, fault = .tooDeep limit place := by
  rw [toCondition_eq_parseAt (Value.ne_condition raw)] at refused
  exact isTellable_of_parseAt raw writable refused

end Telling

end DeliveryRules
