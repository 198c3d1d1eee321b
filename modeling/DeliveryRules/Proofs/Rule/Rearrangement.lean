import DeliveryRules.Proofs.Condition.Occurrence
import DeliveryRules.Proofs.Condition.Wire
import DeliveryRules.Proofs.Path.Following
import DeliveryRules.Proofs.Rule.Evaluation
import DeliveryRules.Proofs.Rule.WiderLimit
import Mathlib.Data.List.Forall2
import Mathlib.Logic.Relation

/-! The members of a group count together, however they are ordered, repeated and nested. -/

namespace DeliveryRules

/-- Two documents of a rule that differ in one group, which may stand anywhere in them. -/
inductive Rearranged : Value → Value → Prop
  | permuted {first second : Value} {connective : Connective} {items others : List Value} :
    first.application? = some (.join connective, items) →
    second.application? = some (.join connective, others) → items.Perm others →
    Rearranged first second
  | repeated {first second item : Value} {connective : Connective} (before after : List Value) :
    first.application? = some (.join connective, before ++ after) →
    second.application? = some (.join connective, before ++ item :: after) →
    item ∈ before ++ after → Rearranged first second
  -- A group that is a member of a group of its kind gives way to its own members.
  | merged {first second group : Value} {connective : Connective}
    (before inner after : List Value) :
    first.application? = some (.join connective, before ++ group :: after) →
    group.application? = some (.join connective, inner) →
    second.application? = some (.join connective, before ++ inner ++ after) →
    Rearranged first second
  | inside {first second old new : Value} {operator : Operator} (before after : List Value) :
    first.application? = some (operator, before ++ old :: after) →
    second.application? = some (operator, before ++ new :: after) → Rearranged old new →
    Rearranged first second

namespace Connective

variable {connective : Connective} {values others : List Value}

/-- Of some values it only counts which ones there are. -/
theorem combine_congr (same : ∀ value, value ∈ values ↔ value ∈ others) :
    connective.combine values = connective.combine others := by
  -- All and any are about the members of the list.
  rw [Bool.eq_iff_iff]
  cases connective <;> simp [combine, same]

/-- The truth of a group counts in a group of its kind like the values it was made of. -/
theorem combine_merged (before inner after : List Value) :
    connective.combine (before ++ .bool (connective.combine inner) :: after) =
      connective.combine (before ++ inner ++ after) := by
  cases connective <;> simp [combine, Value.isTruthy]

end Connective

/-- Whether a value is the document of a rule that stays within so many levels of nodes, and whose
paths can be followed. -/
def IsRule (levels : Int) (value : Value) : Prop :=
  value.isRaw = true ∧ ∃ built, Describes levels value built ∧ built.IsFollowable

/-- A node of a document has a value where it stands: it is read and evaluated at its depth. -/
def HasValueAt (limit : Int) (document : Value) (depth : Int) (node value : Value) : Prop :=
  ∃ built, (∀ place, parseAt limit place depth node = .ok built) ∧
    evaluateAt limit document depth (.condition built) = .ok value

/-- The value of a rule on a document, null standing for that of a rule that has none. -/
def ruleValue (limit : Int) (document rule : Value) : Value :=
  (evaluate limit rule document).toOption.getD .null

section Rules

variable {limit levels depth : Int} {document value : Value} {operator : Operator}
  {items : List Value}

/-- An application describes a condition over what its arguments describe. -/
theorem Describes.of_application {built : Condition} (described : Describes levels value built)
    (applied : value.application? = some (operator, items)) :
    0 < levels ∧ ∃ pairs : List (Value × Condition), items = pairs.map Prod.fst ∧
      built = operator.assemble ((pairs.map Prod.snd).map .condition) ∧
      ∀ pair ∈ pairs, Describes (levels - 1) pair.1 pair.2 := by
  -- Of the four ways to be described only one is an application.
  cases described with
  | built condition positive => cases applied
  | literal positive scalar => cases value <;> first | cases applied | cases scalar
  | field path positive => cases applied
  | node positive applied' each =>
    cases applied'.symm.trans applied
    exact ⟨positive, _, rfl, rfl, each⟩

/-- An application is the document of a rule exactly if its arguments are, one level down. -/
theorem isRule_application (applied : value.application? = some (operator, items)) :
    IsRule levels value ↔ 0 < levels ∧ ∀ item ∈ items, IsRule (levels - 1) item := by
  constructor
  · -- What the whole describes is assembled from what its arguments describe.
    rintro ⟨raw, built, described, followable⟩
    obtain ⟨positive, pairs, rfl, rfl, each⟩ := described.of_application applied
    have admitted : operator.admits (pairs.map Prod.snd).length = true := by
      simpa using Value.admits_of_application applied
    rw [Operator.isFollowable_assemble admitted] at followable
    refine ⟨positive, fun item member => ⟨(Value.isRaw_application applied).mp raw item member, ?_⟩⟩
    obtain ⟨pair, paired, rfl⟩ := List.mem_map.mp member
    exact ⟨pair.2, each pair paired, followable pair.2 (List.mem_map_of_mem paired)⟩
  · rintro ⟨positive, rules⟩
    refine ⟨(Value.isRaw_application applied).mpr fun item member => (rules item member).1, ?_⟩
    have : Nonempty Condition := ⟨.literal .null⟩
    choose! built described followable using fun item member => (rules item member).2
    -- Each argument is paired with what it describes.
    let pairs := items.map fun item => (item, built item)
    have paired : pairs.map Prod.fst = items := by
      rw [List.map_map]
      exact List.map_id' items
    have applied' : value.application? = some (operator, pairs.map Prod.fst) :=
      paired.symm ▸ applied
    have admitted : operator.admits (pairs.map Prod.snd).length = true := by
      simpa using Value.admits_of_application applied'
    refine ⟨_, .node positive applied' fun pair member => ?_,
      (Operator.isFollowable_assemble admitted).mpr fun part member => ?_⟩
    · obtain ⟨item, listed, rfl⟩ := List.mem_map.mp member
      exact described item listed
    · obtain ⟨pair, paired, rfl⟩ := List.mem_map.mp member
      obtain ⟨item, listed, rfl⟩ := List.mem_map.mp paired
      exact followable item listed

/-- A tree has the value of the condition that it is read as. -/
theorem evaluate_of_read {built : Condition} (read : value.toCondition limit = .ok built) :
    evaluate limit value document = evaluate limit (.condition built) document := by
  unfold evaluate
  rw [read]
  rfl

/-- Wherever a well-formed condition stands, it has the value that it has as a tree of its own. -/
theorem evaluateAt_eq_ruleValue {built : Condition} (wellFormed : built.isWellFormed = true)
    (followable : built.IsFollowable) (within : depth + built.depth ≤ limit + 1)
    (lower : 1 ≤ depth) :
    evaluateAt limit document depth (.condition built) =
      .ok (ruleValue limit document (.condition built)) := by
  obtain ⟨result, evaluated⟩ := evaluateAt_total document wellFormed followable within
  -- At the top there are more levels left for it than here.
  have alone : evaluate limit (.condition built) document = .ok result :=
    (evaluateAt_kept (by omega) (.condition built)).ok evaluated
  rw [evaluated, ruleValue, alone]
  rfl

namespace IsRule

/-- The document of a rule is read as a condition that is well formed and no deeper. -/
theorem exists_built (rule : IsRule levels value) :
    ∃ built, Describes levels value built ∧ built.IsFollowable ∧ built.isWellFormed = true ∧
      built.depth ≤ levels := by
  obtain ⟨raw, built, described, followable⟩ := rule
  exact ⟨built, described, followable, described.wellFormed raw⟩

/-- The document of a rule stays one within more levels. -/
theorem mono {more : Int} (rule : IsRule levels value) (enough : levels ≤ more) :
    IsRule more value := by
  obtain ⟨raw, built, described, followable⟩ := rule
  exact ⟨raw, built, described.mono enough, followable⟩

/-- The document of a rule is read within a limit that covers its levels. -/
theorem read_of_describes {built : Condition} (rule : IsRule levels value) (within : levels ≤ limit)
    (described : Describes levels value built) : value.toCondition limit = .ok built :=
  (toCondition_iff (Value.ne_condition rule.1)).mpr (described.mono within)

/-- Wherever the document of a rule stands in a tree, it has the value that it has by itself. -/
theorem hasValueAt (rule : IsRule levels value) (within : levels ≤ limit - depth + 1)
    (lower : 1 ≤ depth) :
    HasValueAt limit document depth value (ruleValue limit document value) := by
  obtain ⟨built, described, followable, wellFormed, shallow⟩ := rule.exists_built
  have read := rule.read_of_describes (by omega : levels ≤ limit) described
  refine ⟨built, described.parseAt within, ?_⟩
  rw [evaluateAt_eq_ruleValue wellFormed followable (by omega) lower, ruleValue, ruleValue,
    evaluate_of_read read]

/-- The document of a rule has a value within every limit that covers its levels. -/
theorem evaluates (rule : IsRule levels value) (within : levels ≤ limit) :
    evaluate limit value document = .ok (ruleValue limit document value) := by
  obtain ⟨built, described, followable, wellFormed, shallow⟩ := rule.exists_built
  have alone : evaluate limit (.condition built) document =
      .ok (ruleValue limit document (.condition built)) :=
    evaluateAt_eq_ruleValue wellFormed followable (by omega) (by omega)
  rw [ruleValue, evaluate_of_read (rule.read_of_describes within described), alone]
  rfl

/-- An operator makes the value of a rule of the values of its arguments. -/
theorem evaluate_application (rule : IsRule levels value) (within : levels ≤ limit)
    (applied : value.application? = some (operator, items)) :
    evaluate limit value document =
      .ok (operator.result (items.map (ruleValue limit document))) := by
  obtain ⟨positive, arguments⟩ := (isRule_application applied).mp rule
  obtain ⟨built, described, followable, _⟩ := rule.exists_built
  rw [evaluate_of_read (rule.read_of_describes within described)]
  obtain ⟨_, pairs, rfl, rfl, each⟩ := described.of_application applied
  have admitted : operator.admits ((pairs.map Prod.snd).map Value.condition).length = true := by
    simpa using Value.admits_of_application applied
  rw [Operator.isFollowable_assemble (by simpa using admitted)] at followable
  have operands : ∀ operand ∈ (pairs.map Prod.snd).map Value.condition,
      evaluateAt limit document (1 + 1) operand = .ok (ruleValue limit document operand) := by
    intro operand member
    obtain ⟨part, listed, rfl⟩ := List.mem_map.mp member
    obtain ⟨pair, paired, rfl⟩ := List.mem_map.mp listed
    have argument := arguments pair.1 (List.mem_map_of_mem paired)
    obtain ⟨wellFormed, shallow⟩ := (each pair paired).wellFormed argument.1
    have paths := followable pair.2 (List.mem_map_of_mem paired)
    exact evaluateAt_eq_ruleValue wellFormed paths (by omega) (by omega)
  -- What an argument was read as has the value of the argument.
  have same : ((pairs.map Prod.snd).map Value.condition).map (ruleValue limit document) =
      (pairs.map Prod.fst).map (ruleValue limit document) := by
    rw [List.map_map, List.map_map, List.map_map]
    refine List.map_congr_left fun pair paired => ?_
    have argument := arguments pair.1 (List.mem_map_of_mem paired)
    have read := argument.read_of_describes (by omega : levels - 1 ≤ limit) (each pair paired)
    simp only [Function.comp_apply, ruleValue, evaluate_of_read read]
  rw [← same]
  exact evaluateAt_assemble admitted (by omega) operands

/-- A rule keeps its value under arguments of which its operator makes the same result. -/
theorem with_arguments {other : Value} {others : List Value} (rule : IsRule levels value)
    (within : levels ≤ limit) (applied : value.application? = some (operator, items))
    (applied' : other.application? = some (operator, others))
    (arguments : ∀ item ∈ others, IsRule (levels - 1) item)
    (same : ∀ document, operator.result (others.map (ruleValue limit document)) =
      operator.result (items.map (ruleValue limit document))) :
    IsRule levels other ∧
      ∀ document, evaluate limit other document = evaluate limit value document := by
  obtain ⟨positive, _⟩ := (isRule_application applied).mp rule
  have rule' : IsRule levels other := (isRule_application applied').mpr ⟨positive, arguments⟩
  -- Both come to the result of the operator, the values of their arguments being all it is made of.
  refine ⟨rule', fun document => ?_⟩
  rw [rule.evaluate_application within applied, rule'.evaluate_application within applied', same]

/-- A group keeps its value under the same members, in whatever order and number they are. -/
theorem with_members {other : Value} {connective : Connective} {others : List Value}
    (rule : IsRule levels value) (within : levels ≤ limit)
    (applied : value.application? = some (.join connective, items))
    (applied' : other.application? = some (.join connective, others))
    (same : ∀ item, item ∈ others ↔ item ∈ items) :
    IsRule levels other ∧
      ∀ document, evaluate limit other document = evaluate limit value document := by
  obtain ⟨_, members⟩ := (isRule_application applied).mp rule
  refine rule.with_arguments within applied applied'
    (fun item member => members item ((same item).mp member)) fun document => ?_
  refine congrArg Value.bool (Connective.combine_congr fun result => ?_)
  simp only [List.mem_map, same]

end IsRule

/-- The nodes of the document of a rule are documents of rules, on what is left of the levels. -/
theorem isRule_of_mem_occurrencesAt {steps : List Step} {node : Occurrence}
    (rule : IsRule levels value) (member : node ∈ occurrencesAt steps value) :
    IsRule (levels + steps.length - node.steps.length) node.value := by
  -- Levels and steps are generalised, since both change from node to argument.
  induction value using Value.document_induction generalizing levels steps with
  | leaf value unapplied =>
    rw [occurrencesAt_leaf unapplied, List.mem_singleton] at member
    subst member
    exact rule.mono (by simp)
  | node value operator items applied ih =>
    rw [occurrencesAt_application applied, List.mem_cons] at member
    rcases member with rfl | below
    · exact rule.mono (by simp)
    · obtain ⟨place, item, found, below⟩ := mem_argumentOccurrences.mp below
      have listed : item ∈ items := List.mem_of_getElem? found
      obtain ⟨_, arguments⟩ := (isRule_application applied).mp rule
      have deeper := ih item listed (arguments item listed) below
      -- The step to the argument makes up for the level that it took.
      exact deeper.mono (by simp only [List.length_append, List.length_singleton]; omega)

end Rules

/-- A rearranged rule stays a rule within its levels, and has the same value on every document. -/
theorem Rearranged.keeps {limit levels : Int} {first second : Value}
    (rearranged : Rearranged first second) (rule : IsRule levels first) (within : levels ≤ limit) :
    IsRule levels second ∧
      ∀ document, evaluate limit second document = evaluate limit first document := by
  -- The levels are generalised, since the argument that a change is inside of has one level less.
  induction rearranged generalizing levels with
  | permuted applied applied' permuted =>
    exact rule.with_members within applied applied' fun _ => permuted.mem_iff.symm
  | @repeated _ _ item _ before after applied applied' listed =>
    refine rule.with_members within applied applied' fun other => ?_
    -- The member that is repeated was among the members before.
    simp only [List.mem_append, List.mem_cons] at listed ⊢
    grind
  | @merged _ _ group connective before inner after applied grouped applied' =>
    obtain ⟨positive, members⟩ := (isRule_application applied).mp rule
    have grouping : IsRule (levels - 1) group := members group (by simp)
    -- The members of the inner group move up by one level.
    obtain ⟨_, moved⟩ := (isRule_application grouped).mp grouping
    have arguments : ∀ item ∈ before ++ inner ++ after, IsRule (levels - 1) item := by
      intro item member
      simp only [List.mem_append] at member
      rcases member with (front | lifted) | back
      · exact members item (by simp [front])
      · exact (moved item lifted).mono (by omega)
      · exact members item (by simp [back])
    refine rule.with_arguments within applied applied' arguments fun document => ?_
    have counted : ruleValue limit document group =
        .bool (connective.combine (inner.map (ruleValue limit document))) := by
      rw [ruleValue, grouping.evaluate_application (by omega) grouped]
      rfl
    simp only [Operator.result, List.map_append, List.map_cons, counted,
      Connective.combine_merged]
  | @inside _ _ old new operator before after applied applied' _ ih =>
    obtain ⟨_, members⟩ := (isRule_application applied).mp rule
    obtain ⟨changed, evaluated⟩ := ih (members old (by simp)) (by omega)
    have arguments : ∀ item ∈ before ++ new :: after, IsRule (levels - 1) item := by
      intro item member
      simp only [List.mem_append, List.mem_cons] at member
      rcases member with front | rfl | back
      · exact members item (by simp [front])
      · exact changed
      · exact members item (by simp [back])
    refine rule.with_arguments within applied applied' arguments fun document => ?_
    simp only [List.map_append, List.map_cons, ruleValue, evaluated]

/-- A tree without built parts is the document of a rule within a limit exactly if it is read, and
its paths can be followed. -/
theorem isRule_iff_read {limit : Int} {tree : Value} (raw : tree.isRaw = true) :
    IsRule limit tree ↔ ∃ built, tree.toCondition limit = .ok built ∧ built.IsFollowable := by
  simp only [IsRule, raw, true_and, toCondition_iff (Value.ne_condition raw)]

/-- A rule stays one, with the same values, through rearrangements as many as one likes. -/
theorem IsRule.keeps_of_rearranged {limit : Int} {first second : Value} (rule : IsRule limit first)
    (rearranged : Relation.ReflTransGen Rearranged first second) :
    IsRule limit second ∧
      ∀ document, evaluate limit second document = evaluate limit first document := by
  -- Every step starts from what the steps before it have made.
  induction rearranged with
  | refl => exact ⟨rule, fun _ => rfl⟩
  | tail _ step ih =>
    obtain ⟨kept, same⟩ := ih
    obtain ⟨changed, evaluated⟩ := step.keeps kept (Int.le_refl limit)
    exact ⟨changed, fun document => (evaluated document).trans (same document)⟩

/-- A group has the truth that the values of its members combine to, where it stands. -/
theorem IsRule.group_hasValueAt {limit depth : Int} {document group : Value}
    {connective : Connective} {members : List Value} (rule : IsRule (limit - depth + 1) group)
    (lower : 1 ≤ depth) (applied : group.application? = some (.join connective, members)) :
    ∃ values, List.Forall₂ (HasValueAt limit document (depth + 1)) members values ∧
      HasValueAt limit document depth group (.bool (connective.combine values)) := by
  obtain ⟨_, arguments⟩ := (isRule_application applied).mp rule
  -- The values are those that the members have as rules of their own.
  refine ⟨members.map (ruleValue limit document), ?_, ?_⟩
  · refine List.forall₂_map_right_iff.mpr (List.forall₂_same.mpr fun item listed => ?_)
    exact (arguments item listed).hasValueAt (by omega) (by omega)
  · have combined : ruleValue limit document group =
        .bool (connective.combine (members.map (ruleValue limit document))) := by
      rw [ruleValue, rule.evaluate_application (by omega) applied]
      rfl
    exact combined ▸ rule.hasValueAt (by omega) lower

/--
A rule has the same values however the groups in it are rearranged, as often as one likes.

Its paths have to be such that they can be followed, for a group that is settled by a member does
not come to a path after it, which may come first in another order. Each of its groups has the
truth that the values of all its members combine to, wherever in the rule it stands, although its
evaluation stops at the member that settles it.
-/
theorem evaluate_rearranged {limit : Int} {tree : Value} {built : Condition}
    (raw : tree.isRaw = true) (read : tree.toCondition limit = .ok built)
    (followable : built.IsFollowable) (document : Value) :
    (∀ other, Relation.ReflTransGen Rearranged tree other →
        (∃ rebuilt, other.toCondition limit = .ok rebuilt) ∧
          evaluate limit other document = evaluate limit tree document) ∧
      (∃ value, evaluate limit tree document = .ok value) ∧
      ∀ node ∈ tree.occurrences, ∀ (connective : Connective) (members : List Value),
        node.value.application? = some (.join connective, members) →
          ∃ values, List.Forall₂ (HasValueAt limit document (node.depth + 1)) members values ∧
            HasValueAt limit document node.depth node.value
              (.bool (connective.combine values)) := by
  have rule : IsRule limit tree := (isRule_iff_read raw).mpr ⟨built, read, followable⟩
  refine ⟨fun other rearranged => ?_, ?_, fun node member connective members applied => ?_⟩
  · obtain ⟨kept, same⟩ := rule.keeps_of_rearranged rearranged
    obtain ⟨rebuilt, reread, _⟩ := (isRule_iff_read kept.1).mp kept
    exact ⟨⟨rebuilt, reread⟩, same document⟩
  · exact ⟨_, rule.evaluates (Int.le_refl limit)⟩
  · have lower : 1 ≤ node.depth := by simp only [Occurrence.depth]; omega
    have group := isRule_of_mem_occurrencesAt rule member
    -- Each step down to the group took one level.
    have left : limit + ([] : List Step).length - node.steps.length ≤ limit - node.depth + 1 := by
      simp only [Occurrence.depth, List.length_nil]
      omega
    exact (group.mono left).group_hasValueAt lower applied

/-- A choice by a nested group is the same by a flat one with a member moved and repeated. -/
theorem evaluate_rearranged_nested :
    let dear : Value := .object [(">", .list [.object [("var", .text "order.total")], .int 5000])]
    let paid : Value := .object [("var", .text "order.paid")]
    let choice (test : Value) : Value := .object [("if", .list [test, .text "fast", .text "slow"])]
    let nested : Value := .object [("and", .list [dear, .object [("and", .tuple [.int 1, paid])]])]
    let flat : Value := .object [("and", .list [paid, dear, .int 1, paid])]
    let order : Value := .object [("order", .object [("total", .int 9000), ("paid", .text "yes")])]
    (choice nested).isRaw = true ∧ Relation.ReflTransGen Rearranged (choice nested) (choice flat) ∧
      evaluate 4 (choice nested) order = .ok (.text "fast") ∧
      evaluate 4 (choice flat) order = .ok (.text "fast") ∧
      ∃ values, List.Forall₂ (HasValueAt 4 order 3)
          [dear, .object [("and", .tuple [.int 1, paid])]] values ∧
        HasValueAt 4 order 2 nested (.bool (Connective.all.combine values)) := by
  intro dear paid choice nested flat order
  have raw : (choice nested).isRaw = true := by decide
  -- The inner group is merged, its last member moved to the front, and then repeated.
  have merged : Rearranged nested (.object [("and", .list [dear, .int 1, paid])]) :=
    .merged [dear] [.int 1, paid] [] rfl rfl rfl
  have moved : Rearranged (.object [("and", .list [dear, .int 1, paid])])
      (.object [("and", .list [paid, dear, .int 1])]) :=
    .permuted rfl rfl (show ([dear, .int 1] ++ [paid]).Perm ([paid] ++ [dear, .int 1]) from
      List.perm_append_comm)
  have repeated : Rearranged (.object [("and", .list [paid, dear, .int 1])]) flat :=
    .repeated [paid, dear, .int 1] [] rfl rfl (by simp)
  have inside : ∀ old new, Rearranged old new → Rearranged (choice old) (choice new) :=
    fun old new => .inside [] [.text "fast", .text "slow"] rfl rfl
  have rearranged : Relation.ReflTransGen Rearranged (choice nested) (choice flat) :=
    .tail (.tail (.single (inside _ _ merged)) (inside _ _ moved)) (inside _ _ repeated)
  have chosen : evaluate 4 (choice nested) order = .ok (.text "fast") := rfl
  have read : (choice nested).toCondition 4 = .ok _ := rfl
  obtain ⟨same, _, groups⟩ :=
    evaluate_rearranged raw read (by unfold Condition.IsFollowable; decide) order
  have listed : ⟨[⟨"if", 0⟩], nested⟩ ∈ (choice nested).occurrences :=
    List.mem_cons_of_mem _ (List.mem_cons_self ..)
  exact ⟨raw, rearranged, chosen, (same _ rearranged).2.trans chosen, groups _ listed .all _ rfl⟩

/-- A reference that cannot be followed matters only where nothing before it settles the group. -/
theorem reference_settled_or_failed {path : String} {error : EvaluationError}
    (failed : referenceValue (.object []) path = .error error) :
    let reference : Value := .object [("var", .text path)]
    evaluate 8 (.object [("and", .list [.bool false, reference])]) (.object []) =
        .ok (.bool false) ∧
      evaluate 8 (.object [("and", .list [reference, .bool false])]) (.object []) =
        .error error := by
  intro reference
  refine ⟨rfl, ?_⟩
  -- The reference is evaluated first, and the group fails with it.
  have run : evaluate 8 (.object [("and", .list [reference, .bool false])]) (.object []) =
      referenceValue (.object []) path >>= fun value =>
        if value.isTruthy == Connective.all.settling then .ok (.bool false)
        else .ok (.bool false) := rfl
  rw [run, failed]
  rfl

/-- An index that is too long matters only where the other member does not settle the group. -/
theorem evaluate_rearranged_tooLong :
    Rearranged
        (.object [("and", .list [.bool false, .object [("var", .text
          (String.ofList ('a' :: '[' :: (List.replicate 4301 '1' ++ [']']))))]])])
        (.object [("and", .list [.object [("var", .text
          (String.ofList ('a' :: '[' :: (List.replicate 4301 '1' ++ [']']))))], .bool false])]) ∧
      evaluate 8 (.object [("and", .list [.bool false, .object [("var", .text
          (String.ofList ('a' :: '[' :: (List.replicate 4301 '1' ++ [']']))))]])]) (.object []) =
        .ok (.bool false) ∧
      evaluate 8 (.object [("and", .list [.object [("var", .text
          (String.ofList ('a' :: '[' :: (List.replicate 4301 '1' ++ [']']))))], .bool false])])
          (.object []) =
        .error (.numeral .tooManyDigits) :=
  ⟨.permuted rfl rfl (.swap _ _ _),
    reference_settled_or_failed (by rw [referenceValue, resolvePath_longIndex])⟩

end DeliveryRules
