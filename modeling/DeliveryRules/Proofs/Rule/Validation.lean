import DeliveryRules.Proofs.Condition.Wire
import DeliveryRules.Proofs.Rule.Reference
import DeliveryRules.Rule.Validation

/-! A check within the limit of the reader finds every reference of a rule, and no other. -/

namespace DeliveryRules

/-- With two levels for every node, less the last, a well-formed condition is visited to its end. -/
theorem collectFields_eq_references {levels : Int} {built : Condition}
    (wellFormed : built.isWellFormed = true) (enough : 2 * (built.depth : Int) - 1 ≤ levels) :
    collectFields levels (.condition built) = built.references := by
  -- The levels are generalised, since an operand has two less.
  induction built, wellFormed using Condition.wellFormed_induction generalizing levels with
  | literal content scalar => simp [collectFields, Condition.references]
  | field path =>
    -- A reference needs the one level of its own.
    have visited : ¬levels < 1 := by
      simp only [Condition.depth] at enough
      omega
    simp [collectFields, Condition.references, visited]
  | node operator parts admitted formed ih =>
    have arranged : operator.admits (parts.map Value.condition).length = true := by
      simpa using admitted
    rw [Operator.depth_assemble arranged] at enough
    rw [collectFields_assemble levels arranged, Operator.references_assemble arranged,
      collectItems_eq_flatMap, List.flatMap_map, List.flatMap_map]
    -- An operand is shallower than the node by at least the level it stands lower.
    refine List.flatMap_congr fun part member => ?_
    have shallower := depth_le_deepest member
    rw [ih part member (by omega), Value.references]

/-- A document read under a limit has the references of what it is read as, none being too deep. -/
theorem referencedFields_eq {limit : Int} {document : Value} {built : Condition}
    (raw : document.isRaw = true) (read : document.toCondition limit = .ok built) :
    referencedFields limit document = built.references := by
  have described := (toCondition_iff (Value.ne_condition raw)).mp read
  obtain ⟨wellFormed, shallow⟩ := described.wellFormed raw
  rw [referencedFields, described.collectFields_eq]
  exact collectFields_eq_references wellFormed (by omega)

/-- A path is open to a category as the name of a leaf or as one of the fields of a group. -/
theorem Catalog.mem_pathsFor {catalog : Catalog} {category : Category} {path : String} :
    path ∈ catalog.pathsFor category ↔
      ∃ group ∈ catalog.groups, category ∈ group.categories ∧
        (group.fields = [] ∧ path = group.name ∨ ∃ field ∈ group.fields, field.path = path) := by
  simp only [pathsFor, groupsFor, List.mem_flatMap, List.mem_filter, Group.appliesTo,
    List.contains_iff_mem, and_assoc]
  refine exists_congr fun group => and_congr_right fun _ => and_congr_right fun _ => ?_
  -- A group either stands for itself or has fields.
  cases fields : group.fields with
  | nil => simp [Group.paths, Group.isLeaf, fields]
  | cons first rest =>
    have composite : group.paths = (first :: rest).map (·.path) := by
      simp [Group.paths, Group.isLeaf, fields]
    rw [composite, List.mem_map]
    simp

/--
A check tells of every reference that is not open to the category, in the order of the rule.

The rule is any document that can be read under the limit of the check. What is told names the path
as the rule has it, however often it does, and the rule passes exactly if nothing is told.
-/
theorem validate_complete {limit : Int} {tree : Value} {built : Condition}
    (raw : tree.isRaw = true) (read : tree.toCondition limit = .ok built) (catalog : Catalog)
    (category : Category) :
    (validate limit catalog category tree).errors =
        (built.references.filter fun path => normalizePath path ∉ catalog.pathsFor category).map
          (fun path => "Field '" ++ path ++ "' is not available for " ++ category.word) ∧
      ((validate limit catalog category tree).isValid = true ↔
        ∀ path ∈ built.references, normalizePath path ∈ catalog.pathsFor category) ∧
      ∀ path, path ∈ catalog.pathsFor category ↔
        ∃ group ∈ catalog.groups, category ∈ group.categories ∧
          (group.fields = [] ∧ path = group.name ∨
            ∃ field ∈ group.fields, field.path = path) := by
  -- The check goes as deep as the reader did.
  have found : referencedFields limit tree = built.references := referencedFields_eq raw read
  refine ⟨?_, ?_, fun path => Catalog.mem_pathsFor⟩
  · have told : (validate limit catalog category tree).errors =
        (built.references.filter fun path => normalizePath path ∉ catalog.pathsFor category).map
          (refusal category) := by simp [validate, found, isAllowed]
    exact told
  · rw [isValid_iff, found]

/-- A rule as deep as the limit is told of the quote it refers to twice, and of nothing else. -/
theorem validate_complete_quotes :
    let catalog : Catalog := ⟨[⟨"city", [.providerSelection], [], none, none⟩,
      ⟨"quotes", [.quoteEvaluation], [⟨"quotes[].fee", .number, [], none⟩], none, none⟩], "1", none⟩
    let quote : Value := .object [("var", .text "quotes[0].fee")]
    let tree : Value := .object [("and", .list [.object [("var", .text "city")],
      .object [("<", .list [quote, quote])]])]
    tree.isRaw = true ∧
      (∃ built, tree.toCondition 3 = .ok built ∧
        built.references = ["city", "quotes[0].fee", "quotes[0].fee"] ∧
        ((validate 3 catalog .quoteEvaluation tree).isValid = true ↔
          ∀ path ∈ built.references,
            normalizePath path ∈ catalog.pathsFor .quoteEvaluation)) ∧
      (validate 3 catalog .providerSelection tree).errors =
        ["Field 'quotes[0].fee' is not available for provider_selection",
          "Field 'quotes[0].fee' is not available for provider_selection"] := by
  intro catalog quote tree
  have raw : tree.isRaw = true := by decide
  refine ⟨raw, ⟨_, rfl, rfl, (validate_complete raw rfl catalog .quoteEvaluation).2.1⟩, ?_⟩
  rw [(validate_complete raw rfl catalog .providerSelection).1]
  decide

end DeliveryRules
