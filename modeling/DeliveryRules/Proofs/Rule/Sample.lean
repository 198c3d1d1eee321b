import DeliveryRules.Catalog.Packaged
import DeliveryRules.Proofs.Path.Normal
import DeliveryRules.Proofs.Path.Resolve
import DeliveryRules.Proofs.Rule.Noninterference
import DeliveryRules.Rule.Simulation

/-! A rule for choosing a provider has the same samples with quotes as without them. -/

namespace DeliveryRules

/-- Members put after others are not found under keys that they do not have. -/
theorem Members.lookup_append_of_fresh {members added : Members} {key : String}
    (fresh : key ∉ added.map Prod.fst) :
    (members ++ added).lookup key = members.lookup key := by
  -- The added members are only looked through where the others do not have the key.
  have absent : added.lookup key = none := by
    rw [List.lookup_eq_none_iff]
    intro member listed
    have other : key ≠ member.1 := by
      rintro rfl
      exact fresh (List.mem_map_of_mem listed)
    simpa using other
  rw [List.lookup_append, absent, Option.or_none]

/-- Whether a path begins with a key that is none of some keys. -/
def beginsApart (keys : List String) (path : String) : Bool :=
  match (segmentsOf path).head? with
  | some (.key name) => !keys.contains name
  | _ => false

/-- Indexes have no part in how a path begins with a key. -/
theorem beginsApart_normalizePath (keys : List String) (path : String) :
    beginsApart keys (normalizePath path) = beginsApart keys path := by
  rw [beginsApart, segmentsOf_normalizePath, beginsApart]
  -- A first index becomes a wildcard, and neither of them is a key.
  cases segmentsOf path with
  | nil => rfl
  | cons first later => cases first <;> rfl

/-- Members put after those of a document are out of reach for paths that begin with other keys. -/
theorem resolvePath?_extended (members added : Members) {path : String}
    (apart : beginsApart (added.map Prod.fst) path = true) :
    resolvePath? (.object (members ++ added)) path = resolvePath? (.object members) path := by
  -- Only the first step looks at the members of the document itself.
  have same : followSegments? (.object (members ++ added)) (segmentsOf path) =
      followSegments? (.object members) (segmentsOf path) := by
    unfold beginsApart at apart
    split at apart
    · rename_i name first
      obtain ⟨later, segments⟩ := List.head?_eq_some_iff.mp first
      have fresh : name ∉ added.map Prod.fst := by simpa using apart
      -- The first step finds the same member, and the others go on from there.
      have here : (Segment.key name).follow? (.object (members ++ added)) =
          (Segment.key name).follow? (.object members) :=
        Members.lookup_append_of_fresh fresh
      rw [segments, followSegments?_cons, followSegments?_cons, here]
    · -- A path that begins with no key was never apart.
      cases apart
  rw [resolvePath?, resolvePath?, same]

/-- One sample order is another one with offers and their number put after what it says. -/
inductive Quoted : Value → Value → Prop
  | withQuotes (members : Members) (offers : List Value) :
    Quoted (.object members) (.object (Sample.withQuotes members offers))

/-- The keys that offers and their number are put under. -/
def quoteKeys : List String := ["provider_quotes", "quote_count"]

namespace Quoted

variable {plain quoted : Value}

/-- Paths that begin with other keys lead to the same in a sample with quotes. -/
theorem resolvePath?_eq (samples : Quoted plain quoted) {path : String}
    (apart : beginsApart quoteKeys path = true) :
    resolvePath? plain path = resolvePath? quoted path := by
  obtain ⟨members, offers⟩ := samples
  exact (resolvePath?_extended members
    [("provider_quotes", .list offers), ("quote_count", .int offers.length)] apart).symm

/-- A sample has the same amount with its quotes. -/
theorem orderAmount_eq (samples : Quoted plain quoted) :
    orderAmount plain = orderAmount quoted := by
  obtain ⟨members, offers⟩ := samples
  -- The amount is read off the order, which the quotes do not touch.
  have found : (Sample.withQuotes members offers).lookup "order" = members.lookup "order" :=
    Members.lookup_append_of_fresh (by simp)
  simp only [orderAmount, memberOr, found]

end Quoted

/-- Orders and as many lists of offers make samples with quotes in the order of those without. -/
theorem forall₂_quoted {orders : List Members} {quotes : List (List Value)}
    (same : orders.length = quotes.length) :
    List.Forall₂ Quoted (orders.map .object)
      ((orders.zipWith Sample.withQuotes quotes).map .object) := by
  -- The offers are generalised, since each order takes the first of them.
  induction orders generalizing quotes with
  | nil => exact .nil
  | cons members rest ih =>
    cases quotes with
    | nil => cases same
    | cons offers others => exact .cons (.withQuotes members offers) (ih (Nat.succ.inj same))

/-- The samples of the two categories are the same orders, without and with quotes. -/
theorem quoted_documents :
    List.Forall₂ Quoted (Sample.documents .providerSelection)
      (Sample.documents .quoteEvaluation) :=
  forall₂_quoted rfl

/-- Whether two samples with their results make the same line. -/
def SameLine (first second : Value × Value) : Prop :=
  orderAmount first.1 = orderAmount second.1 ∧ first.2 = second.2

/-- The line of a sample depends on its amount and its result only. -/
theorem SameLine.simulationLine_eq {first second : Value × Value} (line : SameLine first second)
    (nesting : Int) :
    simulationLine nesting first.1 first.2 = simulationLine nesting second.1 second.2 := by
  rw [simulationLine, simulationLine, line.1, line.2]

/-- A tree with the same results on both kinds of samples has runs that make the same lines. -/
theorem runSamples_corresponds {limit : Int} {tree : Value}
    (same : ∀ plain quoted, Quoted plain quoted →
      evaluate limit tree plain = evaluate limit tree quoted) :
    Corresponds (List.Forall₂ SameLine) (runSamples limit .providerSelection tree)
      (runSamples limit .quoteEvaluation tree) := by
  unfold runSamples
  -- The tree is read once, before any of the samples.
  cases read : tree.toCondition limit with
  | error fault =>
    -- A tree that is not read fails before any sample is looked at.
    exact .error _
  | ok built =>
    -- What was read is evaluated like the tree itself.
    have evaluated : ∀ document,
        evaluate limit (.condition built) document = evaluate limit tree document := by
      intro document
      simp only [evaluate, read]
      rfl
    refine Corresponds.mapM (quoted_documents.imp fun plain quoted samples => ?_)
    -- The first sample that fails does so on both sides, with the same error.
    rw [evaluated, evaluated, same plain quoted samples]
    cases evaluate limit tree quoted with
    | error reason => exact .error _
    | ok result => exact .ok ⟨samples.orderAmount_eq, rfl⟩

/-- A rule that is valid for paths apart from the quotes is tried out alike on both samples. -/
theorem simulate_eq_of_apart {limit : Int} {catalog : Catalog} {category : Category}
    {tree : Value} (nesting : Int)
    (apart : ∀ path ∈ catalog.pathsFor category, beginsApart quoteKeys path = true)
    (valid : (validate limit catalog category tree).isValid = true) :
    simulate limit nesting .providerSelection tree =
      simulate limit nesting .quoteEvaluation tree := by
  -- What a valid rule refers to is the same in a sample with and without its quotes.
  have same : ∀ plain quoted, Quoted plain quoted →
      evaluate limit tree plain = evaluate limit tree quoted := by
    intro plain quoted samples
    refine evaluate_congr fun path referred => ?_
    -- The path that the catalog lists begins like the reference to it.
    have begins := apart _ (isValid_iff.mp valid path referred)
    rw [beginsApart_normalizePath] at begins
    rw [referenceValue, referenceValue, resolvePath_eq, resolvePath_eq,
      samples.resolvePath?_eq begins]
  -- The runs make the same lines, sample by sample.
  have lines : Corresponds (List.Forall₂ Eq) (simulate limit nesting .providerSelection tree)
      (simulate limit nesting .quoteEvaluation tree) := by
    refine (runSamples_corresponds same).bind fun results others related => ?_
    refine Corresponds.mapM (related.imp fun first second line => ?_)
    rw [line.simulationLine_eq nesting]
    cases simulationLine nesting second.1 second.2 with
    | ok text => exact .ok rfl
    | error reason => exact .error reason
  refine lines.eq fun texts others each => ?_
  rwa [List.forall₂_eq_eq_eq] at each

/-- No path that the packaged catalog lists for choosing a provider begins like a quote. -/
theorem beginsApart_of_packaged : ∀ path ∈ Catalog.packaged.pathsFor .providerSelection,
    beginsApart quoteKeys path = true := by
  decide

/--
A rule that is valid for choosing a provider is tried out alike in both categories.

Either there are the same lines for the samples without quotes and for those with them, or the
same error. It holds of every tree, be it well formed or not.
-/
theorem simulate_eq_of_valid {limit : Int} (nesting : Int) {tree : Value}
    (valid : (validate limit Catalog.packaged .providerSelection tree).isValid = true) :
    simulate limit nesting .providerSelection tree =
      simulate limit nesting .quoteEvaluation tree :=
  simulate_eq_of_apart nesting beginsApart_of_packaged valid

/-- A choice by the value of an order is tried out alike, and so is a group with nothing in it. -/
theorem simulate_eq_of_valid_orderValue :
    let large : Value := .object [(">", .list [.object [("var", .text "order.order_value")],
      .condition (.literal (.int 10000))])]
    let rule : Value := .object [("if", .list [large, .text "doordash",
      .object [("var", .text "preferred_provider")]])]
    let empty : Value := .object [("and", .list [rule, .object [("or", .list [])]])]
    ((validate 4 Catalog.packaged .providerSelection rule).isValid = true ∧
      simulate 4 4 .providerSelection rule = simulate 4 4 .quoteEvaluation rule) ∧
    (validate 4 Catalog.packaged .providerSelection empty).isValid = true ∧
      simulate 4 4 .providerSelection empty = simulate 4 4 .quoteEvaluation empty := by
  intro large rule empty
  have valid : (validate 4 Catalog.packaged .providerSelection rule).isValid = true := by decide
  have valid' : (validate 4 Catalog.packaged .providerSelection empty).isValid = true := by decide
  exact ⟨⟨valid, simulate_eq_of_valid 4 valid⟩, valid', simulate_eq_of_valid 4 valid'⟩

end DeliveryRules
