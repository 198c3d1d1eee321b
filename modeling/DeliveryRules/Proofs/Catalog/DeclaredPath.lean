import DeliveryRules.Proofs.Catalog.Loaded
import DeliveryRules.Proofs.Path.Dotted
import DeliveryRules.Proofs.Path.Normal

/-! The paths of a catalog are dotted names with bare bracket pairs, but for a line break. -/

namespace DeliveryRules

namespace DeclaredState

/-- What is still to come where the reading of a declared path goes on to accept it. -/
def Expects (state : DeclaredState) (letters : List Char) : Prop :=
  match state with
  | .start => ∃ (part : DottedPart) (later : List DottedPart),
      letters = part.written ++ dottedRest later
  | .inName => ∃ (others : List Char) (pairs : Nat) (later : List DottedPart),
      (∀ c ∈ others, isNameChar c = true) ∧ letters = others ++ barePairs pairs ++ dottedRest later
  | .opened => ∃ (pairs : Nat) (later : List DottedPart),
      letters = ']' :: barePairs pairs ++ dottedRest later
  | .closed => ∃ (pairs : Nat) (later : List DottedPart),
      letters = barePairs pairs ++ dottedRest later
  | .broken => False

/-- What is read to its end and accepted is what was expected. -/
theorem expects_of_accepts (state : DeclaredState) (letters : List Char)
    (accepted : (letters.foldl next state).accepts = true) : state.Expects letters := by
  -- Each letter is put in front of what the state after it expects of the others.
  induction letters generalizing state with
  | nil =>
    cases state with
    | inName => exact ⟨[], 0, [], by simp, rfl⟩
    | closed => exact ⟨0, [], rfl⟩
    | start | opened | broken => cases accepted
  | cons c rest ih =>
    have follows := ih (state.next c) accepted
    cases state with
    | start =>
      simp only [next] at follows
      split_ifs at follows with starts
      · obtain ⟨others, pairs, later, continues, rfl⟩ := follows
        exact ⟨⟨c, others, pairs, starts, continues⟩, later, by
          simp [DottedPart.written, DottedPart.name]⟩
      · exact follows.elim
    | inName =>
      simp only [next] at follows
      split_ifs at follows with continues opening dot
      · obtain ⟨others, pairs, later, known, rfl⟩ := follows
        exact ⟨c :: others, pairs, later, by simpa using ⟨continues, known⟩, rfl⟩
      · -- The name is over, and a bracket pair is the first of those that follow it.
        obtain ⟨pairs, later, rfl⟩ := follows
        subst opening
        exact ⟨[], pairs + 1, later, by simp, by simp [barePairs, List.replicate_succ]⟩
      · -- The name is over, and nothing stands between it and the next part.
        obtain ⟨part, later, rfl⟩ := follows
        subst dot
        exact ⟨[], 0, part :: later, by simp, by simp [barePairs, dottedRest]⟩
      · exact follows.elim
    | opened =>
      simp only [next] at follows
      split_ifs at follows with closing
      · obtain ⟨pairs, later, rfl⟩ := follows
        subst closing
        exact ⟨pairs, later, rfl⟩
      · exact follows.elim
    | closed =>
      simp only [next] at follows
      split_ifs at follows with opening dot
      · obtain ⟨pairs, later, rfl⟩ := follows
        subst opening
        exact ⟨pairs + 1, later, by simp [barePairs, List.replicate_succ]⟩
      · obtain ⟨part, later, rfl⟩ := follows
        subst dot
        exact ⟨0, part :: later, by simp [barePairs, dottedRest]⟩
      · exact follows.elim
    | broken => exact follows.elim

end DeclaredState

/-- Characters that are taken for a dotted name are one. -/
theorem exists_dotted {path : List Char} (accepted : isDottedName path = true) :
    ∃ parts, parts ≠ [] ∧ path = dotted parts := by
  -- The reading begins at the first part and accepts, so it finds what it expects there.
  obtain ⟨part, later, rfl⟩ := DeclaredState.expects_of_accepts .start path accepted
  exact ⟨part :: later, by simp, (dotted_cons part later).symm⟩

/-- A path that may be declared is a dotted path, or one that a line break follows. -/
theorem exists_dotted_of_declared {path : String} (declared : isDeclaredPath path = true) :
    ∃ parts tail, parts ≠ [] ∧ (tail = [] ∨ tail = ['\n']) ∧
      path.toList = dotted parts ++ tail := by
  simp only [isDeclaredPath, Bool.or_eq_true, Bool.and_eq_true, beq_iff_eq] at declared
  -- The path is taken either as a whole, or without the line break at its end.
  rcases declared with whole | ⟨last, front⟩
  · obtain ⟨parts, filled, written⟩ := exists_dotted whole
    exact ⟨parts, [], filled, .inl rfl, by simpa using written⟩
  · obtain ⟨parts, filled, written⟩ := exists_dotted front
    -- What is taken for a dotted name here is the path without the line break that it ends in.
    have split : path.toList.dropLast ++ ['\n'] = path.toList :=
      List.dropLast_append_getLast? '\n' last
    exact ⟨parts, ['\n'], filled, .inr rfl, by rw [← split, written]⟩

namespace Catalog

/--
A path that a loaded catalog lists is dotted, but for one line break that may follow it.

It is made of parts with dots between them, each a name and bare bracket pairs. It is normal and
leads through keys and wildcards only; and it is well formed, unless the line break comes after a
bracket pair.
-/
theorem dotted_of_listed {strict : Bool} {source : Option String} {value : Value}
    {catalog : Catalog} (loaded : ofValue strict source value = .ok catalog) {path : String}
    (listed : path ∈ catalog.allPaths) :
    ∃ (parts : List DottedPart) (tail : List Char) (filled : parts ≠ []),
      path.toList = dotted parts ++ tail ∧ (tail = [] ∨ tail = ['\n']) ∧
      normalizePath path = path ∧
      (∃ segments, splitPath path = .ok segments ∧
        ∀ segment ∈ segments, segment = .wildcard ∨ ∃ name, segment = .key name) ∧
      (isWellFormedPath path = true ↔ tail = [] ∨ (parts.getLast filled).pairs = 0) := by
  -- The catalog admits declared paths only, and all else is read off their shape.
  obtain ⟨parts, tail, filled, ending, written⟩ :=
    exists_dotted_of_declared ((isSound_of_ofValue loaded).declarable path listed)
  have bare := erased_of_dotted written ending
  have normal := normalizePath_of_erased bare
  exact ⟨parts, tail, filled, written, ending, normal,
    ⟨_, splitPath_of_normal normal, segmentsFrom_of_erased bare⟩,
    isWellFormedPath_of_dotted written ending filled⟩

/-- A field of quotes and a leaf before a line break are listed, and keep their normal form. -/
theorem dotted_of_listed_quotes :
    let quotes : Value := .object [("name", .text "quotes"),
      ("categories", .list [.text "quote_evaluation"]),
      ("fields", .list [.object [("path", .text "quotes[][].fee"), ("kind", .text "number")]])]
    let leaf : Value := .object [("name", .text "city\n"), ("kind", .text "string"),
      ("categories", .list [.text "provider_selection"])]
    ∃ catalog, ofValue true none (.list [quotes, leaf]) = .ok catalog ∧
      catalog.allPaths = ["quotes[][].fee", "city\n"] ∧
      ∀ path ∈ catalog.allPaths, normalizePath path = path ∧
        ∃ segments, splitPath path = .ok segments ∧
          ∀ segment ∈ segments, segment = .wildcard ∨ ∃ name, segment = .key name := by
  intro quotes leaf
  have loaded : ofValue true none (.list [quotes, leaf]) = .ok ⟨[
      ⟨"quotes", [.quoteEvaluation], [⟨"quotes[][].fee", .number, [.quoteEvaluation], none⟩],
        none, none⟩,
      ⟨"city\n", [.providerSelection], [], some .string, none⟩], "1.0.0", none⟩ := rfl
  refine ⟨_, loaded, rfl, ?_⟩
  intro path listed
  -- The law is applied to each of the two paths that the catalog lists.
  obtain ⟨_, _, _, _, _, normal, steps, _⟩ := dotted_of_listed loaded listed
  exact ⟨normal, steps⟩

/-- A path that ends in a bracket pair and a line break is listed without being a path. -/
theorem listed_lineBreak :
    let leaf : Value := .object [("name", .text "quotes[]\n"), ("kind", .text "array"),
      ("categories", .list [.text "quote_evaluation"])]
    ∃ catalog, ofValue true none (.list [leaf]) = .ok catalog ∧
      "quotes[]\n" ∈ catalog.allPaths ∧ isWellFormedPath "quotes[]\n" = false ∧
      ∀ parts ≠ [], "quotes[]\n".toList ≠ dotted parts := by
  intro leaf
  have loaded : ofValue true none (.list [leaf]) = .ok
      ⟨[⟨"quotes[]\n", [.quoteEvaluation], [], some .array, none⟩], "1.0.0", none⟩ := rfl
  have malformed : isWellFormedPath "quotes[]\n" = false := by decide
  refine ⟨_, loaded, by decide, malformed, ?_⟩
  intro parts filled same
  -- Without the line break it would be well formed.
  have written : "quotes[]\n".toList = dotted parts ++ [] := by rw [same, List.append_nil]
  have wellFormed := (isWellFormedPath_of_dotted written (.inl rfl) filled).mpr (.inl rfl)
  rw [malformed] at wellFormed
  cases wellFormed

end Catalog

end DeliveryRules
