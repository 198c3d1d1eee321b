import DeliveryRules.CommandLine.Outcome
import DeliveryRules.Proofs.CommandLine.Complaint
import DeliveryRules.Proofs.CommandLine.Script
import DeliveryRules.Proofs.Rule.Totality

/-! A command reads its inputs, asks the library for one answer, and prints it line by line. -/

namespace DeliveryRules

namespace CommandLine

/-- A verdict as lines. -/
def verdictLines (verdict : Verdict) : List String :=
  if verdict.isValid then ["VALID"]
  else ["INVALID", ruler '-' 40] ++ verdict.errors.map errorLine

/-- A preview as lines. -/
def previewLines (preview : Preview) : List String :=
  ["RULE PREVIEW", ruler '=' 60, preview.explanation, "",
    "Valid: " ++ (if preview.verdict.isValid then "yes" else "no")] ++
  preview.verdict.errors.map errorLine ++ ["", "Simulation:"] ++
  preview.simulation.map ("  " ++ ·)

/-- What the library makes of the documents of a command, before any of it is printed. -/
inductive Answer
  | lines (lines : List String)
  | verdict (verdict : Verdict)
  | preview (preview : Preview)

namespace Answer

/-- Whether an answer is a good one: only a verdict can be bad. -/
def isGood : Answer → Bool
  | .lines _ => true
  | .verdict reached => reached.isValid
  | .preview shown => shown.verdict.isValid

/-- The exit code that goes with an answer. -/
def exitCode (answer : Answer) : Nat := if answer.isGood then 0 else 1

/-- All the lines that an answer is printed in. -/
def rendering (asJson : Bool) : Answer → List String
  | .lines several => several
  | .verdict reached => verdictLines reached
  | .preview shown =>
    if asJson then [Json.indented .unicode shown.toValue] else previewLines shown

end Answer

/-- Whether a command prints its answer as a document. -/
def Command.asJson : Command → Bool
  | .preview _ _ asJson => asJson
  | _ => false

/-- The outcome of the operation of the library that a command asks for on its documents. -/
inductive Command.Asks (limit : Int) (catalog : Catalog) :
    Command → List Value → Except RuleError Answer → Prop
  | catalog : Asks limit catalog .catalog [] (.ok (.lines [catalog.serialize]))
  | paths (category : Category) :
    Asks limit catalog (.paths category) [] (.ok (.lines (sortedPaths (catalog.pathsFor category))))
  | validate (rule : String) (category : Category) (tree : Value) :
    Asks limit catalog (.validate rule category) [tree]
      (.ok (.verdict (DeliveryRules.validate limit catalog category tree)))
  | simulate (rule : String) (category : Category) (tree : Value) :
    Asks limit catalog (.simulate rule category) [tree]
      (.lines <$> DeliveryRules.simulate limit limit category tree)
  | preview (rule : String) (category : Category) (asJson : Bool) (tree : Value) :
    Asks limit catalog (.preview rule category asJson) [tree]
      (.preview <$> previewRule (.uniform limit) catalog category tree)
  | explain (rule : String) (tree : Value) :
    Asks limit catalog (.explain rule) [tree]
      ((fun sentence => .lines [sentence]) <$> explanationOf (.uniform limit) tree)
  | evaluate (rule data : String) (tree document : Value) :
    Asks limit catalog (.evaluate rule data) [tree, document]
      ((fun line => .lines [line]) <$> evaluationLine limit tree document)

section Running

variable {command : Command} {limit : Int} {catalog : Catalog} {console : Console}

/-- A command whose inputs are refused fails for that reason alone, and has printed nothing. -/
theorem Command.run_of_refused (command : Command) {cause : InputError}
    (refused : console.inputs.readAll command.inputNames = .error cause) :
    ∃ left, (command.run limit catalog).runOn console =
      (.error (.input cause), { console with inputs := left }) := by
  cases command with
  | catalog => cases refused
  | paths category => cases refused
  -- Of two documents the second is only come to when the first is read.
  | evaluate rule data =>
    rw [inputNames, Inputs.readAll_pair] at refused
    rw [run]
    rcases bind_eq_error.mp refused with here | ⟨tree, read, later⟩
    · exact ⟨_, runOn_of_refused here⟩
    · rw [runOn_of_read read]
      exact ⟨_, runOn_of_refused (map_eq_error.mp later)⟩
  -- All other commands read a single document first, and fail with it.
  | _ =>
    rw [inputNames, Inputs.readAll_singleton, map_eq_error] at refused
    rw [run]
    exact ⟨_, runOn_of_refused refused⟩

/-- An answer printed, and the exit code that goes with it. -/
def Answer.show (asJson : Bool) (answer : Answer) : Script Nat := do
  printAll (answer.rendering asJson)
  return answer.exitCode

/-- A verdict is printed line by line. -/
theorem show_verdict (asJson : Bool) (verdict : Verdict) :
    (Answer.verdict verdict).show asJson =
      if verdict.isValid then do
        print "VALID"
        return 0
      else do
        print "INVALID"
        print (ruler '-' 40)
        printAll (verdict.errors.map errorLine)
        return 1 := by
  -- The lines of a verdict are fixed ones in front and a list of errors behind them.
  cases valid : verdict.isValid <;>
    simp [Answer.show, Answer.rendering, Answer.exitCode, Answer.isGood, verdictLines, valid,
      printAll]

/-- A preview is printed as one document, or line by line. -/
theorem show_preview (asJson : Bool) (shown : Preview) :
    (Answer.preview shown).show asJson = (do
      if asJson then
        print (Json.indented .unicode shown.toValue)
      else
        print "RULE PREVIEW"
        print (ruler '=' 60)
        print shown.explanation
        print ""
        print ("Valid: " ++ if shown.verdict.isValid then "yes" else "no")
        printAll (shown.verdict.errors.map errorLine)
        print ""
        print "Simulation:"
        printAll (shown.simulation.map ("  " ++ ·))
      return if shown.verdict.isValid then 0 else 1) := by
  -- The form and the verdict settle which lines there are, and how many calls print them.
  cases asJson <;> cases valid : shown.verdict.isValid <;>
    simp [Answer.show, Answer.rendering, Answer.exitCode, Answer.isGood, previewLines, printAll,
      printAll_append, valid]

/-- Lines are printed one after the other. -/
theorem show_lines (asJson : Bool) (lines : List String) :
    (Answer.lines lines).show asJson = (do printAll lines; return 0) := by
  simp [Answer.show, Answer.rendering, Answer.exitCode, Answer.isGood]

/-- A single line is printed by itself. -/
theorem show_line (asJson : Bool) (line : String) :
    (Answer.lines [line]).show asJson = (do print line; return 0) := by
  simp [show_lines, printAll]

/-- The result of an operation printed as an answer, unless there is none. -/
def answering (asJson : Bool) (asked : Except RuleError Answer) : Script Nat := do
  let answer ← ofRule asked
  answer.show asJson

/-- A result is printed as the answer that it is. -/
theorem answering_ok (asJson : Bool) (answer : Answer) :
    answering asJson (.ok answer) = answer.show asJson :=
  rfl

/-- The result of an operation is printed as the answer that it makes. -/
theorem ofRule_show {α : Type} (asJson : Bool) (result : Except RuleError α)
    (answer : α → Answer) :
    (do let found ← ofRule result; (answer found).show asJson) =
      answering asJson (answer <$> result) := by
  -- A failure is passed on as it is, and a result is turned into its answer.
  cases result <;> rfl

/-- A command whose inputs are read prints what its operation makes of them, or fails as it does. -/
theorem Command.run_of_read (command : Command) (limit : Int) (catalog : Catalog)
    {documents : List Value} (read : console.inputs.readAll command.inputNames = .ok documents) :
    ∃ asked left, command.Asks limit catalog documents asked ∧
      (command.run limit catalog).runOn console =
        (answering command.asJson asked).runOn { console with inputs := left } := by
  -- Each command reads what it names, and goes on at the console that is left by that.
  cases command with
  | catalog =>
    cases read
    refine ⟨_, console.inputs, .catalog, ?_⟩
    rw [run, ← show_line false]
    rfl
  | paths category =>
    cases read
    refine ⟨_, console.inputs, .paths category, ?_⟩
    rw [run, ← show_lines false]
    rfl
  | evaluate rule data =>
    rw [inputNames, Inputs.readAll_pair] at read
    -- The second document is read from what the first has left.
    obtain ⟨tree, first, read⟩ := bind_eq_ok.mp read
    obtain ⟨document, second, rfl⟩ := map_eq_ok.mp read
    refine ⟨_, ((console.inputs.read rule).2.read data).2, .evaluate rule data tree document, ?_⟩
    rw [run, runOn_of_readPair first second, ← ofRule_show]
    simp only [show_line, asJson]
  | validate rule category =>
    rw [inputNames, Inputs.readAll_singleton] at read
    obtain ⟨tree, found, rfl⟩ := map_eq_ok.mp read
    refine ⟨_, (console.inputs.read rule).2, .validate rule category tree, ?_⟩
    rw [run, runOn_of_read found, ← show_verdict false]
    rfl
  | simulate rule category =>
    rw [inputNames, Inputs.readAll_singleton] at read
    obtain ⟨tree, found, rfl⟩ := map_eq_ok.mp read
    refine ⟨_, (console.inputs.read rule).2, .simulate rule category tree, ?_⟩
    rw [run, runOn_of_read found, ← ofRule_show]
    simp only [show_lines, asJson]
  | preview rule category asJson =>
    rw [inputNames, Inputs.readAll_singleton] at read
    obtain ⟨tree, found, rfl⟩ := map_eq_ok.mp read
    refine ⟨_, (console.inputs.read rule).2, .preview rule category asJson tree, ?_⟩
    rw [run, runOn_of_read found, ← ofRule_show]
    simp only [show_preview, Command.asJson]
  | explain rule =>
    rw [inputNames, Inputs.readAll_singleton] at read
    obtain ⟨tree, found, rfl⟩ := map_eq_ok.mp read
    refine ⟨_, (console.inputs.read rule).2, .explain rule tree, ?_⟩
    rw [run, runOn_of_read found, ← ofRule_show]
    simp only [show_line, asJson]

end Running

section Failing

variable {command : Command} {limit : Int} {catalog : Catalog} {documents : List Value}
  {reason : RuleError}

/-- What no command expects of a rule: an index that is too long to be read, in a path that one of
the documents refers to, or a limit that is too long to be written. -/
inductive StopsRule (limit : Int) (documents : List Value) : RuleError → Prop
  | longIndex {tree : Value} {path : String} : tree ∈ documents →
    path ∈ referencedFields limit tree → isFollowable path = false →
      StopsRule limit documents (.misuse (.numeral .tooManyDigits))
  | longLimit (location : Option Location) : isShort limit = false →
    StopsRule limit documents (.malformed (.tooDeep limit location))

/-- A fault that is told on one line. -/
structure StructureError.IsTold (fault : StructureError) : Prop where
  tellable : fault.isTellable = true
  oneLine : IsOneLine fault.message

/-- A failure of an operation is a fault that is told on one line, or stops the program. -/
def IsSettled (limit : Int) (documents : List Value) (reason : RuleError) : Prop :=
  (∃ fault, reason = .malformed fault ∧ StructureError.IsTold fault) ∨
    StopsRule limit documents reason

/-- A tree that gives no condition has a fault that is told on one line, or stops the program. -/
theorem isSettled_of_refused {tree : Value} {fault : StructureError} (raw : tree.isRaw = true)
    (writable : tree.isWritable = true) (refused : tree.toCondition limit = .error fault) :
    IsSettled limit documents (.malformed fault) := by
  -- The numbers of decoded data can be written, so only the limit may be too long to be told.
  rcases isTellable_of_toCondition raw writable refused with tellable | ⟨long, place, rfl⟩
  · rw [toCondition_eq_parseAt (Value.ne_condition raw)] at refused
    exact .inl ⟨fault, rfl, tellable, isOneLine_of_parseAt refused⟩
  · exact .inr (.longLimit place long)

/-- An operation that fails as the reading of its tree does, and else only at an index, fails for
what is told on one line or stops the program. -/
theorem isSettled_of_failed {α : Type} {use : Except RuleError α} {tree : Value}
    (listed : tree ∈ documents) (raw : tree.isRaw = true) (writable : tree.isWritable = true)
    (fails : ∀ fault, FailsWith limit tree fault → use = .error (.malformed fault))
    (bounded : IsBounded limit tree → FailsOnlyAtIndex limit tree use)
    (failed : use = .error reason) : IsSettled limit documents reason := by
  -- The tree is read or not, whatever the operation does with it afterwards.
  rcases fails_or_bounded limit raw writable with ⟨fault, refused, failing⟩ | ⟨-, short⟩
  · cases failed.symm.trans (fails fault failing)
    exact isSettled_of_refused raw writable refused
  rcases bounded short with ⟨result, reached⟩ | ⟨index, document, evaluated⟩
  · cases failed.symm.trans reached
  · -- The index is part of a path that the tree refers to, and so does not depend on the document.
    cases failed.symm.trans index
    obtain ⟨path, referred, long⟩ := exists_longIndex raw writable evaluated
    exact .inr (.longIndex listed referred long)

/-- The value of a rule on a document is shown as a line, unless the rule fails at an index. -/
theorem failsOnlyAtIndex_evaluationLine {tree document : Value} (bounded : IsBounded limit tree)
    (writable : document.isWritable = true) :
    FailsOnlyAtIndex limit tree (evaluationLine limit tree document) := by
  -- A rule within the limit fails at an index or has a value, and that value can be written.
  have length := bounded.evaluates document writable
  unfold evaluationLine
  cases evaluated : evaluate limit tree document with
  | ok value =>
    rw [evaluated] at length
    obtain ⟨line, rendered⟩ := @renderLiteral_total limit value length
    exact .inl ⟨line, by simp only [rendered]; rfl⟩
  | error fault =>
    rw [evaluated] at length
    cases length
    exact .inr ⟨rfl, document, evaluated⟩

/-- On decoded data an operation fails for what is told on one line, or stops the program. -/
theorem Command.Asks.isSettled (asks : command.Asks limit catalog documents (.error reason))
    (data : ∀ document ∈ documents, document.isRaw = true ∧ document.isWritable = true) :
    IsSettled limit documents reason := by
  -- The operations that always have an answer are ruled out first.
  generalize failed : (.error reason : Except RuleError Answer) = asked at asks
  cases asks with
  | catalog => cases failed
  | paths category => cases failed
  | validate rule category tree => cases failed
  | explain rule tree =>
    -- Every tree of decoded data has a sentence.
    obtain ⟨raw, writable⟩ := data tree (by simp)
    have resolved := tree.isResolved_of_raw raw
    obtain ⟨sentence, explained⟩ := explanationOf_total (.uniform limit) resolved writable
    rw [explained] at failed
    cases failed
  | simulate rule category tree =>
    obtain ⟨raw, writable⟩ := data tree (by simp)
    exact isSettled_of_failed (by simp) raw writable (fun _ fails => fails.simulates limit category)
      (fun bounded => bounded.simulates limit category) (map_eq_error.mp failed.symm)
  | preview rule category asJson tree =>
    obtain ⟨raw, writable⟩ := data tree (by simp)
    exact isSettled_of_failed (by simp) raw writable
      (fun _ fails => fails.previews (.uniform limit) catalog category rfl)
      (fun bounded => bounded.previews (.uniform limit) catalog category rfl)
      (map_eq_error.mp failed.symm)
  | evaluate rule data' tree document =>
    obtain ⟨raw, writable⟩ := data tree (by simp)
    obtain ⟨_, short⟩ := data document (by simp)
    refine isSettled_of_failed (by simp) raw writable (fun fault fails => ?_)
      (fun bounded => failsOnlyAtIndex_evaluationLine bounded short) (map_eq_error.mp failed.symm)
    simp only [evaluationLine, fails.evaluates]
    rfl

end Failing

end CommandLine

end DeliveryRules
