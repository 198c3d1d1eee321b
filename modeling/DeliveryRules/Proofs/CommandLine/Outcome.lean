import DeliveryRules.Catalog.Packaged
import DeliveryRules.Proofs.CommandLine.Answer
import DeliveryRules.Proofs.Json.RoundTrip

/-! A command either answers in full or complains on one line, and its exit code is the verdict. -/

namespace DeliveryRules

namespace CommandLine

/-- An outcome that prints nothing and complains about one failure in one line. -/
structure Outcome.Refuses (outcome : Outcome) (reason : CommandError) : Prop where
  silent : outcome.output = ""
  complains : outcome.complaints = ["ERROR: " ++ reason.text]
  oneLine : IsOneLine ("ERROR: " ++ reason.text)
  exits : outcome.ending = .exited 1

/-- An outcome of a program that is stopped behind some lines, without a word about it. -/
structure Outcome.Stops (outcome : Outcome) (reason : CommandError) (lines : List String) :
    Prop where
  stops : outcome.ending = .stopped reason
  prints : outcome.output = unlines lines
  quiet : outcome.complaints = []

/-- An outcome that prints an answer in full and complains about nothing. -/
structure Outcome.Shows (outcome : Outcome) (asJson : Bool) (answer : Answer) : Prop where
  prints : outcome.output = unlines (answer.rendering asJson)
  quiet : outcome.complaints = []
  exits : outcome.ending = .exited (if answer.isGood then 0 else 1)
  decodes : ∀ preview, answer = .preview preview → asJson = true →
    Json.read outcome.output = .ok preview.toValue

/-- How a command ends on its inputs. -/
inductive Command.Ends (limit : Int) (catalog : Catalog) (inputs : Inputs) (canHold : Char → Bool)
    (command : Command) (outcome : Outcome) : Prop
  | unread {cause : InputError} :
    inputs.readAll command.inputNames = .error cause → outcome.Refuses (.input cause) →
      Ends limit catalog inputs canHold command outcome
  -- An input that stops the program does so before anything is printed.
  | unreadable {cause : InputError} :
    inputs.readAll command.inputNames = .error cause →
      cause.Stops inputs.files command.inputNames → outcome.Stops (.input cause) [] →
        Ends limit catalog inputs canHold command outcome
  -- Half a character may come to stand in what is printed, and nothing is said of it.
  | halved : inputs.readAll command.inputNames = .error (.undecoded .halfCharacter) →
    Ends limit catalog inputs canHold command outcome
  | raised {documents : List Value} {fault : StructureError} :
    inputs.readAll command.inputNames = .ok documents →
      command.Asks limit catalog documents (.error (.malformed fault)) →
        outcome.Refuses (.rule (.malformed fault)) →
          Ends limit catalog inputs canHold command outcome
  -- So does a rule with a number that is too long to be read or written.
  | unmanageable {documents : List Value} {reason : RuleError} :
    inputs.readAll command.inputNames = .ok documents →
      command.Asks limit catalog documents (.error reason) → StopsRule limit documents reason →
        outcome.Stops (.rule reason) [] → Ends limit catalog inputs canHold command outcome
  | answered {documents : List Value} {answer : Answer} :
    inputs.readAll command.inputNames = .ok documents →
      command.Asks limit catalog documents (.ok answer) → outcome.Shows command.asJson answer →
        Ends limit catalog inputs canHold command outcome
  -- An output of a smaller alphabet ends in front of the first line that it cannot hold.
  | cutShort {documents : List Value} {answer : Answer} {before rest : List String}
    {line : String} :
    inputs.readAll command.inputNames = .ok documents →
      command.Asks limit catalog documents (.ok answer) →
        answer.rendering command.asJson = before ++ line :: rest →
          (∀ earlier ∈ before, canHoldLine canHold earlier = true) →
            canHoldLine canHold line = false → outcome.Stops (.unprintable line) before →
              Ends limit catalog inputs canHold command outcome

/-- A preview holds texts and truth values only, each under a key of its own. -/
theorem isVerbal_preview (preview : Preview) : preview.toValue.IsVerbal := by
  -- All members are truth values, texts and lists of texts.
  have texts : ∀ lines : List String, (Value.list (lines.map .text)).IsVerbal := by
    intro lines
    refine .list fun item listed => ?_
    obtain ⟨line, -, rfl⟩ := List.mem_map.mp listed
    exact .text line
  have distinct : ["valid", "errors", "explanation", "simulation"].Nodup := by decide
  refine .object distinct fun member listed => ?_
  simp only [Verdict.members, List.cons_append, List.nil_append, List.mem_cons, List.not_mem_nil,
    or_false] at listed
  rcases listed with rfl | rfl | rfl | rfl
  · exact .bool _
  · exact texts _
  · exact .text _
  · exact texts _

section Ending

variable {limit : Int} {catalog : Catalog} {inputs : Inputs} {canHold : Char → Bool}
  {command : Command} {console : Console}

/-- A failure that a command expects is a complaint of one line and nothing else. -/
theorem refuses_ofRun {reason : CommandError} (foreseen : reason.isForeseen = true)
    (unprinted : console.printed = []) (oneLine : IsOneLine reason.text) :
    (Outcome.ofRun (.error reason, console)).Refuses reason := by
  -- A failure that is foreseen is the only one that is told.
  have ended : Outcome.ofRun (.error reason, console) =
      ⟨.exited 1, unlines console.printed, ["ERROR: " ++ reason.text]⟩ := if_pos foreseen
  rw [ended, unprinted]
  exact ⟨rfl, rfl, .append (.ofList (by decide)) oneLine, rfl⟩

/-- A failure that a command does not expect leaves what was printed before it. -/
theorem stops_ofRun {reason : CommandError} (unforeseen : reason.isForeseen = false) :
    (Outcome.ofRun (.error reason, console)).Stops reason console.printed := by
  -- No handler takes a failure that is not foreseen, so nothing is said of it.
  have ended : Outcome.ofRun (.error reason, console) =
      ⟨.stopped reason, unlines console.printed, []⟩ := if_neg (by rw [unforeseen]; decide)
  rw [ended]
  exact ⟨rfl, rfl, rfl⟩

/-- What stops a program is not foreseen. -/
theorem InputError.Stops.isForeseen {files : Files} {names : List String} {cause : InputError}
    (stops : cause.Stops files names) : cause.isForeseen = false := by
  cases stops <;> rfl

/-- What stops a program has no report. -/
theorem StopsRule.isForeseen {documents : List Value} {reason : RuleError}
    (stops : StopsRule limit documents reason) :
    (CommandError.rule reason).isForeseen = false := by
  -- A misuse has no report at all, and a limit that is too long takes the report of its fault.
  cases stops with
  | longIndex => rfl
  | longLimit location long =>
    simp [CommandError.isForeseen, RuleError.report?, StructureError.report?,
      StructureError.isTellable, long]

/-- What is printed of an answer is all of it, and a document that is printed can be read again. -/
theorem shows_ofRun {asJson : Bool} {answer : Answer}
    (printed : console.printed = answer.rendering asJson) :
    (Outcome.ofRun (.ok answer.exitCode, console)).Shows asJson answer := by
  -- The output is the rendering, and a document is a rendering of a single line.
  have output : (Outcome.ofRun (.ok answer.exitCode, console)).output =
      unlines (answer.rendering asJson) := congrArg unlines printed
  refine ⟨output, rfl, rfl, ?_⟩
  rintro preview rfl rfl
  have text : unlines ((Answer.preview preview).rendering true) =
      Json.indented .unicode preview.toValue ++ String.ofList ['\n'] := by
    simp [Answer.rendering, unlines]
  rw [output, text]
  exact Json.read_indented_blank (isVerbal_preview preview) .unicode rfl

/-- An answer is printed in full, or up to the first line that the output cannot hold. -/
theorem runOn_show (asJson : Bool) (answer : Answer) (fresh : console.printed = []) :
    (∃ after, (answer.show asJson).runOn console = (.ok answer.exitCode, after) ∧
      after.printed = answer.rendering asJson) ∨
    ∃ before line rest after, answer.rendering asJson = before ++ line :: rest ∧
      (∀ earlier ∈ before, canHoldLine console.canHold earlier = true) ∧
      canHoldLine console.canHold line = false ∧
        (answer.show asJson).runOn console = (.error (.unprintable line), after) ∧
          after.printed = before := by
  -- The printing either comes to its end or is cut, and the exit code is only reached in the first
  -- case.
  obtain ⟨printed, prints, left⟩ := prints_printAll (answer.rendering asJson) console
  generalize ran : (printAll (answer.rendering asJson)).runOn console = done at prints left
  obtain ⟨result, after⟩ := done
  subst left
  cases prints with
  | whole each =>
    refine .inl ⟨_, Script.runOn_bind_ok ran, ?_⟩
    simp [fresh]
  | cut split each unheld =>
    refine .inr ⟨_, _, _, _, split, each, unheld, Script.runOn_bind_error ran, ?_⟩
    simp [fresh]

/-- A command refuses its inputs on one line, stops at them, or answers them as far as it can. -/
theorem Command.ends_execute (command : Command) (limit : Int) (catalog : Catalog)
    (inputs : Inputs) (canHold : Char → Bool) :
    command.Ends limit catalog inputs canHold
      (command.execute limit catalog inputs canHold) := by
  show command.Ends limit catalog inputs canHold
    (.ofRun ((command.run limit catalog).runOn (.start inputs canHold)))
  -- All inputs are read before anything is printed, so they settle the first half of the cases.
  cases read : inputs.readAll command.inputNames with
  | error cause =>
    obtain ⟨left, ran⟩ :
        ∃ left, (command.run limit catalog).runOn (.start inputs canHold) =
          (.error (.input cause), { Console.start inputs canHold with inputs := left }) :=
      command.run_of_refused read
    rw [ran]
    -- The first input that is refused settles how the command ends.
    obtain ⟨name, listed, rest, same, told⟩ := Inputs.readAll_error read
    rcases Inputs.read_error listed told with foreseen | stops | rfl
    · exact .unread read (refuses_ofRun foreseen rfl cause.isOneLine_text)
    · rw [same] at stops
      exact .unreadable read stops (stops_ofRun stops.isForeseen)
    · exact .halved read
  | ok documents =>
    obtain ⟨asked, left, asks, ran⟩ :
        ∃ asked left, command.Asks limit catalog documents asked ∧
          (command.run limit catalog).runOn (.start inputs canHold) =
            (answering command.asJson asked).runOn
              { Console.start inputs canHold with inputs := left } :=
      command.run_of_read limit catalog read
    rw [ran]
    cases asked with
    | error reason =>
      rcases asks.isSettled (Inputs.data_of_readAll read) with ⟨fault, rfl, told⟩ | stops
      · have foreseen : (CommandError.rule (.malformed fault)).isForeseen = true := by
          simp [CommandError.isForeseen, RuleError.report?, StructureError.report?, told.tellable]
        exact .raised read asks
          (refuses_ofRun foreseen rfl (isOneLine_report told.tellable told.oneLine))
      · exact .unmanageable read asks stops (stops_ofRun stops.isForeseen)
    | ok answer =>
      -- Printing begins only now, and may be cut short.
      have fresh : ({ Console.start inputs canHold with inputs := left } : Console).printed = [] :=
        rfl
      rw [answering_ok]
      rcases runOn_show command.asJson answer fresh with
        ⟨after, shown, printed⟩ | ⟨before, line, rest, after, split, held, unheld, shown, printed⟩
      · rw [shown]
        exact .answered read asks (shows_ofRun printed)
      · rw [shown]
        exact .cutShort read asks split held unheld (printed ▸ stops_ofRun rfl)

/-- Whether a program is stopped at a line that its output cannot hold. -/
def Ending.isCutShort : Ending → Bool
  | .stopped (.unprintable _) => true
  | _ => false

/-- How a failure ends a command does not depend on what was printed or is left to be read. -/
theorem ending_ofRun (reason : CommandError) (first second : Console) :
    (Outcome.ofRun (.error reason, first)).ending =
      (Outcome.ofRun (.error reason, second)).ending := by
  -- Only the reason is looked at.
  unfold Outcome.ofRun
  dsimp only
  split <;> rfl

/-- An answer ends a command with its exit code, unless the output cannot hold it. -/
theorem ending_answering (asJson : Bool) (answer : Answer) (fresh : console.printed = []) :
    (Outcome.ofRun ((answering asJson (.ok answer)).runOn console)).ending =
        .exited answer.exitCode ∨
      (Outcome.ofRun ((answering asJson (.ok answer)).runOn console)).ending.isCutShort = true := by
  -- The exit code is the one of the answer, whichever lines it was printed in.
  rw [answering_ok]
  rcases runOn_show asJson answer fresh with
    ⟨after, shown, -⟩ | ⟨before, line, rest, after, -, -, -, shown, -⟩
  · rw [shown]
    exact .inl rfl
  · rw [shown]
    exact .inr rfl

/-- A preview ends in the same way whether it is printed as a document or in lines. -/
theorem preview_ending (rule : String) (category : Category) (limit : Int) (catalog : Catalog)
    (inputs : Inputs) (canHold : Char → Bool) :
    let document := (Command.preview rule category true).execute limit catalog inputs canHold
    let lines := (Command.preview rule category false).execute limit catalog inputs canHold
    document.ending = lines.ending ∨ document.ending.isCutShort = true ∨
      lines.ending.isCutShort = true := by
  -- Both forms are the same command but for the way in which the answer is printed.
  have run (asJson : Bool) :
      (Command.preview rule category asJson).execute limit catalog inputs canHold =
        .ofRun (((Command.preview rule category asJson).run limit catalog).runOn
          (.start inputs canHold)) := rfl
  rw [run, run]
  cases read : (Console.start inputs canHold).inputs.readAll [rule] with
  | error cause =>
    obtain ⟨left, document⟩ := (Command.preview rule category true).run_of_refused read
    obtain ⟨other, lines⟩ := (Command.preview rule category false).run_of_refused read
    rw [document, lines]
    exact .inl (ending_ofRun _ _ _)
  | ok documents =>
    obtain ⟨_, left, asks, document⟩ :=
      (Command.preview rule category true).run_of_read limit catalog read
    obtain ⟨_, other, asks', lines⟩ :=
      (Command.preview rule category false).run_of_read limit catalog read
    rw [document, lines]
    -- Both forms read the same input, and ask for the same preview of it.
    cases asks with
    | preview _ _ _ tree =>
      cases asks' with
      | preview _ _ _ _ =>
        cases previewRule (.uniform limit) catalog category tree with
        | error reason => exact .inl (ending_ofRun (.rule reason) _ _)
        | ok shown =>
          have first := @ending_answering { Console.start inputs canHold with inputs := left } true
            (.preview shown) rfl
          have second := @ending_answering { Console.start inputs canHold with inputs := other }
            false (.preview shown) rfl
          rcases first with document | cut
          · rcases second with lines | cut
            · exact .inl (document.trans lines.symm)
            · exact .inr (.inr cut)
          · exact .inr (.inl cut)

end Ending

/-- Whatever its inputs hold, a command leaves nothing but one complaint of one line, or answers in
full and exits by the verdict. It stops without a word only at an input or a number that it is not
prepared for, and amid its answer only at a line that the output cannot hold; nothing is said of
inputs with half a character. Both forms of a preview end alike. -/
theorem execute_allOrNothing (limit : Int) (catalog : Catalog) (inputs : Inputs)
    (canHold : Char → Bool) :
    (∀ command : Command, command.Ends limit catalog inputs canHold
      (command.execute limit catalog inputs canHold)) ∧
    ∀ (rule : String) (category : Category),
      let document := (Command.preview rule category true).execute limit catalog inputs canHold
      let lines := (Command.preview rule category false).execute limit catalog inputs canHold
      document.ending = lines.ending ∨ document.ending.isCutShort = true ∨
        lines.ending.isCutShort = true :=
  ⟨fun command => command.ends_execute limit catalog inputs canHold,
    fun rule category => preview_ending rule category limit catalog inputs canHold⟩

/-- Nothing at all is said of a rule under a name that holds a NUL. -/
theorem execute_unspoken :
    Invocation.ofTexts ["explain", "a\x00b"] = .run (.explain "a\x00b") ∧
      (Command.explain "a\x00b").execute Limits.standard .packaged ⟨[], ""⟩ (fun _ => true) =
        ⟨.stopped (.input (.unreadable (.unusableName "a\x00b"))), "", []⟩ := by
  refine ⟨by decide +kernel, ?_⟩
  -- The name is cleaned and looked at before any file is looked for.
  have steps : nameSteps "a\x00b" = ["a\x00b"] := by
    rw [nameSteps, String.splitToList_of_valid]
    decide
  have clean : cleanName "a\x00b" = "a\x00b" := by
    rw [cleanName, steps]
    decide
  have refused : Files.read [] "a\x00b" = .error (.unusableName "a\x00b") := by
    rw [Files.read, Files.bytesOf, clean, if_pos (by rw [String.contains_char_eq]; decide)]
    rfl
  have read : (Inputs.read ⟨[], ""⟩ "a\x00b").1 =
      .error (.unreadable (.unusableName "a\x00b")) := by
    rw [Inputs.read, if_neg (by decide), refused]
    rfl
  show Outcome.ofRun (Script.runOn _ (.start ⟨[], ""⟩ _)) = _
  rw [Command.run, runOn_of_refused read]
  rfl

end CommandLine

end DeliveryRules
