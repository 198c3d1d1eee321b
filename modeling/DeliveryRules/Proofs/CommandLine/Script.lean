import DeliveryRules.CommandLine.Script
import DeliveryRules.Proofs.Catalog.Files
import DeliveryRules.Proofs.Json.Raw

/-! What scripts do at a console: they read inputs one after the other, and print line by line. -/

namespace DeliveryRules.CommandLine

/-- What comes of a script at a console: its result or failure, and the console after it. -/
def Script.runOn {α : Type} (script : Script α) (console : Console) :
    Except CommandError α × Console :=
  script.run.run console

namespace Script

variable {α β : Type} {console after : Console}

/-- A script without steps leaves the console as it is. -/
@[simp] theorem runOn_pure (result : α) :
    (pure result : Script α).runOn console = (.ok result, console) :=
  rfl

/-- After a script with a result comes the next one, at the console that it left. -/
theorem runOn_bind_ok {first : Script α} {next : α → Script β} {result : α}
    (done : first.runOn console = (.ok result, after)) :
    (first >>= next).runOn console = (next result).runOn after := by
  -- The two layers of a script are taken off one after the other.
  unfold runOn at done ⊢
  rw [ExceptT.run_bind, StateT.run_bind, done]
  rfl

/-- After a script that fails comes nothing more. -/
theorem runOn_bind_error {first : Script α} {next : α → Script β} {reason : CommandError}
    (failed : first.runOn console = (.error reason, after)) :
    (first >>= next).runOn console = (.error reason, after) := by
  unfold runOn at failed ⊢
  rw [ExceptT.run_bind, StateT.run_bind, failed]
  rfl

/-- A script that looks at the console goes on with what it sees. -/
theorem runOn_get_bind (next : Console → Script α) :
    (get >>= next).runOn console = (next console).runOn console :=
  rfl

/-- A script that sets the console leaves the new one. -/
theorem runOn_set (new : Console) : (set new : Script PUnit).runOn console = (.ok ⟨⟩, new) :=
  rfl

/-- What is given to a script is its result or its failure, and the console stays as it is. -/
theorem runOn_ofExcept (outcome : Except CommandError α) :
    (ofExcept outcome : Script α).runOn console = (outcome, console) := by
  -- Nothing is done at the console, whichever of the two is given.
  cases outcome <;> rfl

/-- Reading a document takes it off the inputs. -/
theorem runOn_readDocument (name : String) :
    (readDocument name).runOn console =
      ((console.inputs.read name).1.mapError CommandError.input,
        { console with inputs := (console.inputs.read name).2 }) := by
  -- The inputs are taken off before it is known whether the document can be read.
  rw [readDocument, runOn_get_bind, runOn_bind_ok (runOn_set _), runOn_ofExcept]

/-- A line that the output can hold is put at its end. -/
theorem runOn_print {line : String} (held : canHoldLine console.canHold line = true) :
    (print line).runOn console =
      (.ok (), { console with printed := console.printed ++ [line] }) := by
  rw [print, runOn_get_bind, if_pos held]
  rfl

/-- A line that the output cannot hold stops the script, and nothing of it is printed. -/
theorem runOn_print_unheld {line : String} (unheld : canHoldLine console.canHold line = false) :
    (print line).runOn console = (.error (.unprintable line), console) := by
  rw [print, runOn_get_bind, if_neg (by rw [unheld]; decide)]
  rfl

end Script

/-- How far lines are printed: all of them, or those before the first that cannot be held. -/
inductive Prints (canHold : Char → Bool) (lines : List String) :
    Except CommandError Unit → List String → Prop
  | whole : (∀ line ∈ lines, canHoldLine canHold line = true) → Prints canHold lines (.ok ()) lines
  | cut {before rest : List String} {line : String} : lines = before ++ line :: rest →
    (∀ line ∈ before, canHoldLine canHold line = true) → canHoldLine canHold line = false →
      Prints canHold lines (.error (.unprintable line)) before

/-- Behind a line that is held, lines are printed as they would be by themselves. -/
theorem Prints.cons {canHold : Char → Bool} {line : String} {lines printed : List String}
    {result : Except CommandError Unit} (held : canHoldLine canHold line = true)
    (prints : Prints canHold lines result printed) :
    Prints canHold (line :: lines) result (line :: printed) := by
  -- The line joins those in front, and the place of the cut stays the same.
  cases prints with
  | whole each => exact .whole (List.forall_mem_cons.mpr ⟨held, each⟩)
  | cut split each unheld =>
    exact .cut (by rw [split, List.cons_append]) (List.forall_mem_cons.mpr ⟨held, each⟩) unheld

/-- Lines are printed one by one, up to the first that the output cannot hold. -/
theorem prints_printAll (lines : List String) (console : Console) :
    ∃ printed, Prints console.canHold lines ((printAll lines).runOn console).1 printed ∧
      ((printAll lines).runOn console).2 =
        { console with printed := console.printed ++ printed } := by
  -- The console is generalised, since every line that is printed changes it.
  induction lines generalizing console with
  | nil => exact ⟨[], .whole (by simp), by simp [printAll]⟩
  | cons line rest ih =>
    rw [printAll]
    cases held : canHoldLine console.canHold line with
    -- Nothing of a line that cannot be held is printed, and no line after it.
    | false =>
      rw [Script.runOn_bind_error (Script.runOn_print_unheld held)]
      exact ⟨[], .cut (List.nil_append _).symm (by simp) held, by simp⟩
    | true =>
      rw [Script.runOn_bind_ok (Script.runOn_print held)]
      obtain ⟨printed, prints, left⟩ := ih { console with printed := console.printed ++ [line] }
      exact ⟨line :: printed, prints.cons held, by rw [left]; simp⟩

/-- Lines printed in two parts are printed together. -/
theorem printAll_append (first second : List String) :
    printAll (first ++ second) = (do printAll first; printAll second) := by
  -- The lines of the first part are steps in front, so associativity is all that is needed.
  induction first with
  | nil => simp [printAll]
  | cons line rest ih => simp [printAll, ih]

/-- The documents under some names, read one after the other up to the first that is refused. -/
def Inputs.readAll (inputs : Inputs) : List String → Except InputError (List Value)
  | [] => .ok []
  | name :: rest => do
    let document ← (inputs.read name).1
    let documents ← (inputs.read name).2.readAll rest
    return document :: documents

section Reading

variable {inputs : Inputs} {names : List String} {cause : InputError}

/-- A document that is read is decoded data, and its numbers are short. -/
theorem Inputs.data_of_read {name : String} {document : Value}
    (read : (inputs.read name).1 = .ok document) :
    document.isRaw = true ∧ document.isWritable = true := by
  -- Both kinds of input end in the same reading of a text.
  have decoded : ∀ text, Inputs.document text = .ok document →
      document.isRaw = true ∧ document.isWritable = true := by
    intro text settled
    unfold Inputs.document at settled
    cases found : Json.read text <;> rw [found] at settled <;> cases settled
    exact ⟨Json.isRaw_read found, Json.isWritable_read found⟩
  unfold Inputs.read at read
  split at read
  · exact decoded _ read
  · obtain ⟨text, _, settled⟩ := bind_eq_ok.mp read
    exact decoded text settled

/-- All documents that are read are decoded data, and their numbers are short. -/
theorem Inputs.data_of_readAll {documents : List Value}
    (read : inputs.readAll names = .ok documents) :
    ∀ document ∈ documents, document.isRaw = true ∧ document.isWritable = true := by
  -- What is left of the inputs changes from name to name, so they are generalised.
  induction names generalizing inputs documents with
  | nil =>
    cases read
    simp
  | cons name rest ih =>
    obtain ⟨first, head, read⟩ := bind_eq_ok.mp read
    obtain ⟨others, tail, read⟩ := bind_eq_ok.mp read
    cases read
    exact List.forall_mem_cons.mpr ⟨Inputs.data_of_read head, ih tail⟩

/-- What no command expects of its inputs: a name that no file can have, or a file that is not in
UTF-8, or an integer of too many digits. -/
inductive InputError.Stops (files : Files) (names : List String) : InputError → Prop
  | unusableName {name : String} : name ∈ names → '\x00' ∈ name.toList →
    Stops files names (.unreadable (.unusableName (cleanName name)))
  | notText {name : String} {octets : ByteArray} : name ∈ names →
    files.bytesOf name = .ok octets → decodeText octets = none →
      Stops files names (.unreadable (.notText (cleanName name)))
  | longInteger : Stops files names (.undecoded (.numeral .tooManyDigits))

/-- An input is refused for a reason that is foreseen, or one that stops the program; otherwise it
holds half a character. -/
theorem Inputs.read_error {name : String} (listed : name ∈ names)
    (refused : (inputs.read name).1 = .error cause) :
    cause.isForeseen = true ∨ cause.Stops inputs.files names ∨
      cause = .undecoded .halfCharacter := by
  -- Both kinds of input end in the same reading of a text, which has three ways to fail.
  have undecoded : ∀ text, Inputs.document text = .error cause →
      cause.isForeseen = true ∨ cause.Stops inputs.files names ∨
        cause = .undecoded .halfCharacter := by
    intro text settled
    unfold Inputs.document at settled
    cases found : Json.read text <;> rw [found] at settled <;> cases settled
    cases Json.read_error found with
    | malformed => exact .inl rfl
    | numeral => exact .inr (.inl .longInteger)
    | halfCharacter => exact .inr (.inr rfl)
  unfold Inputs.read at refused
  split at refused
  · exact undecoded _ refused
  · -- A file may fail to give a text, or give one that is no document.
    rcases bind_eq_error.mp refused with closed | ⟨text, _, settled⟩
    · cases found : inputs.files.read name <;> rw [found] at closed <;> cases closed
      rcases Files.read_error found with foreseen | ⟨rfl, holds⟩ | ⟨rfl, octets, there, garbled⟩
      · exact .inl foreseen
      · exact .inr (.inl (.unusableName listed holds))
      · exact .inr (.inl (.notText listed there garbled))
    · exact undecoded text settled

/-- Reading takes nothing off the files. -/
theorem Inputs.files_read (inputs : Inputs) (name : String) :
    (inputs.read name).2.files = inputs.files := by
  -- Only the standard input is used up.
  unfold Inputs.read
  split <;> rfl

/-- Documents that are refused have one among them that is, with the same files around. -/
theorem Inputs.readAll_error (refused : inputs.readAll names = .error cause) :
    ∃ name ∈ names, ∃ left : Inputs, left.files = inputs.files ∧
      (left.read name).1 = .error cause := by
  -- The first name that is refused ends the reading, and those before it only use up the input.
  induction names generalizing inputs with
  | nil => cases refused
  | cons name rest ih =>
    rcases bind_eq_error.mp refused with here | ⟨document, -, refused⟩
    · exact ⟨name, List.mem_cons_self, inputs, rfl, here⟩
    rcases bind_eq_error.mp refused with later | ⟨documents, -, refused⟩
    · obtain ⟨other, listed, left, same, told⟩ := ih later
      exact ⟨other, List.mem_cons_of_mem name listed, left,
        same.trans (inputs.files_read name), told⟩
    · cases refused

/-- A single document is read as it is by itself. -/
theorem Inputs.readAll_singleton (inputs : Inputs) (name : String) :
    inputs.readAll [name] = (fun document => [document]) <$> (inputs.read name).1 := by
  -- There is nothing to be read after the document.
  cases read : (inputs.read name).1 <;> simp [Inputs.readAll, read] <;> rfl

/-- Of two documents the second is read from what the first has left. -/
theorem Inputs.readAll_pair (inputs : Inputs) (first second : String) :
    inputs.readAll [first, second] = (inputs.read first).1 >>= fun tree =>
      (fun document => [tree, document]) <$> ((inputs.read first).2.read second).1 := by
  -- The first reading is common to both sides, so only the second is looked at.
  rw [Inputs.readAll, Inputs.readAll_singleton]
  cases ((inputs.read first).2.read second).1 <;> rfl

end Reading

section Running

variable {α : Type} {console : Console}

/-- A script that begins with a document that is read goes on with it. -/
theorem runOn_of_read {name : String} {document : Value} {next : Value → Script α}
    (read : (console.inputs.read name).1 = .ok document) :
    (readDocument name >>= next).runOn console =
      (next document).runOn { console with inputs := (console.inputs.read name).2 } := by
  refine Script.runOn_bind_ok ?_
  rw [Script.runOn_readDocument, read]
  rfl

/-- A script that begins with a document that is refused goes no further. -/
theorem runOn_of_refused {name : String} {cause : InputError} {next : Value → Script α}
    (refused : (console.inputs.read name).1 = .error cause) :
    (readDocument name >>= next).runOn console =
      (.error (.input cause), { console with inputs := (console.inputs.read name).2 }) := by
  refine Script.runOn_bind_error ?_
  rw [Script.runOn_readDocument, refused]
  rfl

/-- A script that begins with two documents that are read goes on with both. -/
theorem runOn_of_readPair {first second : String} {tree document : Value}
    {next : Value → Value → Script α} (head : (console.inputs.read first).1 = .ok tree)
    (tail : ((console.inputs.read first).2.read second).1 = .ok document) :
    (do
      let tree ← readDocument first
      let document ← readDocument second
      next tree document).runOn console =
        (next tree document).runOn
          { console with inputs := ((console.inputs.read first).2.read second).2 } := by
  -- The second document is read at the console that the first one left.
  let left : Console := { console with inputs := (console.inputs.read first).2 }
  have later : (left.inputs.read second).1 = .ok document := tail
  rw [runOn_of_read head]
  exact runOn_of_read later

end Running

end DeliveryRules.CommandLine
