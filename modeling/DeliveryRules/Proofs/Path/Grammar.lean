import DeliveryRules.Path.Segment
import DeliveryRules.Proofs.Path.Lexeme
import DeliveryRules.Proofs.Text.Numeral

/-! Well-formed paths are the spellings of steps, and each of them spells one list of steps only. -/

namespace DeliveryRules

/-- A step of a path as it is written: a key, an index with its digits, or an empty bracket pair. -/
inductive PathStep
  | key (letters : List Char) (filled : letters ≠ [])
      (plain : ∀ c ∈ letters, isKeyChar c = true)
  -- The digits may be of any script, and there may be zeros in front of them.
  | index (digits : List Char) (filled : digits ≠ [])
      (decimal : ∀ c ∈ digits, isDecimalDigit c = true)
  | wildcard

namespace PathStep

/-- A step as it is written, without the dot that may have to stand before it. -/
def written : PathStep → List Char
  | key letters _ _ => letters
  | index digits _ _ => '[' :: (digits ++ [']'])
  | wildcard => ['[', ']']

/-- What stands between a step and the one before it. -/
def separator : PathStep → List Char
  | key .. => ['.']
  -- A bracket pair follows directly on whatever stands before it.
  | _ => []

/-- A step as it is written after another one. -/
def writtenLater (step : PathStep) : List Char := step.separator ++ step.written

/-- The segment that a step stands for. -/
def segment : PathStep → Segment
  | key letters _ _ => .key (String.ofList letters)
  | index digits _ _ => .index (digitsValue digits)
  | wildcard => .wildcard

/-- Whether the digits of a step, if there are any, are few enough to be read as a number. -/
def isShort : PathStep → Bool
  | index digits _ _ => digits.length ≤ digitLimit
  | _ => true

end PathStep

/-- Steps as they are written one after another: a dot stands before each key but a first one. -/
def spelled : List PathStep → List Char
  | [] => []
  | first :: later => first.written ++ later.flatMap PathStep.writtenLater

/-- The path that some steps spell. -/
def pathOf (steps : List PathStep) : String := String.ofList (spelled steps)

/-- Only the empty list of steps spells nothing. -/
theorem spelled_eq_nil {steps : List PathStep} : spelled steps = [] ↔ steps = [] := by
  -- Every step is written with at least one character.
  cases steps with
  | nil => simp [spelled]
  | cons first later => cases first <;> simp_all [spelled, PathStep.written]

/-- Steps after others are written as they are after another step. -/
theorem spelled_append {steps : List PathStep} (filled : steps ≠ []) (others : List PathStep) :
    spelled (steps ++ others) = spelled steps ++ others.flatMap PathStep.writtenLater := by
  cases steps with
  | nil => exact absurd rfl filled
  | cons first later => simp [spelled]

/-- Whether a dot would stand before a first step shows in the first character that it has. -/
theorem separator_eq (first : PathStep) (later : List PathStep) :
    first.separator = if (spelled (first :: later)).head? = some '[' then [] else ['.'] := by
  cases first with
  | key letters filled plain =>
    cases letters with
    | nil => exact absurd rfl filled
    | cons c rest =>
      -- No key begins with a bracket, for no key holds one.
      have other : c ≠ '[' := by
        rintro rfl
        exact absurd (plain '[' (by simp)) (by decide)
      simp [spelled, PathStep.written, PathStep.separator, other]
  | index digits filled decimal => simp [spelled, PathStep.written, PathStep.separator]
  | wildcard => simp [spelled, PathStep.written, PathStep.separator]

section Pieces

namespace PathStep

/-- The pieces of a step as it is written. -/
def lexemes : PathStep → List Lexeme
  | key letters _ _ => letters.map .char
  | index digits _ _ => [.bracket digits]
  | wildcard => [.bracket []]

/-- The pieces of a step as it is written after another one. -/
def laterLexemes (step : PathStep) : List Lexeme := step.separator.map .char ++ step.lexemes

/-- Whether a step is a bracket pair with some digits in it, of which a wildcard has none. -/
structure IsBracket (step : PathStep) (digits : List Char) : Prop where
  decimal : ∀ c ∈ digits, isDecimalDigit c = true
  separator : step.separator = []
  written : step.written = (Lexeme.bracket digits).written
  lexemes : step.lexemes = [.bracket digits]
  segment : step.segment = bracketSegment digits
  isShort : step.isShort = (Lexeme.bracket digits).isShort

/-- An index is a bracket pair with its digits in it. -/
theorem isBracket_index {digits : List Char} (filled : digits ≠ [])
    (decimal : ∀ c ∈ digits, isDecimalDigit c = true) :
    (index digits filled decimal).IsBracket digits := by
  have segment : .index (digitsValue digits) = bracketSegment digits := by
    rw [bracketSegment, if_neg (by simpa using filled)]
  exact ⟨decimal, rfl, rfl, rfl, segment, rfl⟩

/-- A wildcard is a bracket pair with nothing in it. -/
theorem isBracket_wildcard : wildcard.IsBracket [] :=
  ⟨by simp, rfl, rfl, rfl, rfl, rfl⟩

/-- A bracket pair with digits or nothing in it is a step. -/
theorem exists_isBracket {digits : List Char} (decimal : ∀ c ∈ digits, isDecimalDigit c = true) :
    ∃ step : PathStep, step.IsBracket digits := by
  -- The digits decide which of the two kinds of pairs it is.
  by_cases filled : digits = []
  · subst filled
    exact ⟨.wildcard, isBracket_wildcard⟩
  · exact ⟨.index digits filled decimal, isBracket_index filled decimal⟩

/-- A step is a key or a bracket pair, indexes and wildcards being read alike. -/
@[elab_as_elim]
theorem key_or_bracket {motive : PathStep → Prop}
    (key : ∀ letters filled plain, motive (.key letters filled plain))
    (bracket : ∀ step digits, IsBracket step digits → motive step) (step : PathStep) :
    motive step := by
  cases step with
  | key letters filled plain => exact key letters filled plain
  | index digits filled decimal => exact bracket _ digits (isBracket_index filled decimal)
  | wildcard => exact bracket _ [] isBracket_wildcard

namespace IsBracket

variable {step : PathStep} {digits : List Char} (paired : step.IsBracket digits)

include paired

/-- A bracket pair is written after another step as it is at the start. -/
theorem writtenLater : step.writtenLater = (Lexeme.bracket digits).written := by
  rw [PathStep.writtenLater, paired.separator, paired.written, List.nil_append]

/-- A bracket pair is one piece, after another step too. -/
theorem laterLexemes : step.laterLexemes = [.bracket digits] := by
  rw [PathStep.laterLexemes, paired.separator, paired.lexemes, List.map_nil, List.nil_append]

end IsBracket

/-- No opening bracket can be part of a key. -/
theorem opening_notMem {letters : List Char} (plain : ∀ c ∈ letters, isKeyChar c = true) :
    '[' ∉ letters :=
  fun member => absurd (plain '[' member) (by decide)

/-- A step is scanned as a whole, whatever follows it. -/
theorem scan_written (step : PathStep) (rest : List Char) :
    Lexeme.scan (step.written ++ rest) = step.lexemes ++ Lexeme.scan rest := by
  -- A key is scanned character by character, and a bracket pair as one piece.
  cases step using key_or_bracket with
  | key letters filled plain => exact Lexeme.scan_plain rest (opening_notMem plain)
  | bracket step digits paired =>
    rw [paired.written, paired.lexemes, Lexeme.written, List.cons_append, List.append_assoc]
    exact Lexeme.scan_bracket rest paired.decimal

/-- A step after another one is scanned as a whole, with the dot that may stand before it. -/
theorem scan_writtenLater (step : PathStep) (rest : List Char) :
    Lexeme.scan (step.writtenLater ++ rest) = step.laterLexemes ++ Lexeme.scan rest := by
  -- The dot opens no bracket, so it is a piece of its own.
  have plain : '[' ∉ step.separator := by cases step <;> simp [separator]
  rw [writtenLater, List.append_assoc, Lexeme.scan_plain _ plain, scan_written, laterLexemes,
    List.append_assoc]

end PathStep

/-- The pieces of some steps as they are written one after another. -/
def spelledLexemes : List PathStep → List Lexeme
  | [] => []
  | first :: later => first.lexemes ++ later.flatMap PathStep.laterLexemes

/-- Steps are scanned one after another. -/
theorem scan_spelled (steps : List PathStep) :
    Lexeme.scan (spelled steps) = spelledLexemes steps := by
  -- No step leaves a bracket open, so what comes after it is scanned as if it stood alone.
  have following : ∀ later : List PathStep,
      Lexeme.scan (later.flatMap PathStep.writtenLater) =
        later.flatMap PathStep.laterLexemes := by
    intro later
    induction later with
    | nil => rfl
    | cons next rest ih => rw [List.flatMap_cons, PathStep.scan_writtenLater, ih, List.flatMap_cons]
  cases steps with
  | nil => rfl
  | cons first later => rw [spelled, PathStep.scan_written, following, spelledLexemes]

end Pieces

section Acceptance

namespace PathState

/-- A key goes on as long as there are characters for it. -/
theorem foldl_inKey {letters : List Char} (keys : ∀ c ∈ letters, isKeyChar c = true) :
    (letters.map Lexeme.char).foldl next .inKey = .inKey := by
  -- Every character of a key leads back to the state it was read in.
  induction letters with
  | nil => rfl
  | cons c rest ih =>
    have here : next .inKey (.char c) = .inKey := by simp [next, keys c]
    rw [List.map_cons, List.foldl_cons, here]
    exact ih fun other member => keys other (List.mem_cons_of_mem c member)

/-- A key is read wherever one may begin. -/
theorem foldl_key {letters : List Char} {state : PathState} (filled : letters ≠ [])
    (keys : ∀ c ∈ letters, isKeyChar c = true) (fresh : state = .start ∨ state = .afterDot) :
    (letters.map Lexeme.char).foldl next state = .inKey := by
  -- The first character begins the key, and the others go on with it.
  cases letters with
  | nil => exact absurd rfl filled
  | cons c rest =>
    have begun : next state (.char c) = .inKey := by
      rcases fresh with rfl | rfl <;> simp [next, keys c]
    rw [List.map_cons, List.foldl_cons, begun]
    exact foldl_inKey fun other member => keys other (List.mem_cons_of_mem c member)

/-- A state in which a path may end after a step. -/
def IsAfterStep (state : PathState) : Prop := state = .inKey ∨ state = .afterBracket

/-- A path may end after a step. -/
theorem IsAfterStep.accepts {state : PathState} (after : state.IsAfterStep) :
    state.accepts = true := by
  rcases after with rfl | rfl <;> rfl

/-- A first step is read to its end. -/
theorem foldl_lexemes (step : PathStep) : IsAfterStep (step.lexemes.foldl next .start) := by
  -- A first step ends in a key or behind a bracket.
  cases step using PathStep.key_or_bracket with
  | key letters filled plain => exact .inl (foldl_key filled plain (.inl rfl))
  | bracket step digits paired =>
    rw [paired.lexemes]
    exact .inr rfl

/-- A further step is read to its end. -/
theorem foldl_laterLexemes {state : PathState} (after : state.IsAfterStep) (step : PathStep) :
    IsAfterStep (step.laterLexemes.foldl next state) := by
  -- A key comes behind a dot, and a bracket pair behind anything.
  cases step using PathStep.key_or_bracket with
  | key letters filled plain =>
    -- The dot leaves the reading where a key has to begin.
    have dot : next state (.char '.') = .afterDot := by
      rcases after with rfl | rfl <;> rfl
    refine .inl ?_
    show (letters.map Lexeme.char).foldl next (next state (.char '.')) = .inKey
    rw [dot]
    exact foldl_key filled plain (.inr rfl)
  | bracket step digits paired =>
    rw [paired.laterLexemes]
    rcases after with rfl | rfl <;> exact .inr rfl

/-- What is still to come where the reading of a path goes on to accept it. -/
def Expects (state : PathState) (letters : List Char) : Prop :=
  match state with
  | .start => ∃ steps, letters = spelled steps
  | .inKey => ∃ (others : List Char) (later : List PathStep),
      (∀ c ∈ others, isKeyChar c = true) ∧
        letters = others ++ later.flatMap PathStep.writtenLater
  | .afterBracket => ∃ later : List PathStep, letters = later.flatMap PathStep.writtenLater
  | .afterDot => ∃ (others : List Char) (later : List PathStep),
      others ≠ [] ∧ (∀ c ∈ others, isKeyChar c = true) ∧
        letters = others ++ later.flatMap PathStep.writtenLater
  | .broken => False

section Expectation

variable {state : PathState} {letters : List Char}

/-- A bracket pair is expected where what follows it is expected once the pair was read. -/
theorem expects_bracket {digits : List Char} (decimal : ∀ c ∈ digits, isDecimalDigit c = true)
    (follows : (state.next (.bracket digits)).Expects letters) :
    state.Expects ((Lexeme.bracket digits).written ++ letters) := by
  -- The pair is a step of its own, with no dot before it.
  obtain ⟨step, paired⟩ := PathStep.exists_isBracket decimal
  cases state with
  | start =>
    obtain ⟨later, rfl⟩ := follows
    exact ⟨step :: later, by rw [spelled, paired.written]⟩
  | inKey =>
    -- The key is over, so nothing of it is still to come.
    obtain ⟨later, rfl⟩ := follows
    refine ⟨[], step :: later, by simp, ?_⟩
    rw [List.flatMap_cons, paired.writtenLater, List.nil_append]
  | afterBracket =>
    obtain ⟨later, rfl⟩ := follows
    exact ⟨step :: later, by rw [List.flatMap_cons, paired.writtenLater]⟩
  | afterDot | broken => exact follows.elim

/-- A character is expected where what follows it is expected once it was read. -/
theorem expects_char {c : Char} (follows : (state.next (.char c)).Expects letters) :
    state.Expects (c :: letters) := by
  -- In each state only some characters lead on, and each of them says what is to come.
  cases state with
  | start =>
    simp only [next] at follows
    split_ifs at follows with plain
    · -- The first step is a key, and this is the first character of it.
      obtain ⟨others, later, known, rfl⟩ := follows
      have keys : ∀ x ∈ c :: others, isKeyChar x = true := by simpa using ⟨plain, known⟩
      exact ⟨.key (c :: others) (by simp) keys :: later, rfl⟩
    · exact follows.elim
  | inKey =>
    simp only [next] at follows
    split_ifs at follows with plain dot
    · obtain ⟨others, later, known, rfl⟩ := follows
      exact ⟨c :: others, later, by simpa using ⟨plain, known⟩, rfl⟩
    · -- The key is over, and the dot is the one before the next key.
      obtain ⟨others, later, filled, known, rfl⟩ := follows
      exact ⟨[], .key others filled known :: later, by simp, by rw [dot]; rfl⟩
    · exact follows.elim
  | afterBracket =>
    simp only [next] at follows
    split_ifs at follows with dot
    · obtain ⟨others, later, filled, known, rfl⟩ := follows
      exact ⟨.key others filled known :: later, by rw [dot]; rfl⟩
    · exact follows.elim
  | afterDot =>
    simp only [next] at follows
    split_ifs at follows with plain
    · -- After the dot there is a key, so it has at least this character.
      obtain ⟨others, later, known, rfl⟩ := follows
      exact ⟨c :: others, later, by simp, by simpa using ⟨plain, known⟩, rfl⟩
    · exact follows.elim
  | broken => exact follows.elim

end Expectation

/-- What is read to its end and accepted is what was expected. -/
theorem expects_of_accepts (state : PathState) (lexemes : List Lexeme)
    (decimal : ∀ digits, .bracket digits ∈ lexemes → ∀ c ∈ digits, isDecimalDigit c = true)
    (accepted : (lexemes.foldl next state).accepts = true) :
    state.Expects (lexemes.flatMap Lexeme.written) := by
  -- Each piece is put in front of what the state after it expects of the others.
  induction lexemes generalizing state with
  | nil =>
    cases state with
    | start => exact ⟨[], rfl⟩
    | inKey => exact ⟨[], [], by simp, rfl⟩
    | afterBracket => exact ⟨[], rfl⟩
    | afterDot | broken => cases accepted
  | cons lexeme rest ih =>
    have later : ∀ digits, .bracket digits ∈ rest → ∀ c ∈ digits, isDecimalDigit c = true :=
      fun digits member => decimal digits (List.mem_cons_of_mem lexeme member)
    have follows := ih (state.next lexeme) later accepted
    cases lexeme with
    | bracket digits => exact expects_bracket (decimal digits (by simp)) follows
    | char c => exact expects_char follows

end PathState

/-- What steps spell is well formed. -/
theorem isWellFormedPath_pathOf (steps : List PathStep) :
    isWellFormedPath (pathOf steps) = true := by
  -- Each further step begins and ends where a path may end.
  have following : ∀ (later : List PathStep) (state : PathState), state.IsAfterStep →
      ((later.flatMap PathStep.laterLexemes).foldl PathState.next state).IsAfterStep := by
    intro later
    induction later with
    | nil => exact fun state after => after
    | cons step rest ih =>
      intro state after
      rw [List.flatMap_cons, List.foldl_append]
      exact ih _ (PathState.foldl_laterLexemes after step)
  rw [isWellFormedPath, pathOf, String.toList_ofList, scan_spelled]
  cases steps with
  | nil => rfl
  | cons first later =>
    -- The first step leaves the reading there, and the others keep it there.
    rw [spelledLexemes, List.foldl_append]
    exact (following later _ (PathState.foldl_lexemes first)).accepts

/-- What is well formed is spelled by some steps. -/
theorem exists_steps {path : String} (wellFormed : isWellFormedPath path = true) :
    ∃ steps, path = pathOf steps := by
  obtain ⟨steps, same⟩ := PathState.expects_of_accepts .start (Lexeme.scan path.toList)
    (fun digits => Lexeme.decimal_of_scan) wellFormed
  -- The pieces of a path are written as the path itself.
  rw [Lexeme.written_scan] at same
  exact ⟨steps, by rw [pathOf, ← same, String.ofList_toList]⟩

end Acceptance

section Splitting

/-- The characters of a key are gathered, the last of them in front. -/
theorem segmentsFrom_letters {letters : List Char} (pending : List Char) (rest : List Lexeme)
    (plain : ∀ c ∈ letters, isKeyChar c = true) :
    segmentsFrom pending (letters.map .char ++ rest) =
      segmentsFrom (letters.reverse ++ pending) rest := by
  -- What is gathered grows, so it has to be any list of characters for the induction.
  induction letters generalizing pending with
  | nil => rfl
  | cons c others ih =>
    have tail : ∀ c ∈ others, isKeyChar c = true :=
      fun other member => plain other (List.mem_cons_of_mem c member)
    rw [List.map_cons, List.cons_append, segmentsFrom, if_pos (plain c (by simp)), ih _ tail]
    simp

/-- The characters that were gathered are a key. -/
theorem pendingKey_reverse {letters : List Char} (filled : letters ≠ []) :
    pendingKey letters.reverse = [.key (String.ofList letters)] := by
  simp [pendingKey, filled]

/-- Steps after others are cut into their segments, after the key that they end. -/
theorem segmentsFrom_later (pending : List Char) (later : List PathStep) :
    segmentsFrom pending (later.flatMap PathStep.laterLexemes) =
      pendingKey pending ++ later.map PathStep.segment := by
  -- The key before the steps is generalised, since it ends at the first of them.
  induction later generalizing pending with
  | nil => simp [segmentsFrom]
  | cons step rest ih =>
    rw [List.flatMap_cons, List.map_cons]
    cases step using PathStep.key_or_bracket with
    | key letters filled plain =>
      -- The dot ends the key before it, and this one goes on until something else ends it.
      show segmentsFrom pending (.char '.' :: (letters.map .char ++ _)) = _
      rw [segmentsFrom, if_neg (by decide), segmentsFrom_letters [] _ plain, List.append_nil, ih,
        pendingKey_reverse filled]
      rfl
    | bracket step digits paired =>
      -- The pair ends the key before it, and leaves nothing to be gathered.
      rw [paired.laterLexemes, paired.segment, List.singleton_append, segmentsFrom, ih]
      rfl

/-- What steps spell is cut into the segments that they stand for. -/
theorem segmentsOf_pathOf (steps : List PathStep) :
    segmentsOf (pathOf steps) = steps.map PathStep.segment := by
  -- The path is scanned into the pieces of its steps, which are then cut step by step.
  rw [segmentsOf, pathOf, String.toList_ofList, scan_spelled]
  cases steps with
  | nil => rfl
  | cons first later =>
    rw [spelledLexemes, List.map_cons]
    cases first using PathStep.key_or_bracket with
    | key letters filled plain =>
      -- Nothing was gathered before the first key, which goes on up to the next step.
      rw [PathStep.lexemes, segmentsFrom_letters [] _ plain, List.append_nil, segmentsFrom_later,
        pendingKey_reverse filled]
      rfl
    | bracket step digits paired =>
      rw [paired.lexemes, paired.segment, List.singleton_append, segmentsFrom, segmentsFrom_later]
      rfl

namespace PathStep

/-- The pieces of a step are short exactly if the step is. -/
theorem all_isShort_lexemes (step : PathStep) : step.lexemes.all Lexeme.isShort = step.isShort := by
  -- Only a bracket pair has digits, and it is a single piece.
  cases step using key_or_bracket with
  | key letters filled plain => simp [lexemes, Lexeme.isShort, isShort]
  | bracket step digits paired => rw [paired.lexemes, paired.isShort, List.all_cons, List.all_nil,
      Bool.and_true]

/-- The dot that may stand before a step has no digits. -/
theorem all_isShort_laterLexemes (step : PathStep) :
    step.laterLexemes.all Lexeme.isShort = step.isShort := by
  rw [laterLexemes, List.all_append, all_isShort_lexemes]
  cases step <;> simp [separator, Lexeme.isShort]

end PathStep

/-- The indexes of what steps spell are those of the steps. -/
theorem hasShortIndexes_pathOf (steps : List PathStep) :
    hasShortIndexes (pathOf steps) = steps.all PathStep.isShort := by
  -- The pieces of the path are those of the steps, and the dots add nothing.
  rw [hasShortIndexes, pathOf, String.toList_ofList, scan_spelled]
  cases steps with
  | nil => rfl
  | cons first later =>
    rw [spelledLexemes, List.all_append, PathStep.all_isShort_lexemes, List.all_flatMap,
      List.all_cons]
    simp only [PathStep.all_isShort_laterLexemes]

/-- What steps spell is cut into their segments, unless an index of theirs is too long. -/
theorem splitPath_pathOf (steps : List PathStep) :
    splitPath (pathOf steps) =
      NumeralError.guard (steps.all PathStep.isShort) (steps.map PathStep.segment) := by
  rw [splitPath, hasShortIndexes_pathOf, segmentsOf_pathOf]

/-- An index with one digit more than can be read. -/
def PathStep.tooLong : PathStep :=
  .index (List.replicate (digitLimit + 1) '1') (by simp) fun c member => by
    rw [List.eq_of_mem_replicate member]
    decide

/-- An index that is too long cannot be read. -/
theorem PathStep.isShort_tooLong : PathStep.tooLong.isShort = false := by
  rw [tooLong, isShort, List.length_replicate]
  decide

end Splitting

section Uniqueness

/-- Whether a piece can be part of a key. -/
def Lexeme.isKeyPart : Lexeme → Bool
  | .char c => isKeyChar c
  | .bracket _ => false

/-- A key before further steps can be told from them. -/
theorem takeWhile_key {letters : List Char} (plain : ∀ c ∈ letters, isKeyChar c = true)
    (later : List PathStep) :
    (letters.map Lexeme.char ++ later.flatMap PathStep.laterLexemes).takeWhile Lexeme.isKeyPart =
      letters.map .char := by
  -- The dot or the bracket pair that comes next is no part of a key.
  have ended : (later.flatMap PathStep.laterLexemes).takeWhile Lexeme.isKeyPart = [] := by
    cases later with
    | nil => rfl
    | cons step rest => cases step <;> rfl
  rw [List.takeWhile_append_of_pos, ended, List.append_nil]
  intro piece member
  obtain ⟨c, listed, rfl⟩ := List.mem_map.mp member
  exact plain c listed

/-- Two keys before further steps are the same if their pieces are, and so are those after them. -/
theorem key_unique {letters others : List Char} {later rest : List PathStep}
    (plain : ∀ c ∈ letters, isKeyChar c = true) (plain' : ∀ c ∈ others, isKeyChar c = true)
    (same : letters.map Lexeme.char ++ later.flatMap PathStep.laterLexemes =
      others.map .char ++ rest.flatMap PathStep.laterLexemes) :
    letters = others ∧
      later.flatMap PathStep.laterLexemes = rest.flatMap PathStep.laterLexemes := by
  -- Both keys are what can be taken of the same pieces for a key.
  have keys := congrArg (List.takeWhile Lexeme.isKeyPart) same
  rw [takeWhile_key plain, takeWhile_key plain'] at keys
  rw [keys, List.append_cancel_left_eq] at same
  have injective : Function.Injective Lexeme.char := fun _ _ equal => Lexeme.char.inj equal
  exact ⟨injective.list_map keys, same⟩

/-- One step only is a bracket pair with the digits that it has. -/
theorem PathStep.IsBracket.unique {step other : PathStep} {digits : List Char}
    (paired : step.IsBracket digits) (paired' : other.IsBracket digits) : step = other := by
  -- The kind of the step is told by whether there are digits.
  have here := paired.separator
  have there := paired'.separator
  have same := paired.lexemes.trans paired'.lexemes.symm
  cases step <;> cases other <;> simp_all [PathStep.separator, PathStep.lexemes]

/-- Further steps can be told from their pieces. -/
theorem laterLexemes_unique {later others : List PathStep}
    (same : later.flatMap PathStep.laterLexemes = others.flatMap PathStep.laterLexemes) :
    later = others := by
  -- Every step has pieces, so none of the two lists ends before the other.
  have filled : ∀ step : PathStep, step.laterLexemes ≠ [] := by
    intro step
    cases step <;> simp [PathStep.laterLexemes, PathStep.separator, PathStep.lexemes]
  -- Both lists are taken apart step by step, the other one being generalised.
  induction later generalizing others with
  | nil =>
    cases others with
    | nil => rfl
    | cons other rest => simp [filled other] at same
  | cons step later ih =>
    cases others with
    | nil => simp [filled step] at same
    | cons other rest =>
      rw [List.flatMap_cons, List.flatMap_cons] at same
      cases step using PathStep.key_or_bracket with
      | key letters full plain =>
        cases other using PathStep.key_or_bracket with
        | key letters' full' plain' =>
          -- Behind the dots the two keys are the same, and so is what follows them.
          obtain ⟨rfl, following⟩ := key_unique plain plain' (List.cons.inj same).2
          rw [ih following]
        | bracket other digits paired =>
          -- A dot is no bracket pair.
          rw [paired.laterLexemes] at same
          cases (List.cons.inj same).1
      | bracket step digits paired =>
        cases other using PathStep.key_or_bracket with
        | key letters full plain =>
          rw [paired.laterLexemes] at same
          cases (List.cons.inj same).1
        | bracket other digits' paired' =>
          -- The first pieces are the pairs, with their digits.
          rw [paired.laterLexemes, paired'.laterLexemes] at same
          obtain ⟨pair, following⟩ := List.cons.inj same
          cases pair
          rw [paired.unique paired', ih following]

/-- The pieces of steps after another one begin with what stands before the first of them. -/
theorem separator_spelledLexemes (first : PathStep) (later : List PathStep) :
    (first :: later).flatMap PathStep.laterLexemes =
      first.separator.map .char ++ spelledLexemes (first :: later) := by
  rw [List.flatMap_cons, PathStep.laterLexemes, spelledLexemes, List.append_assoc]

/-- Steps can be told from what they spell. -/
theorem pathOf_injective : Function.Injective pathOf := by
  intro steps others same
  have letters : spelled steps = spelled others := by
    simpa [pathOf] using congrArg String.toList same
  have pieces : spelledLexemes steps = spelledLexemes others := by
    rw [← scan_spelled, ← scan_spelled, letters]
  -- A list of steps that spells something is not empty, so none of the two is empty alone.
  cases steps with
  | nil => exact (spelled_eq_nil.mp letters.symm).symm
  | cons first later =>
    cases others with
    | nil => exact spelled_eq_nil.mp letters
    | cons first' later' =>
      -- With a dot put before both or before none, they are as after another step.
      have separators : first.separator = first'.separator := by
        rw [separator_eq first later, separator_eq first' later', letters]
      apply laterLexemes_unique
      rw [separator_spelledLexemes, separator_spelledLexemes, separators, pieces]

end Uniqueness

/--
A path is well formed exactly if it is empty, or the spelling of some steps.

What steps spell is cut into their segments, if their indexes are short, and no other steps spell
it. So each well-formed path is spelled by exactly one list of steps, and nothing of it is passed
over when it is cut.
-/
theorem wellFormedPaths_spelled :
    (∀ path : String, isWellFormedPath path = true ↔
      path = "" ∨ ∃ steps, steps ≠ [] ∧ path = pathOf steps) ∧
    (∀ steps : List PathStep, splitPath (pathOf steps) =
      NumeralError.guard (steps.all PathStep.isShort) (steps.map PathStep.segment)) ∧
    Function.Injective pathOf ∧
    (∀ path : String, isWellFormedPath path = true ↔
      ∃! steps, path = pathOf steps ∧ splitPath path =
        NumeralError.guard (steps.all PathStep.isShort) (steps.map PathStep.segment)) := by
  refine ⟨fun path => ⟨fun wellFormed => ?_, ?_⟩, splitPath_pathOf, pathOf_injective,
    fun path => ⟨fun wellFormed => ?_, ?_⟩⟩
  · -- Without steps the path is empty.
    obtain ⟨steps, rfl⟩ := exists_steps wellFormed
    by_cases filled : steps = []
    · subst filled
      exact .inl rfl
    · exact .inr ⟨steps, filled, rfl⟩
  · rintro (rfl | ⟨steps, _, rfl⟩)
    · rfl
    · exact isWellFormedPath_pathOf steps
  · -- There are steps that spell the path, and no others do.
    obtain ⟨steps, rfl⟩ := exists_steps wellFormed
    exact ⟨steps, ⟨rfl, splitPath_pathOf steps⟩, fun others spelling =>
      pathOf_injective spelling.1.symm⟩
  · rintro ⟨steps, ⟨rfl, _⟩, _⟩
    exact isWellFormedPath_pathOf steps

end DeliveryRules
