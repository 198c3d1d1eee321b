import DeliveryRules.Catalog.DeclaredPath
import DeliveryRules.Proofs.Path.Grammar

/-! Dotted names with bare bracket pairs are well-formed paths, normal, and without an index. -/

namespace DeliveryRules

/-- A part of a dotted path: a name, and the number of bracket pairs that follow it. -/
structure DottedPart where
  first : Char
  others : List Char
  pairs : Nat
  starts : isNameStart first = true
  continues : ∀ c ∈ others, isNameChar c = true

/-- Bracket pairs with nothing in them. -/
def barePairs (count : Nat) : List Char := (List.replicate count ['[', ']']).flatten

namespace DottedPart

/-- The name that a part begins with. -/
def name (part : DottedPart) : List Char := part.first :: part.others

/-- A part as it is written. -/
def written (part : DottedPart) : List Char := part.name ++ barePairs part.pairs

/-- The pieces that a part is made of. -/
def lexemes (part : DottedPart) : List Lexeme :=
  part.name.map .char ++ List.replicate part.pairs (.bracket [])

end DottedPart

/-- Parts as a path, with a dot before each of them but the first. -/
def dotted (parts : List DottedPart) : List Char :=
  ['.'].intercalate (parts.map DottedPart.written)

/-- The parts after the first as they are written, each with its dot. -/
def dottedRest (later : List DottedPart) : List Char :=
  later.flatMap fun part => '.' :: part.written

/-- A dotted path is its first part, and then the others with their dots. -/
theorem dotted_cons (part : DottedPart) (later : List DottedPart) :
    dotted (part :: later) = part.written ++ dottedRest later := by
  -- The dots stand between the parts on one side, and before each later part on the other.
  induction later generalizing part with
  | nil => simp [dotted, dottedRest]
  | cons next rest ih =>
    have tail := ih next
    simp only [dotted, List.map_cons] at tail
    simp only [dotted, dottedRest, List.map_cons, List.flatMap_cons, List.intercalate_cons_cons]
    rw [tail]
    simp [dottedRest]

/-- A character of a name can be part of a key. -/
theorem isKeyChar_of_isNameChar {c : Char} (continues : isNameChar c = true) :
    isKeyChar c = true := by
  -- The three characters that no key can hold are in no name either.
  have dot : c ≠ '.' := by
    rintro rfl
    exact absurd continues (by decide)
  have opening : c ≠ '[' := by
    rintro rfl
    exact absurd continues (by decide)
  have closing : c ≠ ']' := by
    rintro rfl
    exact absurd continues (by decide)
  simp [isKeyChar, dot, opening, closing]

namespace Lexeme

/-- Each bare pair is a piece. -/
theorem scan_barePairs (count : Nat) (rest : List Char) :
    scan (barePairs count ++ rest) = List.replicate count (.bracket []) ++ scan rest := by
  -- Each pair opens and closes at once, so nothing is pending before the next.
  induction count with
  | zero => rfl
  | succ count ih =>
    show bracket [] :: scan (barePairs count ++ rest) = _
    rw [ih]
    rfl

end Lexeme

namespace PathState

/-- Bracket pairs may follow each other. -/
theorem foldl_afterBracket (count : Nat) :
    (List.replicate count (Lexeme.bracket [])).foldl next .afterBracket = .afterBracket := by
  induction count with
  | zero => rfl
  | succ count ih => exact ih

end PathState

namespace DottedPart

variable (part : DottedPart)

/-- Every character of the name of a part can be part of a key. -/
theorem isKeyChar_of_mem_name {c : Char} (member : c ∈ part.name) : isKeyChar c = true := by
  -- The first character of a name is one that others of it may be too.
  apply isKeyChar_of_isNameChar
  rcases List.mem_cons.mp member with rfl | later
  · simp [isNameChar, part.starts]
  · exact part.continues c later

/-- The pieces of a part that others may follow. -/
theorem scan_written (rest : List Char) :
    Lexeme.scan (part.written ++ rest) = part.lexemes ++ Lexeme.scan rest := by
  -- Brackets are no characters of a name, so the first of them comes after it.
  have unopened : '[' ∉ part.name := PathStep.opening_notMem fun _ => part.isKeyChar_of_mem_name
  rw [written, List.append_assoc, Lexeme.scan_plain _ unopened, Lexeme.scan_barePairs, lexemes,
    List.append_assoc]

/-- No piece of a part has an index to lose. -/
theorem erased_lexemes : ∀ lexeme ∈ part.lexemes, lexeme.erased = lexeme := by
  intro lexeme member
  -- Characters have none, and the bracket pairs of a part are bare.
  rcases List.mem_append.mp member with named | paired
  · obtain ⟨c, _, rfl⟩ := List.mem_map.mp named
    rfl
  · rw [List.eq_of_mem_replicate paired]
    rfl

/-- Where the reading of a path stands after a part. -/
def endState : PathState := if part.pairs = 0 then .inKey else .afterBracket

/-- A part is read as a whole wherever a key may begin. -/
theorem foldl_lexemes {state : PathState} (fresh : state = .start ∨ state = .afterDot) :
    part.lexemes.foldl PathState.next state = part.endState := by
  have named : (part.name.map Lexeme.char).foldl PathState.next state = .inKey :=
    PathState.foldl_key (List.cons_ne_nil _ _) (fun _ => part.isKeyChar_of_mem_name) fresh
  rw [lexemes, List.foldl_append, named, endState]
  -- The first bracket pair ends the key, and any others change nothing.
  cases part.pairs with
  | zero => rfl
  | succ count => exact PathState.foldl_afterBracket count

/-- After a part there may be a dot. -/
theorem next_endState_dot : part.endState.next (.char '.') = .afterDot := by
  unfold endState
  split <;> rfl

end DottedPart

/-- The pieces of a dotted path. -/
def dottedLexemes (parts : List DottedPart) : List Lexeme :=
  [.char '.'].intercalate (parts.map DottedPart.lexemes)

/-- A dotted path is scanned part by part, up to what follows it. -/
theorem scan_dotted (parts : List DottedPart) (rest : List Char) :
    Lexeme.scan (dotted parts ++ rest) = dottedLexemes parts ++ Lexeme.scan rest := by
  -- A part ends in front of the dot, which is scanned by itself.
  induction parts with
  | nil => rfl
  | cons part later ih =>
    cases later with
    | nil => simpa [dotted, dottedLexemes] using part.scan_written rest
    | cons next others =>
      have dot : Lexeme.scan ('.' :: (dotted (next :: others) ++ rest)) =
          .char '.' :: (dottedLexemes (next :: others) ++ Lexeme.scan rest) :=
        congrArg (Lexeme.char '.' :: ·) ih
      simp only [dotted, dottedLexemes, List.map_cons, List.intercalate_cons_cons] at dot ⊢
      simp only [List.append_assoc, List.cons_append, List.nil_append]
      rw [part.scan_written, dot]

/-- No piece of a dotted path has an index to lose. -/
theorem erased_dottedLexemes (parts : List DottedPart) :
    ∀ lexeme ∈ dottedLexemes parts, lexeme.erased = lexeme := by
  -- The dots between the parts are characters, and have no index.
  induction parts with
  | nil => simp [dottedLexemes]
  | cons part later ih =>
    cases later with
    | nil => simpa [dottedLexemes] using part.erased_lexemes
    | cons next others =>
      simp only [dottedLexemes, List.map_cons, List.intercalate_cons_cons] at ih ⊢
      simp only [List.forall_mem_append, List.forall_mem_singleton]
      exact ⟨⟨part.erased_lexemes, rfl⟩, ih⟩

/-- A dotted path is read to the end of its last part. -/
theorem foldl_dottedLexemes {parts : List DottedPart} (filled : parts ≠ []) {state : PathState}
    (fresh : state = .start ∨ state = .afterDot) :
    (dottedLexemes parts).foldl PathState.next state = (parts.getLast filled).endState := by
  -- The state is generalised, since a part begins at the start or after a dot.
  induction parts generalizing state with
  | nil => exact absurd rfl filled
  | cons part later ih =>
    cases later with
    | nil => simpa [dottedLexemes] using part.foldl_lexemes fresh
    | cons next others =>
      have rest := ih (List.cons_ne_nil next others) (.inr rfl)
      simp only [dottedLexemes, List.map_cons, List.intercalate_cons_cons] at rest ⊢
      -- The dot after the first part leaves the reading where a part may begin again.
      simp only [List.foldl_append, List.foldl_cons, List.foldl_nil, part.foldl_lexemes fresh,
        part.next_endState_dot, rest]
      rfl

/-- Pieces without an index make up keys and wildcards only. -/
theorem segmentsFrom_of_erased {key : List Char} {lexemes : List Lexeme}
    (bare : ∀ lexeme ∈ lexemes, lexeme.erased = lexeme) :
    ∀ segment ∈ segmentsFrom key lexemes, segment = .wildcard ∨ ∃ name, segment = .key name := by
  -- What was gathered is a key, wherever it ends.
  have pending : ∀ key, ∀ segment ∈ pendingKey key,
      segment = .wildcard ∨ ∃ name, segment = .key name := by
    intro key segment member
    unfold pendingKey at member
    -- A character goes on with the key, or ends it.
    split at member
    · cases member
    · exact .inr ⟨_, List.mem_singleton.mp member⟩
  induction lexemes generalizing key with
  | nil => exact pending key
  | cons lexeme rest ih =>
    have tail : ∀ key, ∀ segment ∈ segmentsFrom key rest,
        segment = .wildcard ∨ ∃ name, segment = .key name := fun key => ih fun other member =>
      bare other (List.mem_cons_of_mem lexeme member)
    have here := bare lexeme (List.mem_cons_self ..)
    cases lexeme with
    | bracket digits =>
      -- It has no digits, for they would be lost; so it is a wildcard, and ends the key before it.
      cases here
      intro segment member
      rcases List.mem_append.mp member with before | after
      · exact pending key segment before
      · rcases List.mem_cons.mp after with rfl | later
        · exact .inl rfl
        · exact tail [] segment later
    | char c =>
      rw [segmentsFrom]
      split
      · exact tail (c :: key)
      · intro segment member
        rcases List.mem_append.mp member with before | after
        · exact pending key segment before
        · exact tail [] segment after

section Ending

variable {path : String} {parts : List DottedPart} {tail : List Char}
  (written : path.toList = dotted parts ++ tail) (ending : tail = [] ∨ tail = ['\n'])

include written ending

/-- A dotted path is scanned part by part, and a line break after it is a piece of its own. -/
theorem scan_of_dotted : Lexeme.scan path.toList = dottedLexemes parts ++ tail.map .char := by
  rw [written, scan_dotted]
  rcases ending with rfl | rfl <;> rfl

/-- No piece of a dotted path has an index to lose, nor has a line break after it. -/
theorem erased_of_dotted : ∀ lexeme ∈ Lexeme.scan path.toList, lexeme.erased = lexeme := by
  rw [scan_of_dotted written ending, List.forall_mem_append]
  refine ⟨erased_dottedLexemes parts, ?_⟩
  intro lexeme member
  obtain ⟨c, _, rfl⟩ := List.mem_map.mp member
  rfl

/-- A dotted path is well formed, and a line break leaves it so unless a bracket pair is last. -/
theorem isWellFormedPath_of_dotted (filled : parts ≠ []) :
    isWellFormedPath path = true ↔ tail = [] ∨ (parts.getLast filled).pairs = 0 := by
  rw [isWellFormedPath, scan_of_dotted written ending, List.foldl_append,
    foldl_dottedLexemes filled (.inl rfl), DottedPart.endState]
  -- A line break goes on with a key, and cannot come after a bracket pair.
  rcases ending with rfl | rfl
  · split <;> simp [PathState.accepts]
  · split <;> simp_all [PathState.accepts, PathState.next, isKeyChar]

end Ending

end DeliveryRules
