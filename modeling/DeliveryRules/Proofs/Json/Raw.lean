import DeliveryRules.Json.Parser
import DeliveryRules.Proofs.Outcome
import DeliveryRules.Proofs.Value.Raw

/-!
What is read from JSON text is decoded data, and all of its numbers can be written again.

Text that is not read is no JSON, or holds half a character or an integer that is too long.
-/

namespace DeliveryRules

/-- Members put under their keys are members that were there, or the one that is put. -/
theorem Members.mem_put {members : Members} {key : String} {value : Value}
    {member : String × Value} (listed : member ∈ members.put key value) :
    member ∈ members ∨ member.2 = value := by
  -- The member is either put over an old one of its key, or behind all others.
  induction members with
  | nil =>
    have new : member = (key, value) := List.mem_singleton.mp listed
    exact .inr (congrArg Prod.snd new)
  | cons first rest ih =>
    rw [put] at listed
    split at listed
    -- The old value gives way to the new one, under a key that stays.
    · rcases List.mem_cons.mp listed with rfl | later
      · exact .inr rfl
      · exact .inl (List.mem_cons_of_mem first later)
    · rcases List.mem_cons.mp listed with rfl | later
      · exact .inl List.mem_cons_self
      · exact (ih later).imp_left (List.mem_cons_of_mem first)

/-- Members that repeated keys are settled among hold what they held before. -/
theorem Members.mem_ofList {members : List (String × Value)} {member : String × Value}
    (listed : member ∈ Members.ofList members) : ∃ other ∈ members, other.2 = member.2 := by
  -- Each member is put after some others, which hold what was there already.
  have putting : ∀ (rest : List (String × Value)) (total : Members),
      member ∈ rest.foldl (fun total member => total.put member.1 member.2) total →
        member ∈ total ∨ ∃ other ∈ rest, other.2 = member.2 := by
    intro rest
    induction rest with
    | nil => exact fun total known => .inl known
    | cons first rest ih =>
      intro total known
      rcases ih _ known with before | ⟨other, later, same⟩
      · rcases Members.mem_put before with old | new
        · exact .inl old
        · exact .inr ⟨first, List.mem_cons_self, new.symm⟩
      · exact .inr ⟨other, List.mem_cons_of_mem first later, same⟩
  exact (putting members [] listed).resolve_left (by simp)

namespace Json

/-- The tokens of a text are marks, finished strings and words, or the piece that ends them. -/
theorem forall_scanFrom {property : Token → Prop} (broken : property .broken)
    (marks : ∀ c token, mark? c = some token → property token)
    (strings : ∀ part : Partial, property (.text part.finish))
    (words : ∀ word, property (.scalar (wordValue word))) (state : ScanState)
    (characters : List Char) : ∀ token ∈ scanFrom state characters, property token := by
  -- A word that was begun comes in front of the tokens after it.
  have withWord : ∀ reversed tokens, (∀ token ∈ tokens, property token) →
      ∀ token ∈ withWord reversed tokens, property token := by
    intro reversed tokens each
    unfold Json.withWord
    split
    · exact each
    · exact List.forall_mem_cons.mpr ⟨words _, each⟩
  -- The induction follows the scanner, character by character.
  fun_induction scanFrom state characters
  case case1 => exact withWord _ _ (by simp)
  -- What is broken off leaves a single piece.
  case case2 | case3 | case10 | case12 => simpa using broken
  case case4 ih => exact withWord _ _ ih
  case case5 ih => exact withWord _ _ ih
  case case6 marked ih => exact withWord _ _ (List.forall_mem_cons.mpr ⟨marks _ _ marked, ih⟩)
  case case8 ih => exact List.forall_mem_cons.mpr ⟨strings _, ih⟩
  -- Inside a word, a string or an escape nothing is added.
  case case7 ih | case9 ih | case11 ih | case13 ih | case14 ih => exact ih

section Holding

variable {holds : Value → Bool}

/-- A token whose value, if it stands for one, has some property. -/
def Token.Holds (holds : Value → Bool) : Token → Prop
  | .scalar value => ∀ known, value = .ok known → holds known = true
  | _ => True

/-- A container that is still open and whose parts have some property. -/
def Frame.Holds (holds : Value → Bool) : Frame → Prop
  | .item items => ∀ item ∈ items, holds item = true
  | .member members _ => ∀ member ∈ members, holds member.2 = true

/-- Everything that the machine has read so far has some property. -/
def State.Holds (holds : Value → Bool) : State → Prop
  | .value _ stack => ∀ frame ∈ stack, frame.Holds holds
  | .key _ members stack | .colon members _ stack | .after (.object members) stack =>
    (∀ member ∈ members, holds member.2 = true) ∧ ∀ frame ∈ stack, frame.Holds holds
  | .after (.list items) stack =>
    (∀ item ∈ items, holds item = true) ∧ ∀ frame ∈ stack, frame.Holds holds
  | .finished whole => holds whole = true

/-- A value with a property is put into containers whose parts have it. -/
theorem State.holds_settle {value : Value} {stack : List Frame} (whole : holds value = true)
    (around : ∀ frame ∈ stack, frame.Holds holds) : (settle value stack).Holds holds := by
  -- The value is the whole text, or it joins the innermost container.
  cases stack with
  | nil => exact whole
  | cons frame stack =>
    obtain ⟨inner, outer⟩ := List.forall_mem_cons.mp around
    cases frame with
    | item items => exact ⟨List.forall_mem_cons.mpr ⟨whole, inner⟩, outer⟩
    | member members key => exact ⟨List.forall_mem_cons.mpr ⟨whole, inner⟩, outer⟩

/-- One token keeps a property of what was read that containers have as their parts do. -/
theorem State.holds_step (partwise : Value.IsPartwise holds)
    (texts : ∀ content, holds (.text content) = true) {state next : State} {token : Token}
    (before : state.Holds holds) (held : token.Holds holds)
    (stepped : step state token = .ok next) : next.Holds holds := by
  -- The cases are the moves of the machine, each of which adds, opens or closes something.
  revert stepped
  fun_cases step state token <;> intro stepped
  -- A container that is opened holds nothing yet.
  case case1 =>
    cases stepped
    exact List.forall_mem_cons.mpr ⟨by simp [Frame.Holds], before⟩
  case case2 =>
    cases stepped
    exact ⟨by simp, before⟩
  case case3 =>
    obtain ⟨content, _, rfl⟩ := map_eq_ok.mp stepped
    exact State.holds_settle (texts content) before
  case case4 =>
    obtain ⟨value, known, rfl⟩ := map_eq_ok.mp stepped
    exact State.holds_settle (held value known) before
  -- A container that is closed holds what was put into it.
  case case5 =>
    cases stepped
    have empty : holds (.list []) = true :=
      partwise.sequence (show (Value.list []).items? = some [] from rfl)
    exact State.holds_settle empty (List.forall_mem_cons.mp before).2
  -- A key is not a value, and waits for one.
  case case6 =>
    obtain ⟨name, _, rfl⟩ := map_eq_ok.mp stepped
    exact before
  case case7 =>
    cases stepped
    exact State.holds_settle (by simp [partwise.object]) before.2
  case case8 =>
    cases stepped
    exact List.forall_mem_cons.mpr before
  case case9 =>
    cases stepped
    exact List.forall_mem_cons.mpr before
  case case10 items stack =>
    cases stepped
    refine State.holds_settle ?_ before.2
    rw [partwise.sequence rfl, List.all_eq_true]
    exact fun item listed => before.1 item (List.mem_reverse.mp listed)
  case case11 =>
    cases stepped
    exact before
  case case12 members stack =>
    cases stepped
    refine State.holds_settle ?_ before.2
    rw [partwise.object, List.all_eq_true]
    intro member listed
    obtain ⟨other, read, same⟩ := Members.mem_ofList listed
    exact same ▸ before.1 other (List.mem_reverse.mp read)
  case case13 => cases stepped

/-- A whole sequence of tokens keeps such a property. -/
theorem holds_ofTokens (partwise : Value.IsPartwise holds)
    (texts : ∀ content, holds (.text content) = true) {tokens : List Token} {value : Value}
    (held : ∀ token ∈ tokens, token.Holds holds) (read : ofTokens tokens = .ok value) :
    holds value = true := by
  -- The state is generalised, since each token leaves another one.
  have running : ∀ state last : State, state.Holds holds →
      tokens.foldlM step state = .ok last → last.Holds holds := by
    clear read
    induction tokens with
    | nil =>
      intro state last before ran
      cases ran
      exact before
    | cons token rest ih =>
      intro state last before ran
      obtain ⟨here, later⟩ := List.forall_mem_cons.mp held
      rw [List.foldlM_cons] at ran
      obtain ⟨next, stepped, onward⟩ := bind_eq_ok.mp ran
      exact ih later next last (State.holds_step partwise texts before here stepped) onward
  -- Only a machine that is finished gives a value, which is what it has read.
  unfold ofTokens at read
  split at read
  · next whole ran =>
    cases read
    exact running _ _ (by simp [State.Holds]) ran
  · cases read
  · cases read

/-- The tokens of a text have a property that the values of all words have. -/
theorem holds_scanFrom (words : ∀ word value, wordValue word = .ok value → holds value = true)
    (state : ScanState) (characters : List Char) :
    ∀ token ∈ scanFrom state characters, token.Holds holds := by
  refine forall_scanFrom (fun _ known => nomatch known) (fun c token marked => ?_)
    (fun _ => trivial) words state characters
  revert marked
  fun_cases mark? c <;> rintro ⟨⟩ <;> trivial

/-- What is read from a text has a property that texts and words have, and containers by parts. -/
theorem holds_read (partwise : Value.IsPartwise holds)
    (texts : ∀ content, holds (.text content) = true)
    (words : ∀ word value, wordValue word = .ok value → holds value = true) {text : String}
    {value : Value} (readable : read text = .ok value) : holds value = true :=
  holds_ofTokens partwise texts (holds_scanFrom words _ _) readable

end Holding

section Failing

variable {reason : TextError}

/-- Why a token stops the machine wherever it stands, if it does. -/
def Token.fault? : Token → Option TextError
  | .text (.error reason) | .scalar (.error reason) => some reason
  | _ => none

/-- One token stops the machine by itself, or because it cannot stand where it does. -/
theorem step_error {state : State} {token : Token} (stopped : step state token = .error reason) :
    reason = .malformed ∨ token.fault? = some reason := by
  -- What a token stands for is only asked for where the token can stand.
  have texts : ∀ {α : Type} {content : Except TextError String} {next : String → α},
      content.map next = .error reason → (Token.text content).fault? = some reason := by
    rintro α (fault | content) next failed <;> cases failed
    rfl
  have scalars : ∀ {α : Type} {value : Except TextError Value} {next : Value → α},
      value.map next = .error reason → (Token.scalar value).fault? = some reason := by
    rintro α (fault | value) next failed <;> cases failed
    rfl
  revert stopped
  fun_cases step state token <;> intro stopped
  case case3 => exact .inr (texts stopped)
  case case4 => exact .inr (scalars stopped)
  case case6 => exact .inr (texts stopped)
  case case13 =>
    cases stopped
    exact .inl rfl
  -- Where a mark can stand, it does not stop the machine.
  all_goals cases stopped

/-- A sequence of tokens without a value is misplaced or cut short, or holds one that stops it. -/
theorem ofTokens_error {tokens : List Token} (failed : ofTokens tokens = .error reason) :
    reason = .malformed ∨ ∃ token ∈ tokens, token.fault? = some reason := by
  -- The state is generalised, and the first token that stops the machine is the one in question.
  have running : ∀ state : State, tokens.foldlM step state = .error reason →
      reason = .malformed ∨ ∃ token ∈ tokens, token.fault? = some reason := by
    clear failed
    induction tokens with
    | nil => exact fun state ran => nomatch ran
    | cons token rest ih =>
      intro state ran
      rw [List.foldlM_cons] at ran
      rcases bind_eq_error.mp ran with stopped | ⟨next, -, later⟩
      · exact (step_error stopped).imp_right fun here => ⟨token, List.mem_cons_self, here⟩
      · exact (ih next later).imp_right fun ⟨other, listed, there⟩ =>
          ⟨other, List.mem_cons_of_mem token listed, there⟩
  -- A machine that is not finished has met the end too early.
  unfold ofTokens at failed
  split at failed
  · cases failed
  · cases failed
    exact .inl rfl
  · next ran =>
    cases failed
    exact running _ ran

/-- What a reader of JSON ends with, which is always explained. -/
inductive IsFault : TextError → Prop
  | malformed : IsFault .malformed
  | numeral : IsFault (.numeral .tooManyDigits)
  | halfCharacter : IsFault .halfCharacter

/-- A word is not read because it is none, or because it begins with an integer too long. -/
theorem wordValue_error {word : List Char} (failed : wordValue word = .error reason) :
    IsFault reason := by
  -- An integer fails for its length alone, and what is no word for how it begins.
  unfold wordValue at failed
  split at failed
  · rename_i n _
    cases short : isShort n <;> rw [short] at failed <;> cases failed
    exact .numeral
  · cases failed
  · cases failed
    split
    · exact .numeral
    · exact .malformed

/-- The tokens of a text stop the machine for a reason that is explained. -/
theorem isFault_of_scanFrom (state : ScanState) (characters : List Char) :
    ∀ token ∈ scanFrom state characters, ∀ reason, token.fault? = some reason →
      IsFault reason := by
  -- Only strings and words can stand for nothing, besides the piece that ends the tokens.
  refine forall_scanFrom ?broken ?marks ?strings ?words state characters
  case broken =>
    rintro _ ⟨⟩
    exact .malformed
  case marks =>
    intro c token marked
    revert marked
    fun_cases mark? c <;> rintro ⟨⟩ _ ⟨⟩
  case strings =>
    intro part reason
    unfold Partial.finish
    split <;> rintro ⟨⟩
    exact .halfCharacter
  case words =>
    intro word reason fault
    cases found : wordValue word <;> rw [found] at fault <;> cases fault
    exact wordValue_error found

/-- A text that is not read is no JSON, or holds half a character or an integer too long. -/
theorem read_error {text : String} (failed : read text = .error reason) : IsFault reason := by
  -- What stops the machine is its own complaint or that of a token.
  rcases ofTokens_error failed with rfl | ⟨token, listed, fault⟩
  · exact .malformed
  · exact isFault_of_scanFrom _ _ token listed reason fault

end Failing

/-- A number is an integer or a float. -/
theorem numberOf?_cases {word : List Char} {value : Value} (known : numberOf? word = some value) :
    (∃ n, value = .int n) ∨ ∃ x, value = .float x := by
  -- A point or an exponent makes a float, and digits alone an integer.
  simp only [numberOf?] at known
  split at known
  all_goals
    split at known
    · cases known
    · obtain ⟨decimal, -, written⟩ := Option.map_eq_some_iff.mp known
      split at written
      · exact .inr ⟨_, written.symm⟩
      · exact .inl ⟨_, written.symm⟩

/-- A word stands for an integer, or for a scalar that holds none. -/
theorem wordValue?_cases {word : List Char} {value : Value}
    (known : wordValue? word = some value) :
    (∃ n, value = .int n) ∨ value.isRaw = true ∧ value.isWritable = true := by
  -- The words with names of their own are scalars that hold no number.
  have named : ∀ {name : String} {value : Value}, namedValue? name = some value →
      value.isRaw = true ∧ value.isWritable = true := by
    intro name value
    fun_cases namedValue? name <;> rintro ⟨⟩ <;> exact ⟨rfl, rfl⟩
  -- The cases are the words that are looked for, with numbers as the last of them.
  revert known
  fun_cases wordValue? word
  case case1 found =>
    rintro ⟨⟩
    exact .inr (named found)
  case case5 =>
    intro known
    refine (numberOf?_cases known).imp_right ?_
    rintro ⟨x, rfl⟩
    exact ⟨rfl, rfl⟩
  all_goals
    rintro ⟨⟩
    exact .inr ⟨rfl, rfl⟩

/-- What a word is read as is decoded data that can be written. -/
theorem wordValue_ok {word : List Char} {value : Value} (known : wordValue word = .ok value) :
    value.isRaw = true ∧ value.isWritable = true := by
  unfold wordValue at known
  split at known
  · -- An integer is only read if it is short.
    rename_i n _
    cases short : isShort n with
    | true =>
      rw [short] at known
      cases known
      exact ⟨rfl, short⟩
    | false =>
      rw [short] at known
      cases known
  · rename_i other whole found
    cases known
    rcases wordValue?_cases found with ⟨n, rfl⟩ | data
    · exact absurd rfl (whole n)
    · exact data
  · cases known

/-- What is read from a text is decoded data. -/
theorem isRaw_read {text : String} {value : Value} (readable : read text = .ok value) :
    value.isRaw = true :=
  holds_read Value.isPartwise_isRaw (fun _ => rfl) (fun _ _ known => (wordValue_ok known).1)
    readable

/-- What is read from a text can be written, since longer numbers are not read. -/
theorem isWritable_read {text : String} {value : Value} (readable : read text = .ok value) :
    value.isWritable = true :=
  holds_read Value.isPartwise_isWritable (fun _ => rfl) (fun _ _ known => (wordValue_ok known).2)
    readable

end Json

end DeliveryRules
