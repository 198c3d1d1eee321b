import DeliveryRules.Json.Parser
import DeliveryRules.Proofs.Json.Token
import DeliveryRules.Proofs.Value.Document
import Mathlib.Data.List.Induction

/-! Indented JSON text is read as the value it was written for, if the value holds no numbers. -/

namespace DeliveryRules

/-- A value of texts and named values only, in lists and in objects without repeated keys. -/
inductive Value.IsVerbal : Value → Prop
  | null : IsVerbal .null
  | bool (truth : Bool) : IsVerbal (.bool truth)
  | text (content : String) : IsVerbal (.text content)
  | list {items : List Value} : (∀ item ∈ items, IsVerbal item) → IsVerbal (.list items)
  | object {members : Members} :
    (members.map Prod.fst).Nodup → (∀ member ∈ members, IsVerbal member.2) →
      IsVerbal (.object members)

/-- A member with a new key is put after all others. -/
theorem Members.put_of_notMem {members : Members} {key : String}
    (fresh : key ∉ members.map Prod.fst) (value : Value) :
    members.put key value = members ++ [(key, value)] := by
  -- The key is compared with each that is there, and is none of them.
  induction members with
  | nil => rfl
  | cons member rest ih =>
    simp only [List.map_cons, List.mem_cons, not_or] at fresh
    simp [Members.put, Ne.symm fresh.1, ih fresh.2]

/-- Members with different keys stay as they are. -/
theorem Members.ofList_of_nodup {members : List (String × Value)}
    (distinct : (members.map Prod.fst).Nodup) : Members.ofList members = members := by
  -- The induction is from the end, since members are put one behind the other.
  induction members using List.reverseRecOn with
  | nil => rfl
  | append_singleton members member ih =>
    -- Members are put in order, so the last one is new to all those before it.
    rw [List.map_append, List.nodup_append] at distinct
    have fresh : member.1 ∉ members.map Prod.fst := fun repeated =>
      distinct.2.2 _ repeated _ (List.mem_singleton_self _) rfl
    have first := ih distinct.1
    unfold Members.ofList at first ⊢
    rw [List.foldl_append, first]
    exact Members.put_of_notMem fresh member.2

namespace Json

/-- Whether a character goes on with a word, as it neither separates nor begins anything else. -/
def isLetter (c : Char) : Bool := !isBlank c && c != '"' && (mark? c).isNone

/-- Whether no word can go on into some characters. -/
def EndsWord (characters : List Char) : Prop := ∀ c ∈ characters.head?, isLetter c = false

/-- Where the machine gets from a state by the tokens of some characters. -/
def readFrom (state : State) (characters : List Char) : Except TextError State :=
  (scanFrom (.outside []) characters).foldlM step state

/-- Characters that lead from one state to another, whatever comes after them. -/
def Leads (characters : List Char) (before after : State) : Prop :=
  ∀ rest, readFrom before (characters ++ rest) = readFrom after rest

/-- Characters that lead from one state to another if they are not gone on with. -/
def LeadsApart (characters : List Char) (before after : State) : Prop :=
  ∀ rest, EndsWord rest → readFrom before (characters ++ rest) = readFrom after rest

variable {before between after : State} {characters more : List Char}

/-- A word ends in front of anything that it cannot go on into. -/
theorem scanFrom_word {rest : List Char} (ended : EndsWord rest) (reversed : List Char) :
    scanFrom (.outside reversed) rest = withWord reversed (scanFrom (.outside []) rest) := by
  -- What ends a word is a blank, a quote, a mark or the end of the text.
  cases rest with
  | nil => rfl
  | cons c rest =>
    by_cases blank : isBlank c = true
    · simp [scanFrom, blank]
    by_cases quote : c = '"'
    · subst quote
      simp [scanFrom, isBlank]
    -- What is neither blank nor a quote, and no letter, has to be a mark.
    · have marked : (mark? c).isNone = false := by
        simpa [isLetter, blank, quote] using ended c (by simp)
      cases found : mark? c with
      | none => simp [found] at marked
      | some token => simp [scanFrom, blank, quote, found]

/-- What leads somewhere in any case does so if it is not gone on with. -/
theorem Leads.apart (leads : Leads characters before after) :
    LeadsApart characters before after :=
  fun rest _ => leads rest

/-- Characters lead on from where others lead to. -/
theorem Leads.append (first : Leads characters before between)
    (second : Leads more between after) : Leads (characters ++ more) before after := fun rest => by
  rw [List.append_assoc, first, second]

/-- What has to stand apart may be led to by anything. -/
theorem Leads.append_apart (first : Leads characters before between)
    (second : LeadsApart more between after) : LeadsApart (characters ++ more) before after :=
  fun rest ended => by rw [List.append_assoc, first, second rest ended]

/-- What has to stand apart does so in front of characters that end words. -/
theorem LeadsApart.append (first : LeadsApart characters before between)
    (second : Leads more between after) (ended : ∀ rest, EndsWord (more ++ rest)) :
    Leads (characters ++ more) before after := fun rest => by
  rw [List.append_assoc, first _ (ended rest), second]

/-- A token in front of others leads where the machine takes it. -/
theorem foldlM_step {token : Token} (taken : step before token = .ok after) (rest : List Token) :
    (token :: rest).foldlM step before = rest.foldlM step after := by
  rw [List.foldlM_cons, taken]
  rfl

/-- A string leads where its token leads. -/
theorem leads_string (alphabet : Alphabet) (content : String)
    (taken : step before (.text (.ok content)) = .ok after) :
    Leads (string alphabet content).toList before after := fun rest => by
  rw [readFrom, scanFrom_string, foldlM_step taken, readFrom]

/-- A mark leads where its token leads. -/
theorem leads_mark {c : Char} {token : Token} (marked : mark? c = some token)
    (plain : isBlank c = false ∧ c ≠ '"') (taken : step before token = .ok after) :
    Leads [c] before after := fun rest => by
  -- A mark is a token by itself, so no word has to be ended for it.
  have scanned : scanFrom (.outside []) ([c] ++ rest) =
      token :: scanFrom (.outside []) rest := by simp [scanFrom, plain, marked]
  rw [readFrom, scanned, foldlM_step taken, readFrom]

/-- Blanks lead nowhere. -/
theorem leads_blank (blank : characters.all isBlank = true) (state : State) :
    Leads characters state state := fun rest => by
  -- Each blank leaves the scanner outside of a word.
  induction characters with
  | nil => rfl
  | cons c characters ih =>
    obtain ⟨first, others⟩ := Bool.and_eq_true_iff.mp blank
    rw [← ih others]
    simp [readFrom, scanFrom, first]

/-- Letters gather into a word. -/
theorem scanFrom_letters {letters : List Char} (plain : letters.all isLetter = true)
    (reversed rest : List Char) :
    scanFrom (.outside reversed) (letters ++ rest) =
      scanFrom (.outside (letters.reverse ++ reversed)) rest := by
  -- The word so far is generalised, since each letter is put in front of it.
  induction letters generalizing reversed with
  | nil => rfl
  | cons c letters ih =>
    obtain ⟨letter, others⟩ := Bool.and_eq_true_iff.mp plain
    have apart : (isBlank c = false ∧ c ≠ '"') ∧ mark? c = none := by
      simpa [isLetter] using letter
    simp [scanFrom, apart, ih others]

/-- A word leads where the token of its value leads. -/
theorem leadsApart_word (word : List Char) {value : Value} (filled : word ≠ [])
    (plain : word.all isLetter = true) (known : wordValue word = .ok value)
    (taken : step before (.scalar (.ok value)) = .ok after) :
    LeadsApart word before after := fun rest ended => by
  -- The letters are gathered backwards, and turned round when the word is over.
  have gathered : withWord (word.reverse ++ []) (scanFrom (.outside []) rest) =
      .scalar (.ok value) :: scanFrom (.outside []) rest := by
    simp [withWord, filled, known]
  rw [readFrom, scanFrom_letters plain, scanFrom_word ended, gathered, foldlM_step taken, readFrom]

section Block

variable {α : Type} {spelling : α → String}

/-- Things one after the other lead from expecting the first to having read the last. -/
theorem leadsApart_intercalate {separator : List Char} {items : List α}
    {expect : Bool → List α → State} {follow : List α → State}
    (separates : ∀ done, Leads separator (follow done) (expect false done))
    (ended : ∀ rest, EndsWord (separator ++ rest))
    (each : ∀ item ∈ items, ∀ closable done,
      LeadsApart (spelling item).toList (expect closable done) (follow (item :: done)))
    (filled : items ≠ []) (closable : Bool) (done : List α) :
    LeadsApart (separator.intercalate (items.map fun item => (spelling item).toList))
      (expect closable done) (follow (items.reverse ++ done)) := by
  -- What is done already is generalised, since each thing is put in front of it.
  induction items generalizing closable done with
  | nil => exact absurd rfl filled
  | cons item rest ih =>
    obtain ⟨first, others⟩ := List.forall_mem_cons.mp each
    cases rest with
    | nil => simpa using first closable done
    | cons next rest =>
      -- The separator ends the word that the first thing may be, and leads on to the next one.
      have on := ih others (by simp) false (item :: done)
      have reached := ((first closable done).append (separates _) ended).append_apart on
      simpa [List.intercalate_cons_cons] using reached

/-- Every line begins with a break, in front of which words end. -/
theorem endsWord_lineBreak (depth : Nat) (rest : List Char) :
    EndsWord ((lineBreak depth).toList ++ rest) := by
  simp [EndsWord, lineBreak, isLetter, isBlank]

/-- The break between lines leads nowhere. -/
theorem leads_lineBreak (depth : Nat) (state : State) :
    Leads (lineBreak depth).toList state state := by
  refine leads_blank ?_ state
  simp [lineBreak, isBlank]

/-- A block of things leads from its opening bracket through all of them to its closing one. -/
theorem leads_block {depth : Nat} {opening closing : String} {items : List α}
    (expect : Bool → List α → State) (follow : List α → State)
    (opens : Leads opening.toList before (expect true []))
    (separates : ∀ done, Leads [','] (follow done) (expect false done))
    (each : ∀ item ∈ items, ∀ closable done,
      LeadsApart (spelling item).toList (expect closable done) (follow (item :: done)))
    (closesEmpty : items = [] → Leads closing.toList (expect true []) after)
    (closes : items ≠ [] → Leads closing.toList (follow items.reverse) after) :
    Leads (block depth opening closing (items.map spelling)).toList before after := by
  by_cases empty : items = []
  -- Without parts the closing bracket comes where the first part could have begun.
  · have bare : (block depth opening closing (items.map spelling)).toList =
        opening.toList ++ closing.toList := by simp [block, empty]
    rw [bare]
    exact opens.append (closesEmpty empty)
  let separator := [','] ++ (lineBreak (depth + 1)).toList
  have laid : (block depth opening closing (items.map spelling)).toList =
      opening.toList ++ (lineBreak (depth + 1)).toList ++
        separator.intercalate (items.map fun item => (spelling item).toList) ++
          (lineBreak depth).toList ++ closing.toList := by
    simp [block, empty, separator, Function.comp_def]
  -- A separator leads on to the next part, and ends the word that stands in front of it.
  have parts : ∀ done, Leads separator (follow done) (expect false done) := fun done =>
    (separates done).append (leads_lineBreak _ _)
  have ended : ∀ rest, EndsWord (separator ++ rest) := by
    simp [separator, EndsWord, isLetter, mark?]
  have within := leadsApart_intercalate parts ended each empty true []
  rw [List.append_nil] at within
  rw [laid]
  refine Leads.append ?_ (closes empty)
  exact ((opens.append (leads_lineBreak _ _)).append_apart within).append (leads_lineBreak _ _)
    (endsWord_lineBreak depth)

end Block

/-- The elements of a sequence are laid out one by one. -/
theorem indentedItems_eq (alphabet : Alphabet) (depth : Nat) (items : List Value) :
    indentedItems alphabet depth items = items.map (indentedFrom alphabet depth) := by
  -- The recursion over elements is the one that a map makes.
  induction items with
  | nil => rfl
  | cons item rest ih => simp [indentedItems, ih]

/-- A member of an object, laid out over lines. -/
def indentedMember (alphabet : Alphabet) (depth : Nat) (member : String × Value) : String :=
  string alphabet member.1 ++ ": " ++ indentedFrom alphabet depth member.2

/-- The members of an object are laid out one by one. -/
theorem indentedMembers_eq (alphabet : Alphabet) (depth : Nat) (members : Members) :
    indentedMembers alphabet depth members = members.map (indentedMember alphabet depth) := by
  -- The recursion over members is the one that a map makes.
  induction members with
  | nil => rfl
  | cons member rest ih => simp [indentedMembers, indentedMember, ih]

/-- A value without numbers, laid out anywhere, leads to where it is put into its place. -/
theorem leadsApart_indentedFrom {value : Value} (verbal : value.IsVerbal) (alphabet : Alphabet)
    (depth : Nat) (closable : Bool) (stack : List Frame) :
    LeadsApart (indentedFrom alphabet depth value).toList (.value closable stack)
      (settle value stack) := by
  -- What is read inside a value ends on the stack that the value began with.
  induction verbal generalizing depth closable stack with
  | null => exact leadsApart_word "null".toList (by simp) rfl rfl rfl
  | bool truth =>
    cases truth with
    | false => exact leadsApart_word "false".toList (by simp) rfl rfl rfl
    | true => exact leadsApart_word "true".toList (by simp) rfl rfl rfl
  | text content => exact (leads_string alphabet content rfl).apart
  -- The elements are gathered last first, and turned round at the closing bracket.
  | @list items _ ih =>
    rw [indentedFrom, indentedItems_eq]
    refine (leads_block (fun closable done => .value closable (.item done :: stack))
      (fun done => .after (.list done) stack) ?_ ?_ ?_ ?_ ?_).apart
    · exact leads_mark rfl (by decide) rfl
    · exact fun done => leads_mark rfl (by decide) rfl
    · exact fun item member closable done => ih item member _ _ _
    · rintro rfl
      exact leads_mark rfl (by decide) rfl
    · intro _
      refine leads_mark rfl (by decide) ?_
      simp [step]
  -- A member is a key, a colon with a blank behind it, and a value in the place of that key.
  | @object members distinct _ ih =>
    rw [indentedFrom, indentedMembers_eq]
    refine (leads_block (fun closable done => .key closable done stack)
      (fun done => .after (.object done) stack) ?_ ?_ ?_ ?_ ?_).apart
    · exact leads_mark rfl (by decide) rfl
    · exact fun done => leads_mark rfl (by decide) rfl
    · intro member listed closable done
      have key : Leads (string alphabet member.1).toList (.key closable done stack)
          (.colon done member.1 stack) := leads_string alphabet member.1 rfl
      have colon : Leads [':'] (.colon done member.1 stack)
          (.value false (.member done member.1 :: stack)) := leads_mark rfl (by decide) rfl
      have spaced := colon.append (leads_blank (rfl : [' '].all isBlank = true) _)
      rw [indentedMember, String.toList_append, String.toList_append]
      exact (key.append spaced).append_apart (ih member listed _ _ _)
    · rintro rfl
      exact leads_mark rfl (by decide) rfl
    · intro _
      refine leads_mark rfl (by decide) ?_
      -- The members were gathered last first, and no key is among them twice.
      simp [step, Members.ofList_of_nodup distinct]

/-- A value without numbers is read from the text that it is laid out in, blanks behind it being of
no account. -/
theorem read_indented_blank {value : Value} (verbal : value.IsVerbal) (alphabet : Alphabet)
    {blanks : List Char} (blank : blanks.all isBlank = true) :
    read (indented alphabet value ++ String.ofList blanks) = .ok value := by
  -- A word that is the whole text ends at its end, or at the blanks behind it.
  have ended : EndsWord blanks := by
    cases blanks with
    | nil => simp [EndsWord]
    | cons c blanks => simp_all [EndsWord, isLetter]
  have laid := leadsApart_indentedFrom verbal alphabet 0 false [] blanks ended
  have passed := leads_blank blank (settle value []) []
  rw [List.append_nil] at passed
  -- From the state of expecting a value the text leads to the state that has finished it.
  have reached : readFrom (.value false [])
      (indented alphabet value ++ String.ofList blanks).toList = .ok (.finished value) := by
    rw [String.toList_append, String.toList_ofList, indented, laid, passed]
    rfl
  rw [readFrom] at reached
  rw [read, scan, ofTokens, reached]

/-- A value without numbers is read from the text that it is laid out in. -/
theorem read_indented {value : Value} (verbal : value.IsVerbal) (alphabet : Alphabet) :
    read (indented alphabet value) = .ok value := by
  simpa using read_indented_blank verbal alphabet (rfl : [].all isBlank = true)

end Json

end DeliveryRules
