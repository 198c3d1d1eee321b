import DeliveryRules.Proofs.Path.Grammar
import DeliveryRules.Proofs.Path.Resolve
import DeliveryRules.Proofs.Text.Numeral

/-! A path leads exactly where its steps lead one by one, and joined paths lead on. -/

namespace DeliveryRules

/-- A segment leads from a value to a part of it: a member, an element, or the number of a byte. -/
inductive LeadsTo : Segment → Value → Value → Prop
  | member {name : String} {members : Members} {value : Value} :
    members.lookup name = some value → LeadsTo (.key name) (.object members) value
  | element {n : Nat} {value item : Value} {items : List Value} :
    value.items? = some items → items[n]? = some item → LeadsTo (.index n) value item
  | octet {n : Nat} {octets : List UInt8} {octet : UInt8} :
    octets[n]? = some octet → LeadsTo (.index n) (.bytes octets) (.int (Int.ofNat octet.toNat))

/-- Segments lead to a value if each of them leads on from where the one before it led. -/
inductive Reaches : Value → List Segment → Value → Prop
  | here (value : Value) : Reaches value [] value
  | onward {value next found : Value} {segment : Segment} {rest : List Segment} :
    LeadsTo segment value next → Reaches next rest found → Reaches value (segment :: rest) found

/-- The value one step away is the one that the segment leads to. -/
theorem Segment.follow?_eq_some_iff {segment : Segment} {value found : Value} :
    segment.follow? value = some found ↔ LeadsTo segment value found := by
  -- A key is looked for in an object, an index in a sequence, and a wildcard nowhere.
  constructor
  · intro followed
    cases segment with
    | key name =>
      cases value with
      | object members => exact .member followed
      | _ => cases followed
    | index n =>
      cases value with
      | list items => exact .element rfl followed
      | tuple items => exact .element rfl followed
      | bytes octets =>
        -- What is found at the index is a byte, and the number of it is the value.
        obtain ⟨octet, given, rfl⟩ := Option.map_eq_some_iff.mp followed
        exact .octet given
      | _ => cases followed
    | wildcard => cases followed
  · intro leads
    cases leads with
    | member given => exact given
    | element listed given => rw [Segment.follow?, Value.element?_of_items? listed, given]
    | octet given => simp [Segment.follow?, Value.element?, given]

/-- The value some steps away is the one that the segments lead to. -/
theorem followSegments?_eq_some_iff {segments : List Segment} {value found : Value} :
    followSegments? value segments = some found ↔ Reaches value segments found := by
  -- The value is generalised, since each segment leads on from another one.
  induction segments generalizing value with
  | nil =>
    constructor
    · rintro ⟨⟩
      exact .here _
    · rintro ⟨⟩
      rfl
  | cons segment rest ih =>
    rw [followSegments?_cons, Option.bind_eq_some_iff]
    constructor
    · rintro ⟨next, first, others⟩
      exact .onward (Segment.follow?_eq_some_iff.mp first) (ih.mp others)
    · rintro (_ | ⟨first, others⟩)
      exact ⟨_, Segment.follow?_eq_some_iff.mpr first, ih.mpr others⟩

/-- A wildcard leads to no single value. -/
theorem Reaches.wildcard_notMem {segments : List Segment} {value found : Value}
    (reaches : Reaches value segments found) : .wildcard ∉ segments := by
  induction reaches with
  | here value => simp
  | @onward _ _ _ segment rest leads _ ih =>
    -- No value is one step away by a wildcard.
    have single : segment ≠ .wildcard := by
      rintro rfl
      cases leads
    exact List.not_mem_cons_of_ne_of_not_mem single.symm ih

/-- Further segments lead on from where the first ones led. -/
theorem followSegments?_append (value : Value) (segments others : List Segment) :
    followSegments? value (segments ++ others) =
      (followSegments? value segments).bind fun next => followSegments? next others := by
  -- The segments are followed one by one, and the others from where they end.
  induction segments generalizing value with
  | nil => rfl
  | cons segment rest ih =>
    rw [List.cons_append, followSegments?_cons, followSegments?_cons, Option.bind_assoc]
    simp only [ih]

/-- A path leads where its segments lead, unless an index among them is too long. -/
theorem resolvePath_pathOf (document : Value) (steps : List PathStep) :
    resolvePath document (pathOf steps) =
      NumeralError.guard (steps.all PathStep.isShort)
        (followSegments? document (steps.map PathStep.segment)) := by
  rw [resolvePath, if_pos (isWellFormedPath_pathOf steps), splitPath_pathOf, NumeralError.map_guard]

/-- Whether a segment can be written: a key is not empty, and holds no dot and no bracket. -/
def Segment.IsPlain : Segment → Prop
  | .key name => name ≠ "" ∧ ∀ c ∈ name.toList, isKeyChar c = true
  | _ => True

/-- Whether the numeral of an index is short enough to be read. -/
def Segment.isShort : Segment → Bool
  | .index n => DeliveryRules.isShort n
  | _ => true

namespace PathStep

/-- The step that writes a segment, an index being written as its numeral. -/
def ofSegment (segment : Segment) (plain : segment.IsPlain) : PathStep :=
  match segment, plain with
  | .key name, plain => .key name.toList (by simpa using plain.1) plain.2
  | .index n, _ => .index (digitsOf n) Nat.toDigits_ne_nil fun _ => isDecimalDigit_of_mem_digitsOf
  | .wildcard, _ => .wildcard

/-- The step that writes a segment stands for it. -/
theorem segment_ofSegment (segment : Segment) (plain : segment.IsPlain) :
    (ofSegment segment plain).segment = segment := by
  cases segment with
  | key name => exact congrArg Segment.key String.ofList_toList
  | index n => exact congrArg Segment.index (digitsValue_digitsOf n)
  | wildcard => rfl

/-- The step that writes a segment is as short as the segment. -/
theorem isShort_ofSegment (segment : Segment) (plain : segment.IsPlain) :
    (ofSegment segment plain).isShort = segment.isShort := by
  cases segment <;> rfl

end PathStep

/-- The path that is usually written for some segments. -/
def canonicalPath (segments : List Segment) (plain : ∀ segment ∈ segments, segment.IsPlain) :
    String :=
  pathOf (segments.pmap PathStep.ofSegment plain)

/-- Two paths as one: a dot stands between them if the second one begins with a key. -/
def joinedPath (first second : String) : String :=
  if second.toList.head? = some '[' then first ++ second else first ++ "." ++ second

/-- Joined paths are spelled by the steps of both. -/
theorem joinedPath_pathOf {steps others : List PathStep} (filled : steps ≠ [])
    (filled' : others ≠ []) :
    joinedPath (pathOf steps) (pathOf others) = pathOf (steps ++ others) := by
  cases others with
  | nil => exact absurd rfl filled'
  | cons next rest =>
    -- The dot between the paths is the one that the first step of the second takes.
    have later : (next :: rest).flatMap PathStep.writtenLater =
        next.separator ++ spelled (next :: rest) := by
      rw [List.flatMap_cons, PathStep.writtenLater, spelled, List.append_assoc]
    apply String.toList_inj.mp
    rw [joinedPath, pathOf, pathOf, pathOf, String.toList_ofList, String.toList_ofList,
      spelled_append filled, later, separator_eq next rest]
    split <;> simp

/-- What segments lead to is found by them, and nothing if one of them is a wildcard. -/
theorem followSegments?_eq_some_iff_reaches {segments : List Segment} {document value : Value} :
    followSegments? document segments = some value ↔
      .wildcard ∉ segments ∧ Reaches document segments value := by
  rw [followSegments?_eq_some_iff]
  exact ⟨fun reaches => ⟨reaches.wildcard_notMem, reaches⟩, And.right⟩

/-- The usual path for some segments leads where they lead, unless an index is too long. -/
theorem resolvePath_canonicalPath (document : Value) (segments : List Segment)
    (plain : ∀ segment ∈ segments, segment.IsPlain) :
    resolvePath document (canonicalPath segments plain) =
      NumeralError.guard (segments.all Segment.isShort) (followSegments? document segments) := by
  -- The steps of the usual path stand for the segments that they were made for.
  have segmentsOf : (segments.pmap PathStep.ofSegment plain).map PathStep.segment = segments := by
    simp [List.map_pmap, PathStep.segment_ofSegment]
  have lengths :
      (segments.pmap PathStep.ofSegment plain).all PathStep.isShort =
        segments.all Segment.isShort := by
    rw [Bool.eq_iff_iff, List.all_eq_true, List.all_eq_true]
    simp only [List.mem_pmap, forall_exists_index]
    constructor
    · intro each segment member
      rw [← PathStep.isShort_ofSegment segment (plain segment member)]
      exact each _ segment member rfl
    · rintro each _ segment member rfl
      rw [PathStep.isShort_ofSegment]
      exact each segment member
  rw [canonicalPath, resolvePath_pathOf, segmentsOf, lengths]

/-- A joined path leads on from where its first part leads, if the indexes after it are short. -/
theorem resolvePath_joinedPath (document : Value) {first second : String}
    (wellFormed : isWellFormedPath first = true) (wellFormed' : isWellFormedPath second = true)
    (filled : first ≠ "") (filled' : second ≠ "") (short : hasShortIndexes second = true) :
    resolvePath document (joinedPath first second) =
      resolvePath document first >>= fun found =>
        found.elim (.ok none) fun value => resolvePath value second := by
  obtain ⟨steps, rfl⟩ := exists_steps wellFormed
  obtain ⟨others, rfl⟩ := exists_steps wellFormed'
  -- Only the empty path is spelled by no steps.
  have given : steps ≠ [] := by
    rintro rfl
    exact filled rfl
  have given' : others ≠ [] := by
    rintro rfl
    exact filled' rfl
  rw [hasShortIndexes_pathOf] at short
  rw [joinedPath_pathOf given given']
  -- The steps of the second path lead on from where those of the first one led.
  simp only [resolvePath_pathOf, List.all_append, List.map_append, followSegments?_append, short,
    Bool.and_true, NumeralError.guard_true]
  cases steps.all PathStep.isShort with
  | false => rfl
  | true => cases followSegments? document (steps.map PathStep.segment) <;> rfl

/--
A path finds exactly the value that its steps lead to, one by one, if its indexes are short.

There is none if a step is a wildcard, if a member or an element is missing, or if the path is not
well formed; and whatever some keys and indexes lead to is found by the path usually written for
them. Two paths joined find what the second one finds in the value of the first. An index that is
too long leaves no answer at all, whatever the document.
-/
theorem resolvePath_leads :
    (∀ (document : Value) (steps : List PathStep), ∃ found,
      resolvePath document (pathOf steps) =
        NumeralError.guard (steps.all PathStep.isShort) found ∧
      ∀ value, found = some value ↔
        .wildcard ∉ steps.map PathStep.segment ∧
          Reaches document (steps.map PathStep.segment) value) ∧
    (∀ (document : Value) (segments : List Segment)
      (plain : ∀ segment ∈ segments, segment.IsPlain), ∃ found,
      resolvePath document (canonicalPath segments plain) =
        NumeralError.guard (segments.all Segment.isShort) found ∧
      ∀ value, found = some value ↔
        .wildcard ∉ segments ∧ Reaches document segments value) ∧
    (∀ (document : Value) (first second : String), isWellFormedPath first = true →
      isWellFormedPath second = true → first ≠ "" → second ≠ "" →
      hasShortIndexes second = true →
      resolvePath document (joinedPath first second) =
        resolvePath document first >>= fun found =>
          found.elim (.ok none) fun value => resolvePath value second) ∧
    (∀ (document : Value) (path : String), isWellFormedPath path = false →
      resolvePath document path = .ok none) := by
  refine ⟨fun document steps => ⟨_, resolvePath_pathOf document steps, fun _ =>
      followSegments?_eq_some_iff_reaches⟩,
    fun document segments plain => ⟨_, resolvePath_canonicalPath document segments plain, fun _ =>
      followSegments?_eq_some_iff_reaches⟩,
    fun document _ _ => resolvePath_joinedPath document, ?_⟩
  -- A malformed path is not even cut into segments.
  intro document path malformed
  rw [resolvePath, if_neg (by simp [malformed])]

/-- A byte of the second quote is found by the usual path, and by two paths joined. -/
theorem resolvePath_leads_byte :
    let document : Value := .object [("quotes", .list [.null, .bytes [5, 7]])]
    let segments : List Segment := [.key "quotes", .index 1, .index 0]
    ∃ plain : ∀ segment ∈ segments, segment.IsPlain,
      .wildcard ∉ segments ∧ Reaches document segments (.int 5) ∧
      resolvePath document (canonicalPath segments plain) = .ok (some (.int 5)) ∧
      isWellFormedPath "quotes[01]" = true ∧ isWellFormedPath "[0]" = true ∧
      hasShortIndexes "[0]" = true ∧
      resolvePath document (joinedPath "quotes[01]" "[0]") = .ok (some (.int 5)) ∧
      isWellFormedPath "quotes.[1]" = false ∧
      resolvePath document "quotes.[1]" = .ok none := by
  intro document segments
  obtain ⟨_, usual, joins, malformed⟩ := resolvePath_leads
  -- Each of the three segments can be written.
  have plain : ∀ segment ∈ segments, segment.IsPlain := by
    simp [segments, Segment.IsPlain]
    decide
  -- The member is a list, its second item is two bytes, and the first of them is five.
  have reaches : Reaches document segments (.int 5) :=
    .onward (.member rfl) (.onward (.element rfl rfl) (.onward (.octet rfl) (.here _)))
  have single : .wildcard ∉ segments := reaches.wildcard_notMem
  obtain ⟨found, answer, values⟩ := usual document segments plain
  have value : found = some (.int 5) := (values _).mpr ⟨single, reaches⟩
  have short : segments.all Segment.isShort = true := by decide
  rw [short, NumeralError.guard_true, value] at answer
  refine ⟨plain, single, reaches, answer, by decide, by decide, by decide, ?_, by decide,
    malformed _ _ (by decide)⟩
  -- The two bytes are found first, and then the byte in them.
  rw [joins document _ _ (by decide) (by decide) (by decide) (by decide) (by decide)]
  rfl

/-- An index with one digit too many fails in every document. -/
theorem resolvePath_longIndex (document : Value) :
    resolvePath document (String.ofList ('a' :: '[' :: (List.replicate 4301 '1' ++ [']']))) =
      .error .tooManyDigits := by
  have key : ∀ c ∈ ['a'], isKeyChar c = true := by
    rw [List.forall_mem_singleton]
    decide
  -- The path is spelled by a key and by an index that is one digit too long.
  have spelling : String.ofList ('a' :: '[' :: (List.replicate 4301 '1' ++ [']'])) =
      pathOf [.key ['a'] (by simp) key, .tooLong] := by
    simp [-List.reduceReplicate, pathOf, spelled, PathStep.writtenLater, PathStep.separator,
      PathStep.written, PathStep.tooLong, digitLimit]
  rw [spelling, resolvePath_pathOf]
  simp [PathStep.isShort_tooLong]

/-- An index with one digit too many leaves no answer, although no document has such an element. -/
theorem resolvePath_tooLong :
    let path := String.ofList ('a' :: '[' :: (List.replicate 4301 '1' ++ [']']))
    isWellFormedPath path = true ∧ resolvePath (.object []) path = .error .tooManyDigits := by
  intro path
  have failed : resolvePath (.object []) path = .error .tooManyDigits := resolvePath_longIndex _
  have wellFormed : isWellFormedPath path = true := by
    by_contra malformed
    -- A malformed path would have been found nowhere instead.
    rw [resolvePath, if_neg malformed] at failed
    cases failed
  exact ⟨wellFormed, failed⟩

end DeliveryRules
