import DeliveryRules.Proofs.Path.Grammar

/-! A path without its indexes is the same path for all that reads it, but for the indexes. -/

namespace DeliveryRules

/-- A segment without the index that it may have. -/
def Segment.erased : Segment → Segment
  | .index _ => .wildcard
  | other => other

namespace Lexeme

/-- Some pieces as they are written without their indexes. -/
def writtenErased (lexemes : List Lexeme) : List Char :=
  lexemes.flatMap fun lexeme => lexeme.erased.written

/-- A bracket that has not closed yet is written before everything else. -/
theorem writtenErased_pending (digits letters : List Char) :
    ∃ rest, writtenErased (scanFrom (some digits) letters) = '[' :: rest := by
  -- The digits are generalised, since the bracket may take in more of them.
  induction letters generalizing digits with
  | nil => exact ⟨_, rfl⟩
  | cons c rest ih =>
    rw [scanFrom]
    -- Either it is known now what the bracket is, or it takes in one more digit.
    split_ifs
    · exact ⟨_, rfl⟩
    · exact ih (digits ++ [c])
    · exact ⟨_, rfl⟩
    · exact ⟨_, rfl⟩

/-- The pieces of a bracket that never closed are written as they were. -/
theorem writtenErased_unclosed (digits : List Char) (lexemes : List Lexeme) :
    writtenErased (unclosed digits ++ lexemes) = '[' :: (digits ++ writtenErased lexemes) := by
  simp [writtenErased, unclosed, erased, written, List.flatMap_map]

/-- A bracket that never closed has no index to lose. -/
theorem map_erased_unclosed (digits : List Char) :
    (unclosed digits).map erased = unclosed digits := by
  simp [unclosed, erased]

/-- A bracket with its digits stays pending up to what follows them. -/
theorem scan_opening {digits : List Char} (rest : List Char)
    (decimal : ∀ c ∈ digits, isDecimalDigit c = true) :
    scan ('[' :: (digits ++ rest)) = scanFrom (some digits) rest :=
  scanFrom_digits [] rest decimal

/-- Without its indexes a path is scanned into the same pieces, without theirs. -/
theorem scan_writtenErased (pending : Option (List Char)) (letters : List Char)
    (decimal : ∀ digits ∈ pending, ∀ c ∈ digits, isDecimalDigit c = true) :
    scan (writtenErased (scanFrom pending letters)) = (scanFrom pending letters).map erased := by
  -- A bracket that is pending is written in full only once it is known not to close.
  induction letters generalizing pending with
  | nil =>
    cases pending with
    | none => rfl
    | some digits =>
      -- The path ends before the bracket closes, so its digits are not an index.
      have known : ∀ c ∈ digits, isDecimalDigit c = true := decimal digits rfl
      rw [scanFrom, map_erased_unclosed, ← List.append_nil (unclosed digits),
        writtenErased_unclosed, scan_opening _ known]
      simp [writtenErased, scanFrom]
  | cons c rest ih =>
    cases pending with
    | none =>
      rw [scanFrom]
      split_ifs with opening
      · exact ih (some []) (by simp)
      · -- Any other character stands for itself before and after.
        have tail := ih none (by simp)
        show scanFrom none (c :: writtenErased (scanFrom none rest)) = _
        rw [scanFrom, if_neg opening]
        exact congrArg (char c :: ·) tail
    | some digits =>
      have known : ∀ c ∈ digits, isDecimalDigit c = true := decimal digits rfl
      rw [scanFrom]
      split_ifs with closing digit opening
      · -- The pair is closed without its digits.
        have tail := ih none (by simp)
        exact congrArg (bracket [] :: ·) tail
      · -- It is still not known whether the bracket closes.
        refine ih (some (digits ++ [c])) ?_
        simpa [or_imp, forall_and, digit] using known
      · -- The next bracket shows that this one does not close.
        have tail := ih (some []) (by simp)
        obtain ⟨others, begins⟩ := writtenErased_pending [] rest
        rw [writtenErased_unclosed, scan_opening _ known, List.map_append, map_erased_unclosed,
          ← tail, begins]
        rfl
      · -- The bracket does not close, and what stopped it is written after its digits.
        have tail := ih none (by simp)
        have spelling : writtenErased (char c :: scanFrom none rest) =
            c :: writtenErased (scanFrom none rest) := rfl
        rw [writtenErased_unclosed, scan_opening _ known, List.map_append, map_erased_unclosed,
          spelling, scanFrom, if_neg closing, if_neg digit, if_neg opening]
        exact congrArg (unclosed digits ++ char c :: ·) tail

end Lexeme

/-- A path that lost its indexes is scanned into the pieces of the path, without theirs. -/
theorem scan_normalizePath (path : String) :
    Lexeme.scan (normalizePath path).toList = (Lexeme.scan path.toList).map Lexeme.erased := by
  rw [normalizePath, String.toList_ofList]
  exact Lexeme.scan_writtenErased none path.toList (by simp)

/-- What has no index has none to lose. -/
theorem normalizePath_normalizePath (path : String) :
    normalizePath (normalizePath path) = normalizePath path := by
  refine normalizePath_of_erased fun lexeme member => ?_
  -- Every piece of a normal path is what another piece is without its index.
  rw [scan_normalizePath] at member
  obtain ⟨origin, _, rfl⟩ := List.mem_map.mp member
  cases origin <;> rfl

/-- The digits in a bracket pair play no part in what may come next. -/
theorem PathState.next_erased (state : PathState) (lexeme : Lexeme) :
    state.next lexeme.erased = state.next lexeme := by
  cases lexeme <;> cases state <;> rfl

/-- A path is well formed with its indexes exactly if it is without them. -/
theorem isWellFormedPath_normalizePath (path : String) :
    isWellFormedPath (normalizePath path) = isWellFormedPath path := by
  -- The reading takes the same steps on pieces without their indexes.
  rw [isWellFormedPath, scan_normalizePath, List.foldl_map]
  simp only [PathState.next_erased]
  rfl

/-- A key has no index to lose. -/
theorem map_erased_pendingKey (key : List Char) :
    (pendingKey key).map Segment.erased = pendingKey key := by
  unfold pendingKey
  split <;> rfl

/-- Pieces without their indexes are cut into the same segments, without theirs. -/
theorem segmentsFrom_erased (key : List Char) (lexemes : List Lexeme) :
    segmentsFrom key (lexemes.map Lexeme.erased) =
      (segmentsFrom key lexemes).map Segment.erased := by
  -- The key is generalised, since characters are gathered for it.
  induction lexemes generalizing key with
  | nil => exact (map_erased_pendingKey key).symm
  | cons lexeme rest ih =>
    rw [List.map_cons]
    cases lexeme with
    | bracket digits =>
      -- Whether there are digits makes the difference between an index and a wildcard.
      have pair : (bracketSegment digits).erased = .wildcard := by
        unfold bracketSegment
        split <;> rfl
      rw [segmentsFrom, List.map_append, List.map_cons, map_erased_pendingKey, pair, ← ih]
      rfl
    | char c =>
      show segmentsFrom key (.char c :: rest.map Lexeme.erased) = _
      rw [segmentsFrom, segmentsFrom]
      split
      · exact ih (c :: key)
      · rw [List.map_append, map_erased_pendingKey, ← ih]

/-- A path that lost its indexes has the segments of the path, without theirs. -/
theorem segmentsOf_normalizePath (path : String) :
    segmentsOf (normalizePath path) = (segmentsOf path).map Segment.erased := by
  rw [segmentsOf, scan_normalizePath, segmentsFrom_erased, segmentsOf]

/-- A path without indexes has none that is too long. -/
theorem hasShortIndexes_normalizePath (path : String) :
    hasShortIndexes (normalizePath path) = true := by
  -- A pair that lost its digits has none left to be too many.
  rw [hasShortIndexes, scan_normalizePath, List.all_map, List.all_eq_true]
  intro lexeme _
  cases lexeme with
  | bracket digits => simp [Lexeme.erased, Lexeme.isShort]
  | char c => rfl

/-- A path that lost its indexes is always cut into segments, those of the path without theirs. -/
theorem splitPath_normalizePath (path : String) :
    splitPath (normalizePath path) = .ok ((segmentsOf path).map Segment.erased) := by
  rw [splitPath, hasShortIndexes_normalizePath, segmentsOf_normalizePath, NumeralError.guard_true]

/-- A path without indexes is always cut into its segments. -/
theorem splitPath_of_normal {path : String} (normal : normalizePath path = path) :
    splitPath path = .ok (segmentsOf path) := by
  -- A normal path is its own normal form, which has no index.
  have short := hasShortIndexes_normalizePath path
  rw [normal] at short
  rw [splitPath, short, NumeralError.guard_true]

/-- A text with digits filled into some of the bare bracket pairs of another one. -/
inductive Filled : List Char → List Char → Prop
  | done : Filled [] []
  | kept (c : Char) {bare text : List Char} : Filled bare text → Filled (c :: bare) (c :: text)
  | filled {digits bare text : List Char} : digits ≠ [] →
    (∀ c ∈ digits, isDecimalDigit c = true) → Filled bare text →
    Filled ('[' :: ']' :: bare) ('[' :: (digits ++ ']' :: text))

namespace Filled

/-- The digits filled into bracket pairs are all that tells the pieces of two texts apart. -/
theorem scanFrom_eq {bare text : List Char} (fills : Filled bare text)
    (pending : Option (List Char)) :
    (Lexeme.scanFrom pending text).map Lexeme.erased =
      (Lexeme.scanFrom pending bare).map Lexeme.erased := by
  -- The texts are read in step, so the same bracket is pending on both sides.
  induction fills generalizing pending with
  | done => rfl
  | kept c _ ih =>
    cases pending <;> simp only [Lexeme.scanFrom] <;> split_ifs <;> simp [ih]
  | @filled digits bare text given decimal _ ih =>
    -- The pair closes on both sides, whatever was pending before it opened.
    have full : Lexeme.scanFrom (some []) (digits ++ ']' :: text) =
        .bracket digits :: Lexeme.scanFrom none text := by
      rw [Lexeme.scanFrom_digits [] _ decimal, Lexeme.scanFrom, if_pos rfl, List.nil_append]
    have opening : isDecimalDigit '[' = false := by decide
    cases pending <;> simp [Lexeme.scanFrom, opening, full, ih, Lexeme.erased]

/-- Filling in digits does not change the normal form of a path. -/
theorem normalizePath_eq {bare path : String} (fills : Filled bare.toList path.toList) :
    normalizePath path = normalizePath bare := by
  -- The normal form is written from the pieces without their indexes.
  have letters := congrArg (List.flatMap Lexeme.written) (fills.scanFrom_eq none)
  rw [List.flatMap_map, List.flatMap_map] at letters
  exact congrArg String.ofList letters

end Filled

/-- A path fills its normal form. -/
theorem filled_normalizePath (path : String) :
    Filled (normalizePath path).toList path.toList := by
  -- Each piece fills itself without its index.
  have general : ∀ lexemes : List Lexeme,
      (∀ digits, .bracket digits ∈ lexemes → ∀ c ∈ digits, isDecimalDigit c = true) →
      Filled (Lexeme.writtenErased lexemes) (lexemes.flatMap Lexeme.written) := by
    intro lexemes
    induction lexemes with
    | nil => exact fun _ => .done
    | cons lexeme rest ih =>
      intro decimal
      have tail := ih fun digits member => decimal digits (List.mem_cons_of_mem lexeme member)
      cases lexeme with
      | char c => exact .kept c tail
      | bracket digits =>
        -- A pair that had no digits is kept, bracket by bracket.
        by_cases given : digits = []
        · subst given
          exact .kept '[' (.kept ']' tail)
        · have pair := Filled.filled given (decimal digits (by simp)) tail
          rw [List.flatMap_cons, Lexeme.written, List.cons_append, List.append_assoc]
          exact pair
  have pieces := general (Lexeme.scan path.toList) fun digits => Lexeme.decimal_of_scan
  rw [Lexeme.written_scan] at pieces
  rw [normalizePath, String.toList_ofList]
  exact pieces

/-- A path is normal to another exactly if that one has no index, and is filled by the path. -/
theorem normalizePath_eq_iff {path normal : String} :
    normalizePath path = normal ↔
      normalizePath normal = normal ∧ Filled normal.toList path.toList := by
  constructor
  · rintro rfl
    exact ⟨normalizePath_normalizePath path, filled_normalizePath path⟩
  · rintro ⟨bare, fills⟩
    exact fills.normalizePath_eq.trans bare

end DeliveryRules
