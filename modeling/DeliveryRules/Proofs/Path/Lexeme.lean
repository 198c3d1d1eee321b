import DeliveryRules.Path.Lexeme
import Mathlib.Data.List.Basic

/-! The pieces of a path are the path itself, and paths without brackets have no index to lose. -/

namespace DeliveryRules

namespace Lexeme

/-- The characters of a bracket that may still close. -/
def opened (pending : Option (List Char)) : List Char :=
  match pending with
  | none => []
  | some digits => '[' :: digits

/-- A bracket that never closed is written as the characters it was made of. -/
theorem written_unclosed (digits : List Char) :
    (unclosed digits).flatMap written = '[' :: digits := by
  simp [unclosed, written, List.flatMap_map]

/-- The pieces of some characters are written as these characters, after those still pending. -/
theorem written_scanFrom (pending : Option (List Char)) (letters : List Char) :
    (scanFrom pending letters).flatMap written = opened pending ++ letters := by
  -- What is pending is generalised, since a bracket may be open between two characters.
  induction letters generalizing pending with
  | nil =>
    cases pending with
    | none => rfl
    | some digits => simp [scanFrom, written_unclosed, opened]
  | cons c rest ih =>
    cases pending with
    | none =>
      rw [scanFrom]
      split_ifs with opening
      · simp [ih, opened, opening]
      · simp [ih, opened, written]
    | some digits =>
      rw [scanFrom]
      -- The bracket closes, takes in a digit, gives way to another bracket, or is none.
      split_ifs with closing digit opening
      · simp [ih, opened, written, closing]
      · simp [ih, opened]
      · simp [ih, opened, opening, written_unclosed]
      · simp [ih, opened, written, written_unclosed]

/-- The pieces of a path are written as the path. -/
theorem written_scan (path : List Char) : (scan path).flatMap written = path :=
  written_scanFrom none path

/-- Characters without an opening bracket are pieces of their own. -/
theorem scan_plain {plain : List Char} (rest : List Char) (unopened : '[' ∉ plain) :
    scan (plain ++ rest) = plain.map .char ++ scan rest := by
  -- Each character is taken off the front, with nothing pending.
  induction plain with
  | nil => rfl
  | cons c others ih =>
    have other : c ≠ '[' := fun same => unopened (by simp [same])
    have tail := ih fun member => unopened (List.mem_cons_of_mem c member)
    -- No bracket is pending before or after the character.
    show scanFrom none (c :: (others ++ rest)) = _
    rw [scanFrom, if_neg other]
    exact congrArg (Lexeme.char c :: ·) tail

/-- A bracket that may still close takes in the digits that follow it. -/
theorem scanFrom_digits {digits : List Char} (earlier rest : List Char)
    (decimal : ∀ c ∈ digits, isDecimalDigit c = true) :
    scanFrom (some earlier) (digits ++ rest) = scanFrom (some (earlier ++ digits)) rest := by
  -- The digits so far are generalised, since each digit is put behind them.
  induction digits generalizing earlier with
  | nil => simp
  | cons c others ih =>
    have digit : isDecimalDigit c = true := decimal c (by simp)
    have tail : ∀ c ∈ others, isDecimalDigit c = true :=
      fun other member => decimal other (by simp [member])
    -- The closing bracket is no digit, so the bracket does not close here.
    have open_ : c ≠ ']' := by
      rintro rfl
      exact absurd digit (by decide)
    rw [List.cons_append, scanFrom, if_neg open_, if_pos digit, ih (earlier ++ [c]) tail]
    simp

/-- A bracket pair with digits or nothing in it is one piece. -/
theorem scan_bracket {digits : List Char} (rest : List Char)
    (decimal : ∀ c ∈ digits, isDecimalDigit c = true) :
    scan ('[' :: (digits ++ ']' :: rest)) = .bracket digits :: scan rest := by
  show scanFrom (some []) (digits ++ ']' :: rest) = _
  rw [scanFrom_digits [] _ decimal, scanFrom, if_pos rfl]
  rfl

/-- Only digits stand in the bracket pairs that a scan finds, if only digits were pending. -/
theorem decimal_of_scanFrom (pending : Option (List Char)) {letters digits : List Char}
    (before : ∀ earlier ∈ pending, ∀ c ∈ earlier, isDecimalDigit c = true)
    (found : .bracket digits ∈ scanFrom pending letters) :
    ∀ c ∈ digits, isDecimalDigit c = true := by
  -- What is pending is generalised, and holds only digits at any time.
  induction letters generalizing pending with
  | nil =>
    cases pending with
    | none => simp [scanFrom] at found
    | some earlier => simp [scanFrom, unclosed] at found
  | cons c rest ih =>
    cases pending with
    | none =>
      -- A bracket that opens has no digits yet.
      rw [scanFrom] at found
      split_ifs at found with opening
      · exact ih (some []) (by simp) found
      · exact ih none (by simp) (by simpa using found)
    | some earlier =>
      have known : ∀ c ∈ earlier, isDecimalDigit c = true := before earlier rfl
      rw [scanFrom] at found
      split_ifs at found with closing digit opening
      · -- The pair that closes here holds the digits that were pending.
        rcases List.mem_cons.mp found with same | later
        · cases same
          exact known
        · exact ih none (by simp) later
      · -- The bracket takes in a digit.
        refine ih (some (earlier ++ [c])) ?_ found
        simpa [or_imp, forall_and, digit] using known
      · -- A bracket that does not close is no pair, so the pair comes later.
        exact ih (some []) (by simp) (by simpa [unclosed] using found)
      · exact ih none (by simp) (by simpa [unclosed] using found)

/-- Only digits stand in the bracket pairs of a path. -/
theorem decimal_of_scan {path digits : List Char} (found : .bracket digits ∈ scan path) :
    ∀ c ∈ digits, isDecimalDigit c = true :=
  decimal_of_scanFrom none (by simp) found

/-- A piece that is written without an opening bracket has no index to lose. -/
theorem erased_of_plain {lexeme : Lexeme} (plain : '[' ∉ lexeme.erased.written) :
    lexeme.erased = lexeme := by
  -- Every bracket pair is written with an opening bracket.
  cases lexeme with
  | bracket digits => simp [erased, written] at plain
  | char c => rfl

end Lexeme

/-- A path whose pieces have no index to lose is normal. -/
theorem normalizePath_of_erased {path : String}
    (bare : ∀ lexeme ∈ Lexeme.scan path.toList, lexeme.erased = lexeme) :
    normalizePath path = path := by
  -- The normal form differs from the path only in what the pieces lose.
  have same : (Lexeme.scan path.toList).flatMap (fun lexeme => lexeme.erased.written) =
      (Lexeme.scan path.toList).flatMap Lexeme.written :=
    List.flatMap_congr fun lexeme member => by rw [bare lexeme member]
  rw [normalizePath, same, Lexeme.written_scan, String.ofList_toList]

/-- A path that is normal without brackets was given like that. -/
theorem eq_of_normalizePath {path name : String} (plain : '[' ∉ name.toList)
    (normal : normalizePath path = name) : path = name := by
  have letters := congrArg String.toList normal
  simp only [normalizePath, String.toList_ofList] at letters
  -- No piece of the path is a bracket pair, so nothing was taken out of it.
  have unchanged : ∀ lexeme ∈ Lexeme.scan path.toList, lexeme.erased = lexeme := by
    intro lexeme member
    refine Lexeme.erased_of_plain fun bracket => plain ?_
    rw [← letters]
    exact List.mem_flatMap.mpr ⟨lexeme, member, bracket⟩
  exact (normalizePath_of_erased unchanged).symm.trans normal

end DeliveryRules
