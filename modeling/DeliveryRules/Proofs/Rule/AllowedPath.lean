import DeliveryRules.Catalog.Packaged
import DeliveryRules.Proofs.Catalog.DeclaredPath
import DeliveryRules.Proofs.Path.Normal
import DeliveryRules.Rule.Validation

/-! References that a check lets through are well formed, and single out a path of the catalog. -/

namespace DeliveryRules

/-- Whether a path is dotted: names with dots between them, each with any number of bare pairs. -/
def IsDotted (path : String) : Prop := ∃ parts, parts ≠ [] ∧ path.toList = dotted parts

namespace IsDotted

variable {path : String} (isDotted : IsDotted path)

include isDotted

/-- A dotted path has no index to lose. -/
theorem normalizePath_eq : normalizePath path = path := by
  obtain ⟨parts, filled, written⟩ := isDotted
  have whole : path.toList = dotted parts ++ [] := by rw [written, List.append_nil]
  exact normalizePath_of_erased (erased_of_dotted whole (.inl rfl))

/-- A dotted path is well formed. -/
theorem isWellFormedPath : isWellFormedPath path = true := by
  obtain ⟨parts, filled, written⟩ := isDotted
  have whole : path.toList = dotted parts ++ [] := by rw [written, List.append_nil]
  exact (isWellFormedPath_of_dotted whole (.inl rfl) filled).mpr (.inl rfl)

end IsDotted

/--
Taking the indexes out of a path changes nothing but the indexes.

It is done once and for all, leaves a path as well formed as it was, and leaves its segments as
they are, indexes becoming wildcards; only indexes that are too long to be read are lost with it.
The paths that are normal to a dotted one are those that fill some of its bracket pairs; so a
reference that a check lets through for a dotted path of the catalog is well formed, and its
segments are those of that path with indexes for some wildcards.
-/
theorem normalizePath_keeps :
    (∀ path, normalizePath (normalizePath path) = normalizePath path) ∧
    (∀ path, isWellFormedPath path = true ↔ isWellFormedPath (normalizePath path) = true) ∧
    (∀ path, ∃ segments, splitPath path = NumeralError.guard (hasShortIndexes path) segments ∧
      splitPath (normalizePath path) = .ok (segments.map Segment.erased)) ∧
    (∀ declared path, IsDotted declared →
      (normalizePath path = declared ↔ Filled declared.toList path.toList)) ∧
    (∀ (catalog : Catalog) (category : Category) (path : String),
      isAllowed (catalog.pathsFor category) path = true → IsDotted (normalizePath path) →
      isWellFormedPath path = true ∧
        ∃ declared ∈ catalog.pathsFor category, Filled declared.toList path.toList ∧
          ∃ segments, splitPath path = NumeralError.guard (hasShortIndexes path) segments ∧
            splitPath declared = .ok (segments.map Segment.erased)) := by
  have wellFormed : ∀ path,
      isWellFormedPath path = true ↔ isWellFormedPath (normalizePath path) = true := by
    intro path
    rw [isWellFormedPath_normalizePath]
  refine ⟨normalizePath_normalizePath, wellFormed,
    fun path => ⟨_, rfl, splitPath_normalizePath path⟩, ?_, ?_⟩
  · -- A dotted path is its own normal form, so filling it is all that is asked of the other.
    intro declared path isDotted
    rw [normalizePath_eq_iff]
    exact and_iff_right isDotted.normalizePath_eq
  · -- The path of the catalog is the normal form of the reference.
    intro catalog category path allowed isDotted
    have listed : normalizePath path ∈ catalog.pathsFor category := by
      simpa [isAllowed] using allowed
    exact ⟨(wellFormed path).mpr isDotted.isWellFormedPath, normalizePath path, listed,
      filled_normalizePath path, _, rfl, splitPath_normalizePath path⟩

/-- The fee of a quote is let through and read, with its index in digits of two scripts. -/
theorem normalizePath_keeps_fee :
    let path := "provider_quotes[0\u0663].fee"
    isAllowed (Catalog.packaged.pathsFor .quoteEvaluation) path = true ∧
      IsDotted (normalizePath path) ∧ Filled "provider_quotes[].fee".toList path.toList ∧
      isWellFormedPath path = true ∧
      ∃ declared ∈ Catalog.packaged.pathsFor .quoteEvaluation, ∃ segments,
        splitPath path = .ok segments ∧ splitPath declared = .ok (segments.map Segment.erased) := by
  intro path
  obtain ⟨_, _, _, fills, reads⟩ := normalizePath_keeps
  -- The two digits are of different scripts, and both go with the index.
  have normal : normalizePath path = "provider_quotes[].fee" := by decide
  have isDotted : IsDotted (normalizePath path) := by
    rw [normal]
    exact exists_dotted (by decide)
  have allowed : isAllowed (Catalog.packaged.pathsFor .quoteEvaluation) path = true := by decide
  have short : hasShortIndexes path = true := by decide
  obtain ⟨wellFormed, declared, listed, _, segments, own, others⟩ := reads _ _ path allowed isDotted
  rw [short, NumeralError.guard_true] at own
  exact ⟨allowed, isDotted, (fills _ path (normal ▸ isDotted)).mp normal, wellFormed, declared,
    listed, segments, own, others⟩

/-- An index with one digit too many is lost without being read, and cannot be read itself. -/
theorem normalizePath_tooLong :
    let path := String.ofList ('[' :: (List.replicate 4301 '1' ++ [']']))
    splitPath path = .error .tooManyDigits ∧
      splitPath (normalizePath path) = .ok [.wildcard] := by
  intro path
  have spelling : path = pathOf [.tooLong] := by
    simp [-List.reduceReplicate, path, pathOf, spelled, PathStep.written, PathStep.tooLong,
      digitLimit]
  have long : splitPath path = .error .tooManyDigits := by
    rw [spelling, splitPath_pathOf]
    simp [PathStep.isShort_tooLong]
  refine ⟨long, ?_⟩
  -- The one segment of the path is an index, whatever its digits.
  rw [splitPath_normalizePath, spelling, segmentsOf_pathOf]
  rfl

end DeliveryRules
