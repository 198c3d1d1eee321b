import DeliveryRules.Catalog.Loader
import DeliveryRules.Proofs.Catalog.Reader
import DeliveryRules.Proofs.Text.Numeral

/-! Which of four answers a document gets: empty, outdated, a catalog, or the issues it has. -/

namespace DeliveryRules

/-- A document is outdated if the version it declares, as a text, is neither 1 nor one below it. -/
def IsOutdated (members : Members) : Prop :=
  let version := (declaredVersion members).spoken
  version ≠ "1" ∧ ∀ minor, version ≠ "1." ++ minor

/-- The major version of a text is the current one if the text is 1, or goes on with a dot. -/
theorem majorVersion_eq_iff (version : String) :
    majorVersion version = majorVersion schemaVersion ↔
      version = "1" ∨ ∃ minor, version = "1." ++ minor := by
  rw [show majorVersion schemaVersion = ['1'] by decide, majorVersion]
  -- The first part is compared letter by letter, so the text begins with a 1.
  constructor
  · intro major
    cases written : version.toList with
    | nil => simp [written] at major
    | cons first rest =>
      rw [written] at major
      -- Past the 1 there is either nothing or the dot that ends the first part.
      have parts : first = '1' ∧ rest.takeWhile (· != '.') = [] := by
        rw [List.takeWhile_cons] at major
        split at major <;> simp_all
      obtain ⟨rfl, ended⟩ := parts
      cases rest with
      | nil => exact .inl (String.toList_inj.mp written)
      | cons dot minor =>
        have dotted : dot = '.' := by simpa [List.takeWhile_cons] using ended
        subst dotted
        refine .inr ⟨String.ofList minor, String.toList_inj.mp ?_⟩
        simp [written]
  · rintro (rfl | ⟨minor, rfl⟩)
    · decide
    · simp

/-- A document is current if the version it may declare can be compared, and is not outdated. -/
def IsCurrent (value : Value) : Prop :=
  ∀ members, value = .object members →
    (declaredVersion members).isWritable = true ∧ ¬IsOutdated members

/-- A version that can be compared is of the current major one unless it is outdated. -/
theorem isCurrentVersion_eq_ok_iff {members : Members} {isCurrent : Bool}
    (writable : (declaredVersion members).isWritable = true) :
    isCurrentVersion (declaredVersion members) = .ok isCurrent ↔
      (isCurrent = true ↔ ¬IsOutdated members) := by
  -- Being outdated is the negation of what the comparison asks for.
  have major := majorVersion_eq_iff (declaredVersion members).spoken
  have current : ¬IsOutdated members ↔
      majorVersion (declaredVersion members).spoken = majorVersion schemaVersion := by
    rw [major, IsOutdated, not_and_or, not_not, not_forall]
    simp only [not_not]
  rw [isCurrentVersion, writable, NumeralError.guard_true, current, Except.ok.injEq]
  cases isCurrent <;> simp

/-- A version that is too long to be compared stops a strict reader. -/
theorem checkVersion_unwritable {members : Members}
    (long : (declaredVersion members).isWritable = false) :
    checkVersion (.object members) = .error (.unwritableVersion .tooManyDigits) := by
  rw [checkVersion, isCurrentVersion, long, NumeralError.guard_false]

/-- A document of another major version is turned away by a strict reader. -/
theorem checkVersion_outdated {members : Members}
    (writable : (declaredVersion members).isWritable = true) (outdated : IsOutdated members) :
    checkVersion (.object members) = .error (.versionMismatch (declaredVersion members)) := by
  -- The comparison has an answer, since the version can be written.
  have version : isCurrentVersion (declaredVersion members) = .ok false :=
    (isCurrentVersion_eq_ok_iff writable).mpr (by simp [outdated])
  rw [checkVersion, version]

/-- A strict reader goes on to read exactly the documents that are current. -/
theorem checkVersion_eq_ok_iff {value : Value} : checkVersion value = .ok () ↔ IsCurrent value := by
  cases value with
  | object members =>
    -- The version is written first, and only then compared.
    by_cases writable : (declaredVersion members).isWritable = true
    · by_cases outdated : IsOutdated members
      · rw [checkVersion_outdated writable outdated]
        simp [IsCurrent, outdated]
      · have version : isCurrentVersion (declaredVersion members) = .ok true :=
          (isCurrentVersion_eq_ok_iff writable).mpr (by simp [outdated])
        rw [checkVersion, version]
        simp [IsCurrent, writable, outdated]
    · rw [checkVersion_unwritable (Bool.eq_false_iff.mpr writable)]
      simp [IsCurrent, writable]
  | _ => simp [checkVersion, IsCurrent]

namespace Catalog

variable {strict : Bool} {source : Option String} {value : Value}

/-- A document that holds something and is not turned away gets the answer of the reader. -/
theorem ofValue_current (filled : value ≠ .null) (current : strict = true → IsCurrent value) :
    ofValue strict source value =
      match Schema.readCatalog value with
      | .ok entry => .ok (entry.toCatalog source)
      | .error issues => .error (.invalid issues source) := by
  -- The check of the version is passed, either because it is not made or because it succeeds.
  have passed : (if strict then checkVersion value else .ok ()) = .ok () := by
    cases strict with
    | false => rfl
    | true => exact checkVersion_eq_ok_iff.mpr (current rfl)
  cases value with
  | null => exact absurd rfl filled
  | _ => cases strict <;> simp_all [ofValue] <;> rfl

/-- A document that fails the check of its version gets no further with a strict reader. -/
theorem ofValue_unchecked {reason : CatalogError} (refused : checkVersion value = .error reason) :
    ofValue true source value = .error reason := by
  -- Only an object can fail the check, since nothing else declares a version.
  cases value with
  | object members => simp [ofValue, refused, Bind.bind, Except.bind]
  | _ => cases refused

/-- A catalog is loaded from a document that declares it, unless the document is turned away. -/
theorem ofValue_eq_ok_iff {catalog : Catalog} :
    ofValue strict source value = .ok catalog ↔
      (strict = true → IsCurrent value) ∧
        ∃ entry, DeclaresCatalog value entry ∧ catalog = entry.toCatalog source := by
  -- A document that is current gets the answer of the reader, which is exact.
  by_cases current : strict = true → IsCurrent value
  · cases value with
    | null =>
      simp only [ofValue, reduceCtorEq, false_iff]
      rintro ⟨_, entry, declared, _⟩
      cases declared
    | _ =>
      rw [ofValue_current (by simp) current, and_iff_right current]
      simp only [← (Schema.readCatalog_exact _).ok_iff]
      cases Schema.readCatalog _ <;> simp [eq_comm]
  · -- A document that is turned away is not read, whatever it declares.
    obtain ⟨rfl, outdated⟩ := Classical.not_imp.mp current
    refine ⟨fun loaded => ?_, fun answer => absurd answer.1 current⟩
    cases checked : checkVersion value with
    | ok _ => exact absurd (checkVersion_eq_ok_iff.mp checked) outdated
    | error reason =>
      rw [ofValue_unchecked checked] at loaded
      cases loaded

/-- A document that declares no catalog is refused with its issues, of which there are some. -/
theorem ofValue_refused (filled : value ≠ .null) (current : strict = true → IsCurrent value)
    (undeclared : ¬∃ entry, DeclaresCatalog value entry) :
    ∃ issues, issues ≠ [] ∧ ofValue strict source value = .error (.invalid issues source) := by
  have exact := Schema.readCatalog_exact value
  -- The reader is exact, so it cannot succeed here, and it reports something when it fails.
  cases outcome : Schema.readCatalog value with
  | ok entry => exact absurd ⟨entry, (exact.ok_iff entry).mp outcome⟩ undeclared
  | error issues =>
    refine ⟨issues, ?_, by rw [ofValue_current filled current, outcome]⟩
    rintro rfl
    exact exact.reported outcome

/--
Every document gets exactly one of five answers, the first of them that applies.

A document that is null is empty; to a strict reader, one whose version holds a number that is too
long to be written has no answer that is told, and one of another major version is turned away; one
that declares a catalog is that catalog; and any other has issues. Texts may be given as the bytes
of their UTF-8.
-/
theorem ofValue_answer (strict : Bool) (source : Option String) (value : Value) :
    (value = .null ∧ ofValue strict source value = .error (.empty source)) ∨
      (∃ members, value = .object members ∧ strict = true ∧
        (declaredVersion members).isWritable = false ∧
        ofValue strict source value = .error (.unwritableVersion .tooManyDigits)) ∨
      (∃ members, value = .object members ∧ strict = true ∧
        (declaredVersion members).isWritable = true ∧ IsOutdated members ∧
        ofValue strict source value = .error (.versionMismatch (declaredVersion members))) ∨
      (value ≠ .null ∧ (strict = true → IsCurrent value) ∧
        ((∃ entry, DeclaresCatalog value entry ∧
            ofValue strict source value = .ok (entry.toCatalog source)) ∨
          (¬∃ entry, DeclaresCatalog value entry) ∧ ∃ issues, issues ≠ [] ∧
            ofValue strict source value = .error (.invalid issues source))) := by
  -- The questions are asked in the order of the answers: is it null, current, declared?
  by_cases empty : value = .null
  · subst empty
    exact .inl ⟨rfl, rfl⟩
  by_cases current : strict = true → IsCurrent value
  · refine .inr (.inr (.inr ⟨empty, current, ?_⟩))
    by_cases declared : ∃ entry, DeclaresCatalog value entry
    · obtain ⟨entry, declares⟩ := declared
      exact .inl ⟨entry, declares, ofValue_eq_ok_iff.mpr ⟨current, entry, declares, rfl⟩⟩
    · exact .inr ⟨declared, ofValue_refused empty current declared⟩
  obtain ⟨rfl, other⟩ := Classical.not_imp.mp current
  -- Only an object declares a version, and only one that can be written is compared.
  rw [IsCurrent, not_forall] at other
  obtain ⟨members, other⟩ := other
  obtain ⟨rfl, version⟩ := Classical.not_imp.mp other
  by_cases writable : (declaredVersion members).isWritable = true
  · have outdated : IsOutdated members := by simpa [writable] using version
    exact .inr (.inr (.inl ⟨members, rfl, rfl, writable, outdated,
      ofValue_unchecked (checkVersion_outdated writable outdated)⟩))
  · have long := Bool.eq_false_iff.mpr writable
    exact .inr (.inl ⟨members, rfl, rfl, long, ofValue_unchecked (checkVersion_unwritable long)⟩)

/-- A group is loaded whose name is given as bytes, although no member of it is that text. -/
theorem ofValue_bytesName :
    let members : Members := [("name", .bytes [99, 105, 116, 121]),
      ("categories", .list [.text "provider_selection"]), ("kind", .text "string")]
    (∀ content, members.lookup "name" ≠ some (.text content)) ∧
      ofValue true none (.list [.object members]) =
        .ok ⟨[⟨"city", [.providerSelection], [], some .string, none⟩], "1.0.0", none⟩ := by
  refine ⟨fun content => by simp, ?_⟩
  rfl

end Catalog

end DeliveryRules
