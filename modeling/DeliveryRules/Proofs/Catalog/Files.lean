import DeliveryRules.Catalog.Files
import DeliveryRules.Proofs.Outcome
import Mathlib.Data.String.Basic

/-! A file is refused by the operating system, unless its name holds a NUL or it is no text. -/

namespace DeliveryRules

section Parts

variable {α : Type} {element : α}

/-- The parts that a list is split into hold elements of the list only. -/
theorem mem_of_mem_splitOnP {p : α → Bool} {list part : List α} (listed : part ∈ list.splitOnP p)
    (held : element ∈ part) : element ∈ list := by
  -- The induction is on the list, with the part generalised: it may begin or not at the first
  -- element.
  induction list generalizing part with
  | nil =>
    rw [List.splitOnP_nil, List.mem_singleton] at listed
    exact listed ▸ held
  | cons first rest ih =>
    rw [List.splitOnP_cons_eq_if_modifyHead] at listed
    split at listed
    · rcases List.mem_cons.mp listed with rfl | later
      · cases held
      · exact List.mem_cons_of_mem first (ih later held)
    -- The first element goes in front of the first part of what comes after it.
    · obtain ⟨head, parts, split⟩ := List.exists_cons_of_ne_nil (List.splitOnP_ne_nil p rest)
      rw [split, List.modifyHead_cons] at listed
      rw [split] at ih
      rcases List.mem_cons.mp listed with rfl | later
      · rcases List.mem_cons.mp held with rfl | inner
        · exact List.mem_cons_self
        · exact List.mem_cons_of_mem first (ih List.mem_cons_self inner)
      · exact List.mem_cons_of_mem first (ih (List.mem_cons_of_mem head later) held)

/-- What joined parts hold stands in the separator or in one of the parts. -/
theorem mem_intercalate {separator : List α} {parts : List (List α)}
    (held : element ∈ separator.intercalate parts) :
    element ∈ separator ∨ ∃ part ∈ parts, element ∈ part := by
  -- A separator stands between two parts only, so a single part is a case of its own.
  induction parts with
  | nil => simp at held
  | cons first rest ih =>
    cases rest with
    | nil => exact .inr ⟨first, List.mem_cons_self, by simpa using held⟩
    | cons second rest =>
      rw [List.intercalate_cons_cons, List.mem_append, List.mem_append] at held
      rcases held with (here | between) | later
      · exact .inr ⟨first, List.mem_cons_self, here⟩
      · exact .inl between
      · exact (ih later).imp_right fun ⟨part, listed, inner⟩ =>
          ⟨part, List.mem_cons_of_mem first listed, inner⟩

end Parts

/-- The steps of a name hold characters of the name only. -/
theorem mem_of_mem_nameSteps {name step : String} {c : Char} (listed : step ∈ nameSteps name)
    (held : c ∈ step.toList) : c ∈ name.toList := by
  -- The steps are some of the parts between slashes.
  rw [nameSteps, String.splitToList_of_valid] at listed
  obtain ⟨part, split, rfl⟩ := List.mem_map.mp (List.mem_filter.mp listed).1
  rw [String.toList_ofList] at held
  exact mem_of_mem_splitOnP split held

/-- The shortest spelling of a name holds no new characters but slashes and dots. -/
theorem mem_of_mem_cleanName {name : String} {c : Char} (held : c ∈ (cleanName name).toList)
    (slash : c ≠ '/') (dot : c ≠ '.') : c ∈ name.toList := by
  -- What is put together is the root, which is all slashes, the steps and slashes between them.
  have root : c ∉ (nameRoot name).toList := by
    unfold nameRoot
    split <;> simp [slash]
  simp only [cleanName] at held
  split at held
  · simp [dot] at held
  · rw [String.toList_append, List.mem_append, String.toList_intercalate] at held
    rcases mem_intercalate (held.resolve_left root) with mark | ⟨part, listed, inner⟩
    · simp [slash] at mark
    · obtain ⟨step, taken, rfl⟩ := List.mem_map.mp listed
      exact mem_of_mem_nameSteps taken inner

namespace Files

variable {files : Files} {name : String} {reason : FileError}

/-- A walk along the steps of a name only fails as the operating system does. -/
theorem isForeseen_of_walk {clean : String} {place : Directory} {steps : List String}
    (refused : files.walk clean place steps = .error reason) : reason.isForeseen = true := by
  -- The induction follows the walk, which gives the same reason as the rest of it.
  revert refused
  fun_induction walk files clean place steps <;> simp_all [FileError.isForeseen]
  -- Where a step fails, the reason is one of those that were just looked at.
  all_goals rintro rfl; rfl

/-- The bytes of a file are refused for an unforeseen reason only if its name holds a NUL. -/
theorem bytesOf_error (refused : files.bytesOf name = .error reason) :
    reason.isForeseen = true ∨
      reason = .unusableName (cleanName name) ∧ '\x00' ∈ name.toList := by
  -- The name is looked at first, and then taken apart to be walked along.
  simp only [bytesOf] at refused
  split at refused
  · next holds =>
    cases refused
    rw [String.contains_char_eq, decide_eq_true_eq] at holds
    exact .inr ⟨rfl, mem_of_mem_cleanName holds (by decide) (by decide)⟩
  split at refused
  · cases refused
    exact .inl rfl
  · exact .inl (isForeseen_of_walk refused)

/-- A file is refused for an unforeseen reason if its name holds a NUL, or its bytes are no text. -/
theorem read_error (refused : files.read name = .error reason) :
    reason.isForeseen = true ∨
      (reason = .unusableName (cleanName name) ∧ '\x00' ∈ name.toList) ∨
      reason = .notText (cleanName name) ∧
        ∃ octets, files.bytesOf name = .ok octets ∧ decodeText octets = none := by
  -- Either there are no bytes, or there are some that are no text.
  rcases bind_eq_error.mp refused with closed | ⟨octets, found, undecoded⟩
  · exact (bytesOf_error closed).imp_right .inl
  · unfold decodeFile at undecoded
    split at undecoded
    · cases undecoded
    · rename_i garbled
      cases undecoded
      exact .inr (.inr ⟨rfl, octets, found, garbled⟩)

end Files

/-- The text of a file in UTF-8 is the text itself, with line feeds at the ends of its lines. -/
theorem decodeText_toUTF8 (text : String) :
    decodeText text.toUTF8 = some (String.ofList (withLineFeeds (fun _ => false) text.toList)) := by
  have valid : text.toUTF8.IsValidUTF8 := text.isValidUTF8
  rw [decodeText, String.fromUTF8?, dif_pos valid]
  rfl

end DeliveryRules
