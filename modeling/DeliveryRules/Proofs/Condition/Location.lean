import DeliveryRules.Proofs.Condition.Shape
import DeliveryRules.Proofs.Text.Numeral

/-! The text of a place in a tree tells the place, as long as keys hold no opening bracket. -/

namespace DeliveryRules

/-- Lists that each hold a mark once they are over agree before it and after it. -/
theorem append_mark_inj {α : Type} {mark : α} {left right rest others : List α}
    (unmarked : mark ∉ left) (unmarked' : mark ∉ right)
    (same : left ++ mark :: rest = right ++ mark :: others) : left = right ∧ rest = others := by
  -- The mark ends both lists at once, as neither holds it before.
  induction left generalizing right with
  | nil =>
    cases right with
    | nil => simpa using same
    | cons head tail =>
      simp only [List.nil_append, List.cons_append, List.cons.injEq] at same
      simp [same.1] at unmarked'
  | cons first left ih =>
    cases right with
    | nil =>
      simp only [List.nil_append, List.cons_append, List.cons.injEq] at same
      simp [same.1] at unmarked
    | cons head tail =>
      simp only [List.cons_append, List.cons.injEq] at same
      obtain ⟨rfl, same⟩ := same
      simp only [List.mem_cons, not_or] at unmarked unmarked'
      obtain ⟨rfl, rest⟩ := ih unmarked.2 unmarked'.2 same
      exact ⟨rfl, rest⟩

/-- Whether a key holds no opening bracket. -/
def isPlainKey (tag : String) : Bool := !tag.toList.contains '['

/-- The keys that nodes have are without brackets. -/
theorem isPlainKey_of_known {tag : String} (known : Value.isKnownKey tag = true) :
    isPlainKey tag = true := by
  -- There are only so many known keys, and none of them has a bracket in it.
  simp only [Value.isKnownKey, Bool.or_eq_true, beq_iff_eq, Option.isSome_iff_exists] at known
  rcases known with rfl | ⟨operator, found⟩
  · decide
  · obtain rfl := Operator.ofTag?_eq_some.mp found
    rcases operator with comparator | connective | _
    · cases comparator <;> decide
    · cases connective <;> decide
    · decide

namespace Step

/-- A step as it is written in the text of a place. -/
def written (step : Step) : List Char :=
  '.' :: (step.tag.toList ++ '[' :: (digitsOf step.index ++ [']']))

/-- The first of some steps can be told from the text, and so can the text after it. -/
theorem written_append_inj {step other : Step} {rest others : List Char}
    (plain : isPlainKey step.tag = true) (plain' : isPlainKey other.tag = true)
    (same : step.written ++ rest = other.written ++ others) : step = other ∧ rest = others := by
  simp only [written, List.cons_append, List.append_assoc, List.cons.injEq, true_and,
    List.nil_append] at same
  -- The key ends at the opening bracket, and the numeral at the closing one.
  obtain ⟨tags, same⟩ := append_mark_inj (by simpa [isPlainKey] using plain)
    (by simpa [isPlainKey] using plain') same
  obtain ⟨numerals, same⟩ := append_mark_inj (bracket_notMem_digitsOf _)
    (bracket_notMem_digitsOf _) same
  refine ⟨?_, same⟩
  cases step
  cases other
  simp only [Step.mk.injEq]
  exact ⟨String.toList_inj.mp tags, digitsOf_injective numerals⟩

end Step

namespace Location

/-- The key at the end of a place as it is written. -/
def writtenTag (tag : Option String) : List Char :=
  match tag with
  | some tag => '.' :: tag.toList
  | none => []

/-- The text of a place is a dollar, the steps to it, and the key if there is one. -/
theorem toList_text (location : Location) :
    location.text.toList =
      '$' :: (location.steps.flatMap Step.written ++ writtenTag location.tag) := by
  -- The text is made of pieces, which are turned into their characters one by one.
  obtain ⟨steps, tag⟩ := location
  cases tag <;>
    simp [text, String.toList_append, String.toList_join, List.flatMap_map, numeral, writtenTag] <;>
    rfl

/-- A step is never mistaken for the key at the end of a place. -/
theorem written_ne_writtenTag {step : Step} {rest : List Char} {tag : Option String}
    (plain : tag.all isPlainKey = true) : step.written ++ rest ≠ writtenTag tag := by
  -- A step has an opening bracket after its key, which a key alone does not hold.
  intro same
  cases tag with
  | none => simp [Step.written, writtenTag] at same
  | some tag =>
    simp only [Step.written, writtenTag, List.cons_append, List.append_assoc, List.cons.injEq,
      true_and] at same
    have bracket : '[' ∈ tag.toList := by simp [← same]
    simp [isPlainKey, bracket] at plain

/-- What is written of a place with plain keys tells its steps and the key at its end. -/
theorem written_injective {steps others : List Step} {tag other : Option String}
    (plainSteps : steps.all (fun step => isPlainKey step.tag) = true)
    (plainOthers : others.all (fun step => isPlainKey step.tag) = true)
    (plainTag : tag.all isPlainKey = true) (plainOther : other.all isPlainKey = true)
    (same : steps.flatMap Step.written ++ writtenTag tag =
      others.flatMap Step.written ++ writtenTag other) : steps = others ∧ tag = other := by
  -- The steps are told apart one by one, and the key is what is left after them.
  induction steps generalizing others with
  | nil =>
    cases others with
    | nil => cases tag <;> cases other <;> simp_all [writtenTag, String.toList_inj]
    | cons step rest =>
      simp only [List.flatMap_nil, List.nil_append, List.flatMap_cons, List.append_assoc] at same
      exact absurd same.symm (written_ne_writtenTag plainTag)
  | cons step rest ih =>
    cases others with
    | nil =>
      simp only [List.flatMap_nil, List.nil_append, List.flatMap_cons, List.append_assoc] at same
      exact absurd same (written_ne_writtenTag plainOther)
    | cons first others =>
      simp only [List.flatMap_cons, List.append_assoc] at same
      simp only [List.all_cons, Bool.and_eq_true] at plainSteps plainOthers
      obtain ⟨rfl, tails⟩ := Step.written_append_inj plainSteps.1 plainOthers.1 same
      obtain ⟨rfl, rfl⟩ := ih plainSteps.2 plainOthers.2 tails
      exact ⟨rfl, rfl⟩

/-- Whether every key in a place is without an opening bracket. -/
def isPlain (location : Location) : Bool :=
  location.steps.all (fun step => isPlainKey step.tag) && location.tag.all isPlainKey

/-- Places with plain keys differ in their texts if they differ at all. -/
theorem text_injective {place other : Location} (plain : place.isPlain = true)
    (plain' : other.isPlain = true) (same : place.text = other.text) : place = other := by
  -- What is equal as a text is equal as the characters behind the dollar.
  simp only [isPlain, Bool.and_eq_true] at plain plain'
  have letters := congrArg String.toList same
  rw [toList_text, toList_text, List.cons.injEq] at letters
  obtain ⟨steps, tags⟩ := written_injective plain.1 plain'.1 plain.2 plain'.2 letters.2
  cases place
  cases other
  simp_all

end Location

end DeliveryRules
