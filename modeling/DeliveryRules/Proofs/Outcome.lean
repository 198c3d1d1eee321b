import Mathlib.Data.List.Forall2

/-! Computations that may fail, taken apart at the steps they are made of. -/

namespace DeliveryRules

variable {ε α β : Type}

/-- Two steps give a result exactly if the first gives one from which the second does. -/
theorem bind_eq_ok {first : Except ε α} {next : α → Except ε β} {result : β} :
    first >>= next = .ok result ↔ ∃ value, first = .ok value ∧ next value = .ok result := by
  cases first <;> simp [Bind.bind, Except.bind]

/-- Two steps fail exactly if the first does, or gives a result on which the second does. -/
theorem bind_eq_error {first : Except ε α} {next : α → Except ε β} {fault : ε} :
    first >>= next = .error fault ↔
      first = .error fault ∨ ∃ value, first = .ok value ∧ next value = .error fault := by
  cases first <;> simp [Bind.bind, Except.bind]

/-- A changed result comes from a result. -/
theorem map_eq_ok {change : α → β} {outcome : Except ε α} {result : β} :
    change <$> outcome = .ok result ↔ ∃ value, outcome = .ok value ∧ result = change value := by
  cases outcome <;> simp [Functor.map, Except.map, eq_comm]

/-- A changed result fails where there is none to change. -/
theorem map_eq_error {change : α → β} {outcome : Except ε α} {fault : ε} :
    change <$> outcome = .error fault ↔ outcome = .error fault := by
  cases outcome <;> simp [Functor.map, Except.map]

/-- Steps over a list give results if each of them gives one. -/
theorem mapM_total {step : α → Except ε β} {items : List α}
    (each : ∀ item ∈ items, ∃ result, step item = .ok result) :
    ∃ results, items.mapM step = .ok results := by
  -- The results of the first item and of the others are put together.
  induction items with
  | nil => exact ⟨[], rfl⟩
  | cons item rest ih =>
    obtain ⟨result, head⟩ := each item (by simp)
    obtain ⟨results, tail⟩ := ih fun other member => each other (by simp [member])
    refine ⟨result :: results, ?_⟩
    rw [List.mapM_cons, head, tail]
    rfl

/-- What steps over a list give comes from its items, in order. -/
theorem mapM_ok_mem {step : α → Except ε β} {items : List α} {results : List β}
    (stepped : items.mapM step = .ok results) {result : β} (member : result ∈ results) :
    ∃ item ∈ items, step item = .ok result := by
  -- The result is that of the first item, or one of those after it.
  induction items generalizing results with
  | nil =>
    cases stepped
    simp at member
  | cons item rest ih =>
    rw [List.mapM_cons] at stepped
    obtain ⟨head, first, stepped⟩ := bind_eq_ok.mp stepped
    obtain ⟨tail, others, stepped⟩ := bind_eq_ok.mp stepped
    cases stepped
    rcases List.mem_cons.mp member with rfl | later
    · exact ⟨item, by simp, first⟩
    · obtain ⟨origin, listed, found⟩ := ih others later
      exact ⟨origin, by simp [listed], found⟩

/-- Steps over a list that give results give one for each item. -/
theorem mapM_ok_each {step : α → Except ε β} {items : List α} {results : List β}
    (stepped : items.mapM step = .ok results) {item : α} (member : item ∈ items) :
    ∃ result, step item = .ok result := by
  -- The steps go from item to item, so all items before a result have one.
  induction items generalizing results with
  | nil => simp at member
  | cons head rest ih =>
    rw [List.mapM_cons] at stepped
    obtain ⟨first, here, stepped⟩ := bind_eq_ok.mp stepped
    obtain ⟨others, tail, _⟩ := bind_eq_ok.mp stepped
    rcases List.mem_cons.mp member with rfl | later
    · exact ⟨first, here⟩
    · exact ih tail later

/-- Steps over a list that fail do so at one of the items. -/
theorem mapM_error_mem {step : α → Except ε β} {items : List α} {fault : ε}
    (failed : items.mapM step = .error fault) : ∃ item ∈ items, step item = .error fault := by
  -- The first item fails, or it does not and one of the others does.
  induction items with
  | nil => cases failed
  | cons head rest ih =>
    rw [List.mapM_cons] at failed
    rcases bind_eq_error.mp failed with here | ⟨_, _, failed⟩
    · exact ⟨head, by simp, here⟩
    rcases bind_eq_error.mp failed with later | ⟨_, _, failed⟩
    · obtain ⟨item, member, found⟩ := ih later
      exact ⟨item, by simp [member], found⟩
    · cases failed

/-- Two outcomes correspond if they are one and the same fault, or results that are related. -/
inductive Corresponds (relates : α → β → Prop) : Except ε α → Except ε β → Prop
  | ok {first : α} {second : β} :
    relates first second → Corresponds relates (.ok first) (.ok second)
  | error (fault : ε) : Corresponds relates (.error fault) (.error fault)

namespace Corresponds

variable {γ δ : Type} {relates : α → β → Prop} {first : Except ε α} {second : Except ε β}

/-- Steps correspond if their first parts do, and what follows on results that are related. -/
theorem bind {relates' : γ → δ → Prop} {next : α → Except ε γ} {next' : β → Except ε δ}
    (start : Corresponds relates first second)
    (after : ∀ a b, relates a b → Corresponds relates' (next a) (next' b)) :
    Corresponds relates' (first >>= next) (second >>= next') := by
  -- A fault that is shared is also what follows from it.
  cases start with
  | ok related => exact after _ _ related
  | error fault => exact .error fault

/-- Outcomes that correspond keep doing so for a weaker relation of their results. -/
theorem imp {relates' : α → β → Prop} (outcomes : Corresponds relates first second)
    (weaker : ∀ a b, relates a b → relates' a b) : Corresponds relates' first second := by
  cases outcomes with
  | ok related => exact .ok (weaker _ _ related)
  | error fault => exact .error fault

/-- Outcomes that correspond give the same, once results that are related are changed alike. -/
theorem map_eq {change : α → γ} {change' : β → γ} (outcomes : Corresponds relates first second)
    (same : ∀ a b, relates a b → change a = change' b) : first.map change = second.map change' := by
  cases outcomes with
  | ok related => exact congrArg Except.ok (same _ _ related)
  | error fault => rfl

/-- Outcomes that correspond are one and the same if results that are related are. -/
theorem eq {first second : Except ε α} {relates : α → α → Prop}
    (outcomes : Corresponds relates first second) (same : ∀ a b, relates a b → a = b) :
    first = second := by
  cases outcomes with
  | ok related => exact congrArg Except.ok (same _ _ related)
  | error fault => rfl

/-- Steps over two lists correspond if those over their items do, in order. -/
theorem mapM {step : α → Except ε γ} {step' : β → Except ε δ} {relates' : γ → δ → Prop}
    {items : List α} {others : List β}
    (each : List.Forall₂ (fun a b => Corresponds relates' (step a) (step' b)) items others) :
    Corresponds (List.Forall₂ relates') (items.mapM step) (others.mapM step') := by
  -- The two lists are gone through together, and the first fault ends both.
  induction each with
  | nil => exact .ok .nil
  | cons here _ ih =>
    rw [List.mapM_cons, List.mapM_cons]
    exact here.bind fun a b related => ih.bind fun as bs rest => .ok (.cons related rest)

end Corresponds

/-- An outcome is kept by another, unless it is a fault of a passing kind, which may give way. -/
inductive Kept (passing : ε → Prop) : Except ε α → Except ε α → Prop
  | same (outcome : Except ε α) : Kept passing outcome outcome
  | passed {fault : ε} (other : Except ε α) : passing fault → Kept passing (.error fault) other

namespace Kept

variable {passing : ε → Prop} {first second : Except ε α}

/-- A result is kept. -/
theorem ok (kept : Kept passing first second) {result : α} (given : first = .ok result) :
    second = .ok result := by
  cases kept with
  | same => exact given
  | passed => cases given

/-- A fault is kept unless it is of a passing kind. -/
theorem error (kept : Kept passing first second) {fault : ε} (given : first = .error fault)
    (lasting : ¬passing fault) : second = .error fault := by
  cases kept with
  | same => exact given
  | passed other passes =>
    cases given
    exact absurd passes lasting

/-- Two steps are kept if the first is, and what follows on each of its results. -/
theorem bind {next next' : α → Except ε β} (start : Kept passing first second)
    (after : ∀ result, Kept passing (next result) (next' result)) :
    Kept passing (first >>= next) (second >>= next') := by
  -- What was a result is the same in both, and what was passing stays so.
  cases start with
  | same =>
    cases first with
    | ok result => exact after result
    | error fault => exact .same _
  | passed other passes => exact .passed _ passes

/-- A change of the result keeps what was kept. -/
theorem map (change : α → β) (kept : Kept passing first second) :
    Kept passing (change <$> first) (change <$> second) := by
  cases kept with
  | same => exact .same _
  | passed other passes => exact .passed _ passes

end Kept

end DeliveryRules
