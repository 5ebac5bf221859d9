import Mathlib

/-! # Checked construction and folds that may fail

A record with a construction check is a list of guards, evaluated in order: the
first violated guard raises its message.  `raiseFirst_eq_ok_iff` turns a
successful check into the fact that no guard is violated.  The fold rules carry
an invariant through `List.foldlM` in `Except`. -/

universe u v w

namespace Except

variable {ε : Type u} {α β : Type v}

/-- A sequence succeeds when both of its parts do. -/
theorem bind_eq_ok_iff {first : Except ε α} {rest : α → Except ε β} {result : β} :
    (first >>= rest) = .ok result ↔ ∃ value, first = .ok value ∧ rest value = .ok result := by
  cases first <;> simp [bind, Except.bind]

theorem toOption_eq_some_iff {result : Except ε α} {value : α} :
    result.toOption = some value ↔ result = .ok value := by
  cases result <;> simp [Except.toOption]

end Except

namespace Checked

variable {ε : Type u}

def raiseFirst (raise : String → ε) : List (Bool × String) → Except ε Unit
  | [] => .ok ()
  | (violated, message) :: rest =>
    if violated then .error (raise message) else raiseFirst raise rest

/-- No guard is violated. -/
def Holds (guards : List (Bool × String)) : Prop := ∀ guard ∈ guards, guard.1 = false

instance (guards : List (Bool × String)) : Decidable (Holds guards) :=
  inferInstanceAs (Decidable (∀ guard ∈ guards, guard.1 = false))

@[simp] theorem holds_nil : Holds [] := by simp [Holds]

@[simp] theorem holds_cons {violated : Bool} {message : String} {rest : List (Bool × String)} :
    Holds ((violated, message) :: rest) ↔ violated = false ∧ Holds rest := by
  simp [Holds]

@[simp] theorem holds_append {left right : List (Bool × String)} :
    Holds (left ++ right) ↔ Holds left ∧ Holds right := by
  simp only [Holds, List.mem_append, or_imp, forall_and]

@[simp] theorem holds_flatMap {α : Type w} {items : List α} {guards : α → List (Bool × String)} :
    Holds (items.flatMap guards) ↔ ∀ item ∈ items, Holds (guards item) := by
  simp only [Holds, List.mem_flatMap, forall_exists_index, and_imp]
  exact ⟨fun each item member guard => each guard item member,
    fun each guard item member => each item member guard⟩

theorem raiseFirst_eq_ok_iff {raise : String → ε} {guards : List (Bool × String)} :
    raiseFirst raise guards = .ok () ↔ Holds guards := by
  induction guards with
  | nil => simp [raiseFirst]
  | cons guard rest ih =>
    obtain ⟨violated, message⟩ := guard
    cases violated <;> simp [raiseFirst, ih]

variable {σ : Type v} {α : Type w}

/-- Each successful step preserves the invariant, so a successful fold does. -/
theorem foldlM_invariant {step : σ → α → Except ε σ} {invariant : σ → Prop} {items : List α}
    {first last : σ}
    (preserved : ∀ state item next, item ∈ items → invariant state →
      step state item = .ok next → invariant next)
    (initial : invariant first) (folded : items.foldlM step first = .ok last) :
    invariant last := by
  induction items generalizing first with
  | nil =>
    obtain rfl : first = last := by simpa [pure, Except.pure] using folded
    exact initial
  | cons item rest ih =>
    rw [List.foldlM_cons] at folded
    cases stepped : step first item with
    | error err => simp [stepped, bind, Except.bind] at folded
    | ok next =>
      refine ih (fun state item' next' member => preserved state item' next' (by simp [member])) ?_
        (by simpa [stepped, bind, Except.bind] using folded)
      exact preserved first item next (by simp) initial stepped

/-- An invariant about the items that remain holds at the end of the fold about none. -/
theorem foldlM_remaining {step : σ → α → Except ε σ} {invariant : List α → σ → Prop}
    {items : List α} {first last : σ}
    (preserved : ∀ item rest state next, invariant (item :: rest) state →
      step state item = .ok next → invariant rest next)
    (initial : invariant items first) (folded : items.foldlM step first = .ok last) :
    invariant [] last := by
  induction items generalizing first with
  | nil =>
    obtain rfl : first = last := by simpa [pure, Except.pure] using folded
    exact initial
  | cons item rest ih =>
    rw [List.foldlM_cons] at folded
    cases stepped : step first item with
    | error err => simp [stepped, bind, Except.bind] at folded
    | ok next =>
      exact ih (preserved item rest first next initial stepped)
        (by simpa [stepped, bind, Except.bind] using folded)

theorem foldlM_fixed {step : σ → α → Except ε σ} {items : List α} {state : σ}
    (fixed : ∀ item ∈ items, step state item = .ok state) :
    items.foldlM step state = .ok state := by
  induction items with
  | nil => rfl
  | cons item rest ih =>
    rw [List.foldlM_cons, fixed item (by simp)]
    exact ih fun item' member => fixed item' (by simp [member])

theorem foldlM_concat_eq_ok {step : σ → α → Except ε σ} {items : List α} {item : α}
    {first middle last : σ} (folded : items.foldlM step first = .ok middle)
    (stepped : step middle item = .ok last) :
    (items ++ [item]).foldlM step first = .ok last := by
  rw [List.foldlM_append, folded]
  simp [bind, Except.bind, stepped, pure, Except.pure]

end Checked
