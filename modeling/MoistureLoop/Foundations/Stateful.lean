import Mathlib

/-! # Programs that change a state and may raise

What a program did to the state before it raised stays done, so a raise says nothing about
the state by itself.  `Ends` gives both outcomes of a program a postcondition, and one rule
for each construct reduces a program to its parts. -/

/-- A program over the state `σ` that returns a value or raises. -/
abbrev Stateful (σ ε : Type) := ExceptT ε (StateM σ)

namespace Stateful

variable {σ ε α β : Type}

def outcome (program : Stateful σ ε α) (start : σ) : Except ε α × σ :=
  StateT.run (ExceptT.run program) start

/-- From `start` the program returns as `returned` says, or raises as `raised` says. -/
def Ends (program : Stateful σ ε α) (start : σ) (returned : α → σ → Prop)
    (raised : ε → σ → Prop) : Prop :=
  match program.outcome start with
  | (.ok value, finish) => returned value finish
  | (.error err, finish) => raised err finish

def ofExcept : Except ε α → Stateful σ ε α
  | .ok value => pure value
  | .error err => throw err

/-- Raise unless a condition holds. -/
def require (condition : Bool) (err : ε) : Stateful σ ε Unit :=
  if condition then pure () else throw err

variable {start : σ} {returned returned' : α → σ → Prop} {raised raised' : ε → σ → Prop}

theorem Ends.pure {value : α} (holds : returned value start) :
    Ends (Pure.pure value : Stateful σ ε α) start returned raised := holds

theorem Ends.throw {err : ε} (holds : raised err start) :
    Ends (MonadExcept.throw err : Stateful σ ε α) start returned raised := holds

theorem Ends.get {returned : σ → σ → Prop} (holds : returned start start) :
    Ends (MonadState.get : Stateful σ ε σ) start returned raised := holds

theorem Ends.set {finish : σ} {returned : PUnit → σ → Prop} (holds : returned ⟨⟩ finish) :
    Ends (MonadStateOf.set finish : Stateful σ ε PUnit) start returned raised := holds

theorem Ends.ofExcept {result : Except ε α} (ok : ∀ value, result = .ok value → returned value start)
    (error : ∀ err, result = .error err → raised err start) :
    Ends (Stateful.ofExcept result) start returned raised := by
  cases result with
  | ok value => exact Ends.pure (ok value rfl)
  | error err => exact Ends.throw (error err rfl)

theorem Ends.require {condition : Bool} {err : ε} {returned : Unit → σ → Prop}
    (met : condition = true → returned () start) (unmet : condition = false → raised err start) :
    Ends (Stateful.require condition err) start returned raised := by
  cases condition with
  | true => exact met rfl
  | false => exact unmet rfl

/-- A raise of the first program is one of the sequence, in the state it was raised in. -/
theorem Ends.bind {first : Stateful σ ε α} {rest : α → Stateful σ ε β}
    {returned : β → σ → Prop}
    (ends : Ends first start (fun value middle => Ends (rest value) middle returned raised)
      raised) :
    Ends (first >>= rest) start returned raised := by
  have sequenced : (first >>= rest).outcome start =
      match first.outcome start with
      | (.ok value, middle) => (rest value).outcome middle
      | (.error err, middle) => (.error err, middle) := by
    simp only [outcome, ExceptT.run_bind, StateT.run_bind]
    generalize StateT.run (ExceptT.run first) start = ended
    obtain ⟨result, middle⟩ := ended
    cases result <;> rfl
  unfold Ends at ends ⊢
  rw [sequenced]
  generalize first.outcome start = ended at ends ⊢
  obtain ⟨result, middle⟩ := ended
  cases result with
  | ok value => exact ends
  | error err => exact ends

theorem Ends.mono {program : Stateful σ ε α} (ends : Ends program start returned raised)
    (ok : ∀ value finish, returned value finish → returned' value finish)
    (error : ∀ err finish, raised err finish → raised' err finish) :
    Ends program start returned' raised' := by
  unfold Ends at ends ⊢
  generalize program.outcome start = ended at ends ⊢
  obtain ⟨result, finish⟩ := ended
  cases result with
  | ok value => exact ok value finish ends
  | error err => exact error err finish ends

/-- What holds of a program that ends as described, whichever way it ended. -/
theorem Ends.of_outcome {program : Stateful σ ε α} {result : Except ε α} {finish : σ}
    (ends : Ends program start returned raised)
    (ended : program.outcome start = (result, finish)) :
    (∃ value, result = .ok value ∧ returned value finish) ∨
      ∃ err, result = .error err ∧ raised err finish := by
  unfold Ends at ends
  rw [ended] at ends
  cases result with
  | ok value => exact Or.inl ⟨value, rfl, ends⟩
  | error err => exact Or.inr ⟨err, rfl, ends⟩

end Stateful
