import Mathlib

/-! # Guarded runs of a labelled system

A partial deterministic system whose labels resolve every choice: which component
moves, and what its environment answers.  A guard restricts runs step by step, so
that one can say what holds in every run whose steps all avoid a defect. -/

namespace MoistureLoop

/-- A labelled system; a label that is not enabled has no successor. -/
structure LabelledSystem (State Label : Type*) where
  step : State → Label → Option State

namespace LabelledSystem

variable {State Label : Type*} (system : LabelledSystem State Label)

def run (state : State) : List Label → Option State
  | [] => some state
  | label :: rest => (system.step state label).bind fun next => run next rest

/-- `Run guard start finish`: some labels lead from `start` to `finish`, and every step
of theirs satisfies the guard. -/
inductive Run (guard : State → Label → State → Prop) (start : State) : State → Prop where
  | refl : Run guard start start
  | step {state next : State} (label : Label) : Run guard start state →
      system.step state label = some next → guard state label next → Run guard start next

def runWhile (permits : State → Label → State → Bool) (state : State) : List Label → Option State
  | [] => some state
  | label :: rest => (system.step state label).bind fun next =>
    if permits state label next then runWhile permits next rest else none

/-- Every step that the labels take from a state satisfies the guard. -/
def Along (guard : State → Label → State → Prop) (state : State) : List Label → Prop
  | [] => True
  | label :: rest => ∀ next, system.step state label = some next →
    guard state label next ∧ Along guard next rest

variable {system} {guard : State → Label → State → Prop} {start finish : State}

/-- A property that guarded steps preserve holds in every state a guarded run reaches. -/
theorem Run.preserves {property : State → Prop} (reached : system.Run guard start finish)
    (initial : property start)
    (preserved : ∀ state label next, property state → system.step state label = some next →
      guard state label next → property next) : property finish := by
  induction reached with
  | refl => exact initial
  | step label _ stepped guarded inductionHypothesis =>
    exact preserved _ label _ inductionHypothesis stepped guarded

/-- A run may be continued at its front. -/
theorem Run.head {next : State} {label : Label} (stepped : system.step start label = some next)
    (guarded : guard start label next) (reached : system.Run guard next finish) :
    system.Run guard start finish := by
  induction reached with
  | refl => exact .step label .refl stepped guarded
  | step label' _ stepped' guarded' inductionHypothesis =>
    exact .step label' inductionHypothesis stepped' guarded'

/-- Runs compose. -/
theorem Run.trans {middle : State} (first : system.Run guard start middle)
    (second : system.Run guard middle finish) : system.Run guard start finish := by
  induction second with
  | refl => exact first
  | step label _ stepped guarded inductionHypothesis =>
    exact .step label inductionHypothesis stepped guarded

/-- A successful execution is a run without a guard. -/
theorem Run.of_run {labels : List Label} (executed : system.run start labels = some finish) :
    system.Run (fun _ _ _ => True) start finish := by
  induction labels generalizing start with
  | nil =>
    obtain rfl := Option.some.inj executed
    exact .refl
  | cons label rest inductionHypothesis =>
    obtain ⟨next, stepped, executed⟩ := Option.bind_eq_some_iff.mp executed
    exact .head stepped trivial (inductionHypothesis executed)

/-- A checked execution is a run under the guard that the check implies. -/
theorem Run.of_runWhile {permits : State → Label → State → Bool}
    (sound : ∀ state label next, permits state label next = true → guard state label next)
    {labels : List Label} (executed : system.runWhile permits start labels = some finish) :
    system.Run guard start finish := by
  induction labels generalizing start with
  | nil =>
    obtain rfl := Option.some.inj executed
    exact .refl
  | cons label rest inductionHypothesis =>
    obtain ⟨next, stepped, executed⟩ := Option.bind_eq_some_iff.mp executed
    split at executed
    · rename_i permitted
      exact .head stepped (sound _ _ _ permitted) (inductionHypothesis executed)
    · cases executed

/-- A guard that implies another on every step does so along all labels. -/
theorem Along.mono {other : State → Label → State → Prop}
    (implies : ∀ state label next, system.step state label = some next → guard state label next →
      other state label next) {labels : List Label} (along : system.Along guard start labels) :
    system.Along other start labels := by
  induction labels generalizing start with
  | nil => trivial
  | cons label rest inductionHypothesis =>
    intro next stepped
    obtain ⟨guarded, along⟩ := along next stepped
    exact ⟨implies start label next stepped guarded, inductionHypothesis along⟩

/-- Along a checked execution the guard holds that the check implies. -/
theorem Along.of_runWhile {permits : State → Label → State → Bool}
    (sound : ∀ state label next, permits state label next = true → guard state label next)
    {labels : List Label} (executed : system.runWhile permits start labels = some finish) :
    system.Along guard start labels := by
  induction labels generalizing start with
  | nil => trivial
  | cons label rest inductionHypothesis =>
    obtain ⟨next, stepped, executed⟩ := Option.bind_eq_some_iff.mp executed
    split at executed
    · rename_i permitted
      intro next' stepped'
      obtain rfl := Option.some.inj (stepped.symm.trans stepped')
      exact ⟨sound _ _ _ permitted, inductionHypothesis executed⟩
    · cases executed

/-- Labels that can be followed make a run under the guard that holds along them. -/
theorem Along.run {labels : List Label} (along : system.Along guard start labels)
    (executed : system.run start labels = some finish) : system.Run guard start finish := by
  induction labels generalizing start with
  | nil =>
    obtain rfl := Option.some.inj executed
    exact .refl
  | cons label rest inductionHypothesis =>
    obtain ⟨next, stepped, executed⟩ := Option.bind_eq_some_iff.mp executed
    obtain ⟨guarded, along⟩ := along next stepped
    exact .head stepped guarded (inductionHypothesis along executed)

/-- A relation that every guarded step answers with a run of another system is carried along
whole runs. -/
theorem Run.simulates {Image Label' : Type*} {other : LabelledSystem Image Label'}
    {related : State → Image → Prop}
    (answered : ∀ state label next image, related state image →
      system.step state label = some next → guard state label next →
      ∃ image', other.Run (fun _ _ _ => True) image image' ∧ related next image')
    {image : Image} (initial : related start image) (reached : system.Run guard start finish) :
    ∃ image', other.Run (fun _ _ _ => True) image image' ∧ related finish image' := by
  induction reached with
  | refl => exact ⟨image, .refl, initial⟩
  | step label _ stepped guarded inductionHypothesis =>
    obtain ⟨middle, answer, held⟩ := inductionHypothesis
    obtain ⟨image', continued, holds⟩ := answered _ label _ middle held stepped guarded
    exact ⟨image', answer.trans continued, holds⟩

/-! ## Progress -/

/-- One component brings the system to a goal: whatever the others do meanwhile, it has a
step whenever it is `ready`, and every guarded step of its own brings it nearer. -/
inductive Leads (system : LabelledSystem State Label) (own : State → Label → Prop)
    (guard : State → Label → State → Prop) (ready goal : State → Prop) : State → Prop where
  | reached {state : State} : goal state → Leads system own guard ready goal state
  | turn {state : State} :
      (∀ waiting, system.Run (fun state label _ => ¬ own state label) state waiting →
        ready waiting → ∃ label next, own waiting label ∧ system.step waiting label = some next) →
      (∀ waiting, system.Run (fun state label _ => ¬ own state label) state waiting →
        ∀ label next, own waiting label → system.step waiting label = some next →
          guard waiting label next → Leads system own guard ready goal next) →
      Leads system own guard ready goal state

/-- A rank that the others keep and every step of the component lowers leads to the goal. -/
theorem Leads.of_rank {Rank : Type*} [LT Rank] [WellFoundedLT Rank] (rank : State → Rank)
    {own : State → Label → Prop} {ready goal invariant : State → Prop}
    (others : ∀ state label next, invariant state → system.step state label = some next →
      ¬ own state label → invariant next ∧ rank next = rank state)
    (enabled : ∀ state, invariant state → ready state →
      ∃ label next, own state label ∧ system.step state label = some next)
    (turns : ∀ state label next, invariant state → own state label →
      system.step state label = some next → guard state label next →
      goal next ∨ invariant next ∧ rank next < rank state)
    (holds : invariant start) : Leads system own guard ready goal start := by
  generalize same : rank start = at'
  induction at' using WellFoundedLT.induction generalizing start with
  | ind at' nearer =>
    have waits : ∀ waiting, system.Run (fun state label _ => ¬ own state label) start waiting →
        invariant waiting ∧ rank waiting = at' := by
      intro waiting reached
      induction reached with
      | refl => exact ⟨holds, same⟩
      | step label _ stepped other inductionHypothesis =>
        obtain ⟨held, equal⟩ := inductionHypothesis
        obtain ⟨kept, unchanged⟩ := others _ label _ held stepped other
        exact ⟨kept, unchanged.trans equal⟩
    refine .turn (fun waiting reached turn => enabled _ (waits _ reached).1 turn) ?_
    intro waiting reached label next own' stepped guarded
    obtain ⟨held, equal⟩ := waits _ reached
    rcases turns _ _ _ held own' stepped guarded with done | ⟨kept, lower⟩
    · exact .reached done
    · exact nearer _ (equal ▸ lower) kept rfl

end LabelledSystem

end MoistureLoop
