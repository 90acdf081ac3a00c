import Mathlib.Data.List.Basic

/-! Runs of a labelled transition relation: what each step keeps, the whole run keeps. -/

set_option autoImplicit false

namespace TradingGateway.Foundation.Runs

variable {State Event : Type} (step : State → Event → State → Prop)

inductive Run : State → List Event → State → Prop where
  | nil (state : State) : Run state [] state
  | cons {first middle last : State} {event : Event} {events : List Event} (stepped : step first event middle)
      (rest : Run middle events last) : Run first (event :: events) last

variable {step}

theorem Run.append {first middle last : State} {events more : List Event} (front : Run step first events middle)
    (back : Run step middle more last) : Run step first (events ++ more) last := by
  induction front with
  | nil => exact back
  | cons stepped _ ih => exact .cons stepped (ih back)

theorem Run.split {first last : State} {events more : List Event} (run : Run step first (events ++ more) last) :
    ∃ middle, Run step first events middle ∧ Run step middle more last := by
  induction events generalizing first with
  | nil => exact ⟨first, .nil first, run⟩
  | cons event events ih =>
      cases run with
      | cons stepped rest =>
          obtain ⟨middle, front, back⟩ := ih rest
          exact ⟨middle, .cons stepped front, back⟩

variable {allowed : Event → Prop} {invariant : State → Prop}

/-- What every allowed step keeps holds at the end of a run of allowed steps. -/
theorem Run.keeps (next : ∀ first event last, step first event last → allowed event → invariant first → invariant last)
    {first last : State} {events : List Event} (run : Run step first events last)
    (all : ∀ event ∈ events, allowed event) (start : invariant first) : invariant last := by
  induction run with
  | nil => exact start
  | cons stepped _ ih =>
      exact ih (fun event member => all event (List.mem_cons_of_mem _ member))
        (next _ _ _ stepped (all _ List.mem_cons_self) start)

/-- A preorder that every allowed step respects relates the ends of a run. -/
theorem Run.relates {related : State → State → Prop} (refl : ∀ state, related state state)
    (trans : ∀ first middle last, related first middle → related middle last → related first last)
    (next : ∀ first event last, step first event last → allowed event → invariant first →
      invariant last ∧ related first last)
    {first last : State} {events : List Event} (run : Run step first events last)
    (all : ∀ event ∈ events, allowed event) (start : invariant first) : related first last := by
  induction run with
  | nil => exact refl _
  | cons stepped _ ih =>
      obtain ⟨kept, relates⟩ := next _ _ _ stepped (all _ List.mem_cons_self) start
      exact trans _ _ _ relates (ih (fun event member => all event (List.mem_cons_of_mem _ member)) kept)

section Deterministic

variable (advance : State → Event → State)

/-- Every step of a run of a machine that has one next state holds up to a property of steps. -/
def EveryStep (holds : State → Event → Prop) : State → List Event → Prop
  | _, [] => True
  | state, event :: events => holds state event ∧ EveryStep holds (advance state event) events

instance decidableEveryStep (holds : State → Event → Prop) [∀ state event, Decidable (holds state event)] :
    (state : State) → (events : List Event) → Decidable (EveryStep advance holds state events)
  | _, [] => .isTrue trivial
  | state, event :: events =>
      have := decidableEveryStep holds (advance state event) events
      inferInstanceAs (Decidable (_ ∧ _))

variable {advance} {permitted kept meets : State → Event → Prop}

theorem EveryStep.imp {weaker : State → Event → Prop}
    (implies : ∀ state event, permitted state event → weaker state event) {state : State} {events : List Event}
    (all : EveryStep advance permitted state events) : EveryStep advance weaker state events := by
  induction events generalizing state with
  | nil => trivial
  | cons event events ih =>
      obtain ⟨first, rest⟩ := all
      exact ⟨implies state event first, ih rest⟩

theorem EveryStep.imp₂ (implies : ∀ state event, permitted state event → meets state event → kept state event)
    {state : State} {events : List Event} (all : EveryStep advance permitted state events)
    (met : EveryStep advance meets state events) : EveryStep advance kept state events := by
  induction events generalizing state with
  | nil => trivial
  | cons event events ih =>
      obtain ⟨first, rest⟩ := all
      obtain ⟨firstMet, restMet⟩ := met
      exact ⟨implies state event first firstMet, ih rest restMet⟩

/-- A step that meets a condition in a good state is good, and leaves a good state behind it. -/
theorem EveryStep.of_invariant
    (next : ∀ state event, invariant state → allowed event → permitted state event →
      kept state event ∧ invariant (advance state event))
    {state : State} {events : List Event} (start : invariant state) (among : ∀ event ∈ events, allowed event)
    (all : EveryStep advance permitted state events) : EveryStep advance kept state events := by
  induction events generalizing state with
  | nil => trivial
  | cons event events ih =>
      obtain ⟨first, rest⟩ := all
      obtain ⟨good, invariantKept⟩ := next state event start (among event List.mem_cons_self) first
      exact ⟨good, ih invariantKept (fun other member => among other (List.mem_cons_of_mem event member)) rest⟩

/-- Where a step is good exactly when it meets a condition, and a step that meets it keeps the
invariant, all steps of a run are good exactly when all meet the condition. -/
theorem EveryStep.iff_of_step
    (next : ∀ state event, invariant state → permitted state event →
      (kept state event ↔ meets state event) ∧ (meets state event → invariant (advance state event)))
    {state : State} {events : List Event} (start : invariant state)
    (all : EveryStep advance permitted state events) :
    EveryStep advance kept state events ↔ EveryStep advance meets state events := by
  induction events generalizing state with
  | nil => exact Iff.rfl
  | cons event events ih =>
      obtain ⟨first, rest⟩ := all
      obtain ⟨same, invariantKept⟩ := next state event start first
      constructor
      · rintro ⟨good, others⟩
        have met := same.1 good
        exact ⟨met, (ih (invariantKept met) rest).1 others⟩
      · rintro ⟨met, others⟩
        exact ⟨same.2 met, (ih (invariantKept met) rest).2 others⟩

/-- Every step holds up exactly when each does, wherever the run is cut before it. -/
theorem everyStep_iff_split {holds : State → Event → Prop} {state : State} {events : List Event} :
    EveryStep advance holds state events ↔
      ∀ front event back, events = front ++ event :: back → holds (front.foldl advance state) event := by
  induction events generalizing state with
  | nil => simp [EveryStep]
  | cons event events ih =>
      unfold EveryStep
      rw [ih]
      constructor
      · rintro ⟨first, rest⟩ front other back split
        cases front with
        | nil =>
            cases split
            exact first
        | cons head front =>
            cases split
            exact rest front other back rfl
      · intro all
        refine ⟨all [] event events rfl, ?_⟩
        rintro front other back rfl
        exact all (event :: front) other back rfl

end Deterministic

end TradingGateway.Foundation.Runs
