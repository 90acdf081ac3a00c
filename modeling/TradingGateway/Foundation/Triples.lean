import Mathlib.Init

/-! Pre- and postconditions of computations whose state survives their failure. -/

set_option autoImplicit false

namespace TradingGateway.Foundation.Triples

/-- A computation over a state that may fail; what it did to the state before it failed stays. -/
abbrev Action (State Error Result : Type) := ExceptT Error (StateM State) Result

variable {State Part Error Other Value Result : Type}

namespace Action

def outcome (action : Action State Error Result) (state : State) : Except Error Result × State :=
  action.run.run state

def ofExcept (source : Except Error Result) : Action State Error Result :=
  ExceptT.mk (pure source)

def mapError (convert : Error → Other) (action : Action State Error Result) : Action State Other Result :=
  ExceptT.mk (Except.mapError convert <$> action.run)

def within (read : State → Part) (write : State → Part → State) (action : Action Part Error Result) :
    Action State Error Result :=
  ExceptT.mk fun state =>
    let (result, part) := action.outcome (read state)
    (result, write state part)

@[simp] theorem outcome_pure (result : Result) (state : State) :
    (pure result : Action State Error Result).outcome state = (.ok result, state) := rfl

@[simp] theorem outcome_throw (error : Error) (state : State) :
    (throw error : Action State Error Result).outcome state = (.error error, state) := rfl

@[simp] theorem outcome_get (state : State) :
    (get : Action State Error State).outcome state = (.ok state, state) := rfl

@[simp] theorem outcome_modify (change : State → State) (state : State) :
    (modify change : Action State Error PUnit).outcome state = (.ok (), change state) := rfl

@[simp] theorem outcome_ofExcept (source : Except Error Result) (state : State) :
    (ofExcept source : Action State Error Result).outcome state = (source, state) := rfl

@[simp] theorem outcome_mapError (convert : Error → Other) (action : Action State Error Result) (state : State) :
    (action.mapError convert).outcome state =
      ((action.outcome state).1.mapError convert, (action.outcome state).2) := rfl

@[simp] theorem outcome_within (read : State → Part) (write : State → Part → State)
    (action : Action Part Error Result) (state : State) :
    (within read write action).outcome state =
      ((action.outcome (read state)).1, write state (action.outcome (read state)).2) := rfl

theorem outcome_bind (action : Action State Error Value) (next : Value → Action State Error Result)
    (state : State) :
    (action >>= next).outcome state =
      match action.outcome state with
      | (.ok value, middle) => (next value).outcome middle
      | (.error error, final) => (.error error, final) := by
  unfold outcome ExceptT.run StateT.run
  simp only [bind, ExceptT.bind, ExceptT.mk, StateT.bind, ExceptT.bindCont]
  cases action state with
  | mk result middle => cases result <;> rfl

end Action

open Triples.Action

/-- From every state that meets `pre`, the action returns within `returns` or
fails within `throws`. -/
def Triple (pre : State → Prop) (action : Action State Error Result) (returns : Result → State → Prop)
    (throws : Error → State → Prop) : Prop :=
  ∀ state, pre state →
    match action.outcome state with
    | (.ok result, final) => returns result final
    | (.error error, final) => throws error final

namespace Triple

variable {pre : State → Prop} {throws : Error → State → Prop} {returns : Result → State → Prop}

theorem returned {action : Action State Error Result} (triple : Triple pre action returns throws)
    {state final : State} (holds : pre state) {result : Result}
    (ran : action.outcome state = (.ok result, final)) : returns result final := by
  have post := triple state holds
  rwa [ran] at post

theorem of_pure {result : Result} (holds : ∀ state, pre state → returns result state) :
    Triple pre (pure result) returns throws :=
  holds

theorem of_throw {error : Error} (holds : ∀ state, pre state → throws error state) :
    Triple pre (throw error : Action State Error Result) returns throws :=
  holds

theorem of_modify {change : State → State} {returns : PUnit → State → Prop}
    (holds : ∀ state, pre state → returns () (change state)) :
    Triple pre (modify change : Action State Error PUnit) returns throws :=
  holds

/-- The sequence rule. -/
theorem bind {action : Action State Error Value} {next : Value → Action State Error Result}
    {middle : Value → State → Prop} (first : Triple pre action middle throws)
    (rest : ∀ value, Triple (middle value) (next value) returns throws) :
    Triple pre (action >>= next) returns throws := by
  intro state holds
  have post := first state holds
  rw [outcome_bind]
  cases ran : action.outcome state with
  | mk result final =>
      rw [ran] at post
      cases result with
      | error error => exact post
      | ok value => exact rest value final post

/-- Reading the state, with what is known of it. -/
theorem get_bind {next : State → Action State Error Result}
    (rest : ∀ current, pre current → Triple (fun state => state = current) (next current) returns throws) :
    Triple pre (get >>= next) returns throws := by
  intro state holds
  rw [outcome_bind]
  exact rest state holds state rfl

/-- A computation without the state. -/
theorem ofExcept_bind {source : Except Error Value} {next : Value → Action State Error Result}
    (fails : ∀ error, source = .error error → ∀ state, pre state → throws error state)
    (rest : ∀ value, source = .ok value → Triple pre (next value) returns throws) :
    Triple pre (ofExcept source >>= next) returns throws := by
  intro state holds
  rw [outcome_bind, outcome_ofExcept]
  cases computed : source with
  | error error => exact fails error computed state holds
  | ok value => exact rest value computed state holds

theorem mapError {convert : Error → Other} {action : Action State Error Result}
    {throws : Other → State → Prop}
    (triple : Triple pre action returns fun error state => throws (convert error) state) :
    Triple pre (action.mapError convert) returns throws := by
  intro state holds
  have post := triple state holds
  rw [outcome_mapError]
  cases ran : action.outcome state with
  | mk result final =>
      rw [ran] at post
      cases result <;> exact post

theorem weaken {action : Action State Error Result} {stronger : State → Prop}
    {stronglyReturns : Result → State → Prop} {stronglyThrows : Error → State → Prop}
    (triple : Triple stronger action stronglyReturns stronglyThrows)
    (before : ∀ state, pre state → stronger state)
    (returned : ∀ result state, stronglyReturns result state → returns result state)
    (thrown : ∀ error state, stronglyThrows error state → throws error state) :
    Triple pre action returns throws := by
  intro state holds
  have post := triple state (before state holds)
  cases ran : action.outcome state with
  | mk result final =>
      rw [ran] at post
      cases result with
      | error error => exact thrown error final post
      | ok value => exact returned value final post

theorem after {action : Action State Error Result} {stronger : State → Prop}
    (triple : Triple stronger action returns throws) (before : ∀ state, pre state → stronger state) :
    Triple pre action returns throws :=
  triple.weaken before (fun _ _ post => post) fun _ _ post => post

theorem throwing {action : Action State Error Result} {stronglyThrows : Error → State → Prop}
    (triple : Triple pre action returns stronglyThrows)
    (thrown : ∀ error state, stronglyThrows error state → throws error state) :
    Triple pre action returns throws :=
  triple.weaken (fun _ holds => holds) (fun _ _ post => post) thrown

/-- The loop rule: what every step keeps, the loop keeps. -/
theorem forM {Item : Type} {step : Item → Action State Error PUnit} {items : List Item}
    (steps : ∀ item ∈ items, Triple pre (step item) (fun _ => pre) throws) :
    Triple pre (items.forM step) (fun _ => pre) throws := by
  induction items with
  | nil => exact of_pure fun _ holds => holds
  | cons item rest ih =>
      exact (steps item List.mem_cons_self).bind fun _ =>
        ih fun other member => steps other (List.mem_cons_of_mem _ member)

/-- A part of the precondition that does not speak of the state. -/
theorem assuming {action : Action State Error Result} {fact : Prop}
    (triple : fact → Triple pre action returns throws) :
    Triple (fun state => fact ∧ pre state) action returns throws :=
  fun state holds => triple holds.1 state holds.2

end Triple

end TradingGateway.Foundation.Triples
