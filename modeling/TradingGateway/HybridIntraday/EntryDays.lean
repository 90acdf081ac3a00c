import TradingGateway.HybridIntraday.EntryTracking
import TradingGateway.HybridIntraday.WarmUp

/-! Entries by day and side. The breakout remembers for the day that it is on which sides were entered, and an
entry that is pending or deferred is of a side that was not. -/

set_option autoImplicit false

namespace TradingGateway.HybridIntraday

open BrokerCore.Orders Foundation.MachineNumbers
open HybridIntradayRuntimeStrategy IntradayBreakoutEngine

/-! ### The day of the breakout -/

structure EntryDay where
  day : Option NaiveDate
  entered : Side → Bool
  pending : Option (Owner × Side)
  deferred : Option (Owner × Side)

namespace EntryDay

/-- The entries filled so far are remembered while their day lasts, and no other one of a remembered side is
on its way. -/
structure Guards (filled : List (NaiveDate × Side)) (today : EntryDay) : Prop where
  remembered : ∀ day side, (day, side) ∈ filled → today.day = some day → today.entered side = true
  pendingFree : ∀ side, today.pending = some (.intradayBreakout, side) → today.entered side = false
  deferredFree : ∀ side, today.deferred = some (.intradayBreakout, side) → today.entered side = false

variable {filled : List (NaiveDate × Side)} {before after : EntryDay}

/-- Entries that are dropped, deferred or issued again stay free. -/
theorem Guards.passOn (guards : before.Guards filled) (sameDay : after.day = before.day)
    (sameEntered : after.entered = before.entered)
    (pending : ∀ entry ∈ after.pending, before.pending = some entry ∨ before.deferred = some entry)
    (deferred : ∀ entry ∈ after.deferred, before.pending = some entry ∨ before.deferred = some entry) :
    after.Guards filled := by
  refine ⟨?_, ?_, ?_⟩
  · intro day side known current
    rw [sameEntered]
    exact guards.remembered day side known (sameDay ▸ current)
  · intro side held
    rw [sameEntered]
    exact (pending _ held).elim (guards.pendingFree side) (guards.deferredFree side)
  · intro side held
    rw [sameEntered]
    exact (deferred _ held).elim (guards.pendingFree side) (guards.deferredFree side)

theorem Guards.of_eq (guards : before.Guards filled) (same : after = before) : after.Guards filled :=
  same ▸ guards

/-- A day on which nothing was filled opens with neither side entered. -/
theorem guards_of_unentered (unentered : ∀ side, after.entered side = false)
    (fresh : ∀ day ∈ after.day, ∀ entry ∈ filled, entry.1 ≠ day) : after.Guards filled := by
  refine ⟨?_, ?_, ?_⟩
  · intro day side known current
    exact absurd rfl (fresh day current _ known)
  · intro side _
    exact unentered side
  · intro side _
    exact unentered side

theorem Guards.propose (guards : before.Guards filled) (sameDay : after.day = before.day)
    (sameEntered : after.entered = before.entered) (deferred : after.deferred = before.deferred)
    (free : ∀ side, after.pending = some (.intradayBreakout, side) → before.entered side = false) :
    after.Guards filled := by
  refine ⟨?_, ?_, ?_⟩
  · intro day side known current
    rw [sameEntered]
    exact guards.remembered day side known (sameDay ▸ current)
  · intro side held
    rw [sameEntered]
    exact free side held
  · intro side held
    rw [sameEntered]
    exact guards.deferredFree side (deferred ▸ held)

/-- A filled entry of the day is a new one, and is remembered. -/
theorem Guards.fill {day : NaiveDate} {side : Side} (guards : before.Guards filled)
    (pending : before.pending = some (.intradayBreakout, side)) (onDay : before.day = some day)
    (sameDay : after.day = before.day) (marked : after.entered side = true)
    (kept : ∀ other, before.entered other = true → after.entered other = true) (noPending : after.pending = none)
    (noDeferred : after.deferred = none) :
    (day, side) ∉ filled ∧ after.Guards ((day, side) :: filled) := by
  refine ⟨?_, ?_, ?_, ?_⟩
  · intro known
    have remembered := guards.remembered day side known onDay
    rw [guards.pendingFree side pending] at remembered
    cases remembered
  · intro other otherSide known current
    rcases List.mem_cons.1 known with new | old
    · cases new
      exact marked
    · exact kept otherSide (guards.remembered other otherSide old (sameDay ▸ current))
  · intro _ held
    rw [noPending] at held
    cases held
  · intro _ held
    rw [noDeferred] at held
    cases held

end EntryDay

section Days

variable {Value : Type}

def entryDay (strategy : HybridIntradayRuntimeStrategy Value) : EntryDay :=
  { day := strategy.orchestrator.intradayBreakout.curDayDate
    entered := strategy.orchestrator.intradayBreakout.wasEntered
    pending := strategy.pendingEntry.map fun entry => (entry.owner, entry.side)
    deferred := strategy.deferredEntry.map fun deferred => (deferred.signal.owner, deferred.signal.side) }

def GuardsDay (filled : List (NaiveDate × Side)) (strategy : HybridIntradayRuntimeStrategy Value) : Prop :=
  (entryDay strategy).Guards filled

variable {filled : List (NaiveDate × Side)} {strategy before after : HybridIntradayRuntimeStrategy Value}

theorem GuardsDay.of_same (guards : GuardsDay filled before) (same : entryDay after = entryDay before) :
    GuardsDay filled after :=
  guards.of_eq same

theorem GuardsDay.of_spares {result : HybridIntradayRuntimeStrategy Value × List (Intent Value)}
    (guards : GuardsDay filled before) (spares : SparesEntries before result) : GuardsDay filled result.1 := by
  have same := congrArg entryDay spares.2
  exact guards.of_same same

/-- Entries are only dropped. -/
theorem GuardsDay.drop (guards : GuardsDay filled before)
    (sameEngine : after.orchestrator.intradayBreakout = before.orchestrator.intradayBreakout)
    (pending : after.pendingEntry = none ∨ after.pendingEntry = before.pendingEntry)
    (deferred : after.deferredEntry = none ∨ after.deferredEntry = before.deferredEntry) : GuardsDay filled after := by
  refine guards.passOn (congrArg curDayDate sameEngine) (congrArg wasEntered sameEngine) ?_ ?_
  · intro entry held
    unfold entryDay at held ⊢
    dsimp only at held ⊢
    rcases pending with gone | same
    · rw [gone] at held
      cases held
    · rw [same] at held
      exact .inl held
  · intro entry held
    unfold entryDay at held ⊢
    dsimp only at held ⊢
    rcases deferred with gone | same
    · rw [gone] at held
      cases held
    · rw [same] at held
      exact .inr held

variable [F64 Value] {ctx : StrategyCtx Value} {ids : RequestIds}

def FreshDay (filled : List (NaiveDate × Side)) (engine : IntradayBreakoutEngine Value) (day : NaiveDate) : Prop :=
  countsDay engine.config day → engine.curDayDate ≠ some day → ∀ entry ∈ filled, entry.1 ≠ day

instance (filled : List (NaiveDate × Side)) (engine : IntradayBreakoutEngine Value) (day : NaiveDate) :
    Decidable (FreshDay filled engine day) :=
  inferInstanceAs (Decidable (_ → _))

theorem GuardsDay.warm {input : BarInput Value} (guards : GuardsDay filled strategy)
    (fresh : FreshDay filled strategy.orchestrator.intradayBreakout input.dt.date) :
    GuardsDay filled (strategy.warmBar input) := by
  have onDay : (entryDay (strategy.warmBar input)).day = _ :=
    strategy.orchestrator.intradayBreakout.onBar_day input.dt input.opened input.high input.low input.close
  have entered (side : Side) : (entryDay (strategy.warmBar input)).entered side = _ :=
    strategy.orchestrator.intradayBreakout.onBar_wasEntered input.dt input.opened input.high input.low input.close side
  by_cases opens : countsDay strategy.orchestrator.intradayBreakout.config input.dt.date ∧
      strategy.orchestrator.intradayBreakout.curDayDate ≠ some input.dt.date
  · refine EntryDay.guards_of_unentered ?_ ?_
    · intro side
      rw [entered side, if_pos opens]
    · intro day current
      rw [onDay, if_pos opens.1] at current
      cases current
      exact fresh opens.1 opens.2
  · refine EntryDay.Guards.passOn guards ?_ ?_ ?_ ?_
    · rw [onDay]
      split
      case isTrue counts => exact (not_not.1 fun other => opens ⟨counts, other⟩).symm
      case isFalse => rfl
    · funext side
      rw [entered side, if_neg opens]
      rfl
    · intro entry held
      exact .inl held
    · intro entry held
      exact .inr held

/-- Behind a bar of the day, the day is no longer opened. -/
theorem freshDay_warmBar (orchestrator : HybridOrchestrator Value) (input : BarInput Value) :
    FreshDay filled (orchestrator.warmBar input).intradayBreakout input.dt.date := by
  intro counts differs
  refine absurd ?_ differs
  have config : (orchestrator.warmBar input).intradayBreakout.config = orchestrator.intradayBreakout.config :=
    onBar_config _ _ _ _ _ _
  rw [config] at counts
  exact (onBar_day _ _ _ _ _ _).trans (if_pos counts)

/-! ### Proposals -/

def IsFree (engine : IntradayBreakoutEngine Value) (signal : EntrySignal Value) : Prop :=
  signal.owner = .intradayBreakout → engine.wasEntered signal.side = false

theorem evaluateEntry_some {engine : IntradayBreakoutEngine Value} {dt : NaiveDateTime} {close : Value}
    {signal : EntrySignal Value} (proposed : engine.evaluateEntry dt close = some signal) :
    ∃ side, signal = entrySignal side ∧ engine.wasEntered side = false := by
  unfold evaluateEntry at proposed
  split at proposed
  case isTrue => cases proposed
  case isFalse =>
    obtain ⟨yesterdayClose, -, rest⟩ := Option.bind_eq_some_iff.1 proposed
    obtain ⟨yesterdayRange, -, decision⟩ := Option.bind_eq_some_iff.1 rest
    split at decision
    case isTrue => cases decision
    case isFalse =>
      dsimp only at decision
      split at decision
      case isTrue long =>
        cases decision
        exact ⟨.long, rfl, long.2.1⟩
      case isFalse =>
        split at decision
        case isTrue short =>
          cases decision
          exact ⟨.short, rfl, short.2.1⟩
        case isFalse => cases decision

/-- What may be proposed: a bracket with both of its prices, or an entry of the breakout on a side that was not
entered today. -/
def IsProposable (engine : IntradayBreakoutEngine Value) (signal : EntrySignal Value) : Prop :=
  (signal.owner = .meanReversion ∧ signal.takePrice.isSome = true ∧ signal.stopPrice.isSome = true) ∨
    ∃ side, signal = entrySignal side ∧ engine.wasEntered side = false

omit [F64 Value] in
theorem IsProposable.isFree {engine : IntradayBreakoutEngine Value} {signal : EntrySignal Value}
    (proposable : IsProposable engine signal) : IsFree engine signal := by
  intro breakout
  rcases proposable with ⟨ofMr, -⟩ | ⟨side, rfl, unentered⟩
  · rw [ofMr] at breakout
    cases breakout
  · exact unentered

def Proposes (orchestrator : HybridOrchestrator Value) (input : BarInput Value)
    (answer : HybridOrchestrator Value × List (Action Value)) : Prop :=
  answer.1.intradayBreakout = (orchestrator.warmBar input).intradayBreakout ∧
    ∀ signal, Action.submitEntry signal ∈ answer.2 → IsProposable (orchestrator.warmBar input).intradayBreakout signal

def ProposesFree (orchestrator : HybridOrchestrator Value) (input : BarInput Value)
    (answer : HybridOrchestrator Value × List (Action Value)) : Prop :=
  answer.1.intradayBreakout = (orchestrator.warmBar input).intradayBreakout ∧
    ∀ signal, Action.submitEntry signal ∈ answer.2 → IsFree (orchestrator.warmBar input).intradayBreakout signal

theorem onBarEntry_proposes {orchestrator : HybridOrchestrator Value} {bar : BarInput Value}
    {mrEntrySignal : Option (EntrySignal Value)}
    (ofMr : ∀ signal ∈ mrEntrySignal, IsProposable orchestrator.intradayBreakout signal) :
    (orchestrator.onBarEntry bar mrEntrySignal).1.intradayBreakout = orchestrator.intradayBreakout ∧
      ∀ signal, Action.submitEntry signal ∈ (orchestrator.onBarEntry bar mrEntrySignal).2 →
        IsProposable orchestrator.intradayBreakout signal := by
  unfold HybridOrchestrator.onBarEntry
  split
  case isTrue => exact ⟨rfl, fun _ member => by cases member⟩
  case isFalse =>
    split
    case isTrue => exact ⟨rfl, fun _ member => by cases member⟩
    case isFalse =>
      split
      case h_1 signal found =>
        refine ⟨rfl, ?_⟩
        intro other member
        cases List.mem_singleton.1 member
        rcases Option.or_eq_some_iff.1 found with fromMr | ⟨-, fromBreakout⟩
        · exact ofMr signal fromMr
        · exact .inr (evaluateEntry_some fromBreakout)
      case h_2 => exact ⟨rfl, fun _ member => by cases member⟩

theorem onBarWithMrOverride_proposes {orchestrator : HybridOrchestrator Value} {bar : BarInput Value}
    {mrEntrySignal : Option (EntrySignal Value)} (mrExitReason : Option ReasonCode)
    (ofMr : ∀ signal ∈ mrEntrySignal, IsProposable (orchestrator.warmBar bar).intradayBreakout signal) :
    Proposes orchestrator bar (orchestrator.onBarWithMrOverride bar mrEntrySignal mrExitReason) := by
  have entry := @onBarEntry_proposes Value _ (orchestrator.warmBar bar) bar mrEntrySignal ofMr
  unfold Proposes HybridOrchestrator.onBarWithMrOverride
  dsimp only
  split
  case isTrue => exact ⟨rfl, fun _ member => by simp at member⟩
  case isFalse =>
    split
    case isTrue =>
      cases mrExitReason with
      | none => exact ⟨rfl, fun _ member => by cases member⟩
      | some reason => exact ⟨rfl, fun _ member => by simp at member⟩
    case isFalse =>
      split
      case isTrue =>
        split
        case h_1 =>
          unfold HybridOrchestrator.onBreakoutExit
          split <;> exact ⟨rfl, fun _ member => by simp at member⟩
        case h_2 => exact entry
      case isFalse => exact entry

theorem mrEntrySignal_proposable (engine : IntradayBreakoutEngine Value) (dt : NaiveDateTime) (bar : BarEvent Value)
    (closePrev dayRangePrev : Value) :
    ∀ signal ∈ strategy.mrEntrySignal dt bar closePrev dayRangePrev, IsProposable engine signal := by
  intro signal found
  have unfiltered := (Option.mem_filter_iff.1 found).1
  split at unfiltered
  case isTrue => cases unfiltered
  case isFalse =>
    split at unfiltered
    case isTrue =>
      split at unfiltered
      case isTrue =>
        obtain ⟨high180, -, rfl⟩ := Option.map_eq_some_iff.1 unfiltered
        exact .inl ⟨rfl, rfl, rfl⟩
      case isFalse => cases unfiltered
    case isFalse =>
      unfold author41EntrySignal at unfiltered
      dsimp only at unfiltered
      repeat' split at unfiltered
      all_goals cases unfiltered
      exact .inl ⟨rfl, rfl, rfl⟩

theorem meanReversion_evaluateEntry_proposable (engine : IntradayBreakoutEngine Value)
    {meanReversion : MeanReversionEngine Value} {dt : NaiveDateTime} {close closePrev dayRangePrev : Value} :
    ∀ signal ∈ meanReversion.evaluateEntry dt close closePrev dayRangePrev, IsProposable engine signal := by
  intro signal found
  unfold MeanReversionEngine.evaluateEntry at found
  split at found
  case isTrue => cases found
  case isFalse =>
    split at found
    case isTrue => cases found
    case isFalse =>
      dsimp only at found
      split at found
      case isTrue =>
        cases found
        exact .inl ⟨rfl, rfl, rfl⟩
      case isFalse =>
        split at found
        case isTrue =>
          cases found
          exact .inl ⟨rfl, rfl, rfl⟩
        case isFalse => cases found

theorem orchestratorActions_proposes (dt : NaiveDateTime) (bar : BarEvent Value) (closePrev dayRangePrev : Value)
    (input : BarInput Value) :
    Proposes strategy.orchestrator input (strategy.orchestratorActions dt bar closePrev dayRangePrev input) := by
  unfold orchestratorActions
  split
  case isTrue => exact onBarWithMrOverride_proposes _ fun _ found => nomatch found
  case isFalse =>
    split
    case isTrue => exact onBarWithMrOverride_proposes _ (mrEntrySignal_proposable _ dt bar closePrev dayRangePrev)
    case isFalse => exact onBarWithMrOverride_proposes _ (meanReversion_evaluateEntry_proposable _)

theorem orchestratorActions_free (dt : NaiveDateTime) (bar : BarEvent Value) (closePrev dayRangePrev : Value)
    (input : BarInput Value) :
    ProposesFree strategy.orchestrator input (strategy.orchestratorActions dt bar closePrev dayRangePrev input) := by
  obtain ⟨learnt, proposable⟩ := @orchestratorActions_proposes Value strategy _ dt bar closePrev dayRangePrev input
  exact ⟨learnt, fun signal member => (proposable signal member).isFree⟩

/-! ### Bars -/

theorem submitEntry_engine (createdTsUtc : Int) (canEmit canExecute : Bool) (referencePrice : Value)
    (entry : EntrySignal Value) :
    (strategy.submitEntry ids ctx createdTsUtc canEmit canExecute referencePrice
      entry).1.orchestrator.intradayBreakout = strategy.orchestrator.intradayBreakout := by
  have numbered : (strategy.activeOrNextCycle createdTsUtc).1.orchestrator = strategy.orchestrator := by
    have same := congrArg orchestrator (@activeOrNextCycle_bracketless Value strategy createdTsUtc)
    exact same
  unfold submitEntry
  split
  case isTrue => rfl
  case isFalse =>
    dsimp only
    split
    case isTrue => exact congrArg HybridOrchestrator.intradayBreakout numbered
    case isFalse => exact congrArg HybridOrchestrator.intradayBreakout numbered

/-- A free entry that is submitted is pending, or nothing is. -/
theorem submitEntry_guards {createdTsUtc : Int} {canEmit canExecute : Bool} {referencePrice : Value}
    {entry : EntrySignal Value} (guards : GuardsDay filled strategy)
    (free : IsFree strategy.orchestrator.intradayBreakout entry) :
    GuardsDay filled (strategy.submitEntry ids ctx createdTsUtc canEmit canExecute referencePrice entry).1 := by
  have numbered : entryDay (strategy.activeOrNextCycle createdTsUtc).1 = entryDay strategy := by
    have same := congrArg entryDay (@activeOrNextCycle_bracketless Value strategy createdTsUtc)
    exact same
  unfold submitEntry
  split
  case isTrue => exact guards
  case isFalse =>
    dsimp only
    split
    case isTrue =>
      have sameDay := congrArg EntryDay.day numbered
      have sameEntered := congrArg EntryDay.entered numbered
      have sameDeferred := congrArg EntryDay.deferred numbered
      refine EntryDay.Guards.propose guards ?_ ?_ ?_ ?_
      · exact sameDay
      · exact sameEntered
      · exact sameDeferred
      · intro side held
        have pair := Option.some.inj held
        have owner : entry.owner = .intradayBreakout := congrArg Prod.fst pair
        have ofSide : entry.side = side := congrArg Prod.snd pair
        exact ofSide ▸ free owner
    case isFalse => exact guards.of_same numbered

theorem mapActions_guardsDay (createdTsUtc : Int) (canEmit canExecute : Bool) {actions : List (Action Value)}
    (free : ∀ signal, Action.submitEntry signal ∈ actions → IsFree strategy.orchestrator.intradayBreakout signal)
    (guards : GuardsDay filled strategy) :
    GuardsDay filled (mapActions ids ctx createdTsUtc canEmit canExecute strategy actions).1 := by
  induction actions generalizing strategy with
  | nil => exact guards
  | cons action rest ih =>
      unfold mapActions
      cases action with
      | submitEntry signal =>
          refine ih ?_ (submitEntry_guards guards (free signal List.mem_cons_self))
          intro other member
          have engine := @submitEntry_engine Value strategy _ ctx ids createdTsUtc canEmit canExecute
            strategy.liveReferencePrice signal
          exact engine.symm ▸ free other (List.mem_cons_of_mem _ member)
      | submitExit owner reason =>
          have spares := @submitExit_spares Value strategy ctx ids _ createdTsUtc canEmit canExecute
            strategy.liveReferencePrice owner reason
          refine ih ?_ (guards.of_spares spares)
          intro other member
          have engine : _ = strategy.orchestrator.intradayBreakout :=
            congrArg (fun state => state.orchestrator.intradayBreakout) spares.2
          exact engine.symm ▸ free other (List.mem_cons_of_mem _ member)
      | armOvernightExit owner reason armedDate exitTime =>
          exact ih (fun other member => free other (List.mem_cons_of_mem _ member)) guards

section Acting

variable {dt : NaiveDateTime} {bar : BarEvent Value} {closePrev dayRangePrev : Value}
variable {previousDayLocal : Option NaiveDate} {input : BarInput Value}

theorem actOnBar_guards (guards : GuardsDay filled strategy)
    (fresh : FreshDay filled strategy.orchestrator.intradayBreakout input.dt.date) :
    GuardsDay filled (strategy.actOnBar ids ctx dt bar closePrev dayRangePrev previousDayLocal input).1 := by
  unfold actOnBar
  dsimp only
  have free := @orchestratorActions_free Value strategy _ dt bar closePrev dayRangePrev input
  generalize strategy.orchestratorActions dt bar closePrev dayRangePrev input = answer at free ⊢
  obtain ⟨exits, noEntry, guarded⟩ := @appendBreakoutNoOvernightGuard_exits Value
    { strategy with orchestrator := answer.1 } answer.2 dt previousDayLocal input.hasOpenPosition
  rw [guarded]
  have repaired := @maybeEmitRepairIntents_spares Value { strategy with orchestrator := answer.1 } ctx ids _
    (ctx.effectiveCreatedTsUtc bar.closeTimeUtc)
  have engine : _ = answer.1.intradayBreakout :=
    congrArg (fun state => state.orchestrator.intradayBreakout) repaired.2
  have asked : GuardsDay filled { strategy with orchestrator := answer.1 } := by
    refine (guards.warm fresh).of_same ?_
    unfold entryDay
    dsimp only
    rw [free.1]
    rfl
  refine mapActions_guardsDay _ _ _ ?_ (asked.of_spares repaired)
  intro signal member
  rcases List.mem_append.1 member with proposed | exit
  · refine engine.symm ▸ ?_
    rw [free.1]
    exact free.2 signal proposed
  · exact absurd exit (noEntry signal)

theorem maybeReissueDeferredEntry_guards {createdTsUtc : Int} {canEmit canExecute : Bool} {referencePrice : Value}
    {deferred : DeferredEntry Value} (guards : GuardsDay filled strategy) (held : strategy.deferredEntry = some deferred) :
    GuardsDay filled
      (strategy.maybeReissueDeferredEntry ids ctx createdTsUtc dt canEmit canExecute referencePrice deferred).1 := by
  unfold maybeReissueDeferredEntry
  split
  case isTrue => exact guards.drop rfl (.inr rfl) (.inl rfl)
  case isFalse =>
    split
    case isTrue => exact guards
    case isFalse =>
      have free : IsFree strategy.orchestrator.intradayBreakout deferred.signal := by
        intro breakout
        refine EntryDay.Guards.deferredFree guards deferred.signal.side ?_
        unfold entryDay
        dsimp only
        rw [held, ← breakout]
        rfl
      have cycled : GuardsDay filled { strategy with activeCycleId := some deferred.cycleId } := guards
      have sent := @submitEntry_guards Value filled _ _ ctx ids createdTsUtc canEmit canExecute referencePrice
        deferred.signal cycled free
      dsimp only
      split
      case isTrue => exact sent.drop rfl (.inr rfl) (.inl rfl)
      case isFalse => exact sent

theorem maybeReissueDeferredExit_guards {createdTsUtc : Int} {canEmit canExecute : Bool} {referencePrice : Value}
    {deferred : DeferredExit} (guards : GuardsDay filled strategy) :
    GuardsDay filled
      (strategy.maybeReissueDeferredExit ids ctx createdTsUtc canEmit canExecute referencePrice deferred).1 := by
  unfold maybeReissueDeferredExit
  split
  case isTrue => exact guards
  case isFalse =>
    split
    case isTrue => exact guards
    case isFalse =>
      have spares := @submitExit_spares Value { strategy with
          activeCycleId := some deferred.cycleId
          currentOwner := some deferred.owner } ctx ids _ createdTsUtc canEmit canExecute referencePrice
        deferred.owner deferred.reason
      have sent := GuardsDay.of_spares (guards : GuardsDay filled { strategy with
          activeCycleId := some deferred.cycleId
          currentOwner := some deferred.owner }) spares
      dsimp only
      split
      case isTrue => exact sent
      case isFalse => exact sent

theorem onBarAfterExit_guards {referencePrice : Value} (guards : GuardsDay filled strategy)
    (fresh : FreshDay filled strategy.orchestrator.intradayBreakout input.dt.date) :
    GuardsDay filled
      (strategy.onBarAfterExit ids ctx dt bar closePrev dayRangePrev previousDayLocal referencePrice input).1 := by
  unfold onBarAfterExit
  cases held : strategy.deferredEntry with
  | none => exact actOnBar_guards guards fresh
  | some deferred =>
      dsimp only
      have reissued := @maybeReissueDeferredEntry_guards Value filled (strategy.warmBar input) _ ctx ids dt
        (ctx.effectiveCreatedTsUtc bar.closeTimeUtc) (ctx.canEmitNow (decide (bar.origin = .live)))
        (ctx.canExecuteNow (decide (bar.origin = .live))) referencePrice deferred (guards.warm fresh) held
      have gone := @maybeReissueDeferredEntry_none Value (strategy.warmBar input) ctx ids _
        (ctx.effectiveCreatedTsUtc bar.closeTimeUtc) dt (ctx.canEmitNow (decide (bar.origin = .live)))
        (ctx.canExecuteNow (decide (bar.origin = .live))) referencePrice deferred
      generalize (strategy.warmBar input).maybeReissueDeferredEntry ids ctx _ dt _ _ referencePrice deferred = answer
        at reissued gone ⊢
      obtain ⟨state, intents⟩ := answer
      cases intents with
      | none =>
          dsimp only at gone ⊢
          rw [gone rfl] at reissued ⊢
          exact actOnBar_guards reissued (freshDay_warmBar strategy.orchestrator input)
      | some intents => exact reissued

theorem processBar_guards {hasOpenPosition : Bool} (guards : GuardsDay filled strategy)
    (fresh : FreshDay filled strategy.orchestrator.intradayBreakout dt.date) :
    GuardsDay filled
      (strategy.processBar ids ctx dt bar closePrev dayRangePrev previousDayLocal hasOpenPosition).1 := by
  unfold processBar
  dsimp only
  cases strategy.deferredExit with
  | none => exact onBarAfterExit_guards guards fresh
  | some deferred =>
      dsimp only
      have warmed : GuardsDay filled (strategy.warmBar (strategy.barInput dt bar closePrev dayRangePrev
          hasOpenPosition)) := guards.warm fresh
      have stillFresh := @freshDay_warmBar _ filled _ strategy.orchestrator
        (strategy.barInput dt bar closePrev dayRangePrev hasOpenPosition)
      generalize strategy.barInput dt bar closePrev dayRangePrev hasOpenPosition = input at warmed stillFresh ⊢
      have gone := @maybeReissueDeferredExit_none Value (strategy.warmBar input) ctx ids _
        (ctx.effectiveCreatedTsUtc bar.closeTimeUtc) (ctx.canEmitNow (decide (bar.origin = .live)))
        (ctx.canExecuteNow (decide (bar.origin = .live))) strategy.liveReferencePrice deferred
      have reissued := @maybeReissueDeferredExit_guards Value filled (strategy.warmBar input) _ ctx ids
        (ctx.effectiveCreatedTsUtc bar.closeTimeUtc) (ctx.canEmitNow (decide (bar.origin = .live)))
        (ctx.canExecuteNow (decide (bar.origin = .live))) strategy.liveReferencePrice deferred warmed
      generalize maybeReissueDeferredExit ids _ ctx _ _ _ strategy.liveReferencePrice deferred = answer
        at reissued gone ⊢
      obtain ⟨state, intents⟩ := answer
      cases intents with
      | none =>
          dsimp only at gone ⊢
          rw [gone rfl] at reissued ⊢
          exact onBarAfterExit_guards reissued stillFresh
      | some intents => exact reissued

end Acting

theorem clearStalePendingTail_guards {nowTs : Int} {positionQty : Value} (guards : GuardsDay filled strategy) :
    GuardsDay filled (strategy.clearStalePendingTail nowTs positionQty) := by
  have entry : GuardsDay filled (strategy.clearStaleEntry nowTs) := by
    unfold clearStaleEntry
    split
    case isTrue => exact guards.drop rfl (.inl rfl) (.inl rfl)
    case isFalse => exact guards
  have exit (state : HybridIntradayRuntimeStrategy Value) : entryDay (state.clearStaleExit nowTs) = entryDay state := by
    unfold clearStaleExit
    split <;> rfl
  have takeProfit (state : HybridIntradayRuntimeStrategy Value) : entryDay (state.clearStaleTp nowTs) = entryDay state := by
    unfold clearStaleTp
    split <;> rfl
  have stopLoss (state : HybridIntradayRuntimeStrategy Value) : entryDay (state.clearStaleSl nowTs) = entryDay state := by
    unfold clearStaleSl
    split <;> rfl
  unfold clearStalePendingTail
  split
  case isTrue => exact guards
  case isFalse => exact entry.of_same (((stopLoss _).trans (takeProfit _)).trans (exit _))

theorem onBar_guards {bar : BarEvent Value} (guards : GuardsDay filled strategy)
    (fresh : ∀ dt, strategy.AcceptsBar bar dt → FreshDay filled strategy.orchestrator.intradayBreakout dt.date) :
    GuardsDay filled (strategy.onBar ids ctx bar).1 := by
  have course := strategy.onBar_course ids ctx bar
  generalize strategy.onBar ids ctx bar = result at course ⊢
  cases course with
  | passedOver idle same =>
      have still := congrArg entryDay same
      exact guards.of_same still
  | replayed dt input sameTime accepts replay =>
      have learnt := congrArg entryDay (strategy.learnFromBar_tradeState dt bar)
      have engine : _ = strategy.orchestrator.intradayBreakout :=
        congrArg (fun state => state.orchestrator.intradayBreakout) (strategy.learnFromBar_tradeState dt bar)
      refine clearStalePendingTail_guards (GuardsDay.warm (guards.of_same learnt) ?_)
      rw [sameTime]
      exact engine.symm ▸ fresh dt accepts
  | actedOn dt accepts current =>
      have same := congrArg entryDay (strategy.stateForBar_tradeState ctx dt bar)
      have cleared := congrArg (fun state => state.orchestrator.intradayBreakout)
        (strategy.stateForBar_tradeState ctx dt bar)
      have engine : (strategy.stateForBar ctx dt bar).orchestrator.intradayBreakout =
          strategy.orchestrator.intradayBreakout := by
        refine Eq.trans cleared ?_
        unfold clearStalePendingTail clearStaleSl clearStaleTp clearStaleExit clearStaleEntry
        repeat' split
        all_goals rfl
      refine processBar_guards ((clearStalePendingTail_guards guards).of_same same) ?_
      rw [engine]
      exact fresh dt accepts

/-! ### The other callbacks -/

theorem onAck_guards (ack : CommandAck) (guards : GuardsDay filled strategy) :
    GuardsDay filled (strategy.onAck ack).1 := by
  have cycled : entryDay (strategy.activeOrNextCycle ack.processedTsUtc).1 = entryDay strategy := by
    have same := congrArg entryDay (@activeOrNextCycle_bracketless Value strategy ack.processedTsUtc)
    exact same
  unfold onAck
  split
  case isTrue =>
    split
    case isTrue =>
      unfold rejectEntry
      dsimp only
      split
      case isTrue =>
        refine EntryDay.Guards.passOn guards rfl rfl (fun _ held => nomatch held) ?_
        intro entry held
        unfold entryDay at held ⊢
        dsimp only at held ⊢
        cases pending : strategy.pendingEntry with
        | none =>
            rw [pending] at held
            exact .inr held
        | some waiting =>
            rw [pending] at held
            exact .inl held
      case isFalse => exact guards.drop rfl (.inl rfl) (.inr rfl)
    case isFalse => exact guards
  case isFalse =>
    split
    case isTrue =>
      split
      case isTrue =>
        unfold rejectExit
        split
        case isTrue => exact guards.of_same cycled
        case isFalse => exact guards
      case isFalse => exact guards
    case isFalse =>
      split
      case isTrue =>
        split
        case isTrue => exact guards
        case isFalse => exact guards
      case isFalse =>
        split
        case isTrue =>
          split
          case isTrue => exact guards
          case isFalse => exact guards
        case isFalse =>
          unfold retrySiblingCleanup
          split
          case isTrue => exact guards
          case isFalse => exact guards

def entryFilledBy (strategy : HybridIntradayRuntimeStrategy Value) (pos : PositionEvent Value) :
    Option (Owner × Side) :=
  if pos.symbol ≠ strategy.config.symbol then none
  else
    (strategy.pendingEntry.filter fun entry =>
      decide (IsOpen pos.qty ∧ partialEntryProgressIsValid entry strategy.lastPositionQty pos.qty ∧
        ¬ (waitsForPartialEntryTarget entry ∧ F64.abs pos.qty + F64.epsilon < entry.targetQty))).map
      fun entry => (entry.owner, entry.side)

theorem onPosition_guards {nowMs : Int} {pos : PositionEvent Value} (guards : GuardsDay filled strategy)
    (unfilled : entryFilledBy strategy pos = none) : GuardsDay filled (strategy.onPosition ids ctx nowMs pos).1 := by
  unfold onPosition
  split
  case isTrue => exact guards
  case isFalse ours =>
    have kept : GuardsDay filled (strategy.explainPosition ids ctx nowMs pos).1 := by
      unfold entryFilledBy at unfilled
      rw [if_neg ours, Option.map_eq_none_iff] at unfilled
      unfold explainPosition
      dsimp only
      cases explained : strategy.pendingEntry.filter fun _ => decide (IsOpen pos.qty) with
      | some entry =>
          obtain ⟨held, opened⟩ := Option.mem_filter_iff.1 explained
          have pending : strategy.pendingEntry = some entry := held
          rw [pending] at unfilled
          dsimp only
          split
          case isTrue =>
            have spares := guards.of_spares (@emitBrokerResidualEmergencyExit_spares Value strategy ctx ids _ pos
              (partialEntryFault entry pos.qty))
            exact spares.drop rfl (.inl rfl) (.inr rfl)
          case isFalse valid =>
            split
            case isTrue =>
              refine guards.of_same ?_
              unfold entryDay
              rw [pending]
              rfl
            case isFalse reached =>
              have fills : (fun entry : PendingEntry Value => decide (IsOpen pos.qty ∧
                  partialEntryProgressIsValid entry strategy.lastPositionQty pos.qty ∧
                  ¬ (waitsForPartialEntryTarget entry ∧ F64.abs pos.qty + F64.epsilon < entry.targetQty))) entry =
                    true :=
                decide_eq_true ⟨of_decide_eq_true opened, not_not.1 valid, reached⟩
              rw [Option.filter_some, if_pos fills] at unfilled
              cases unfilled
      | none =>
          dsimp only
          split
          case isTrue =>
            unfold onPositionResized
            split
            case isTrue => exact guards
            case isFalse => exact guards.of_spares (emitBrokerResidualEmergencyExit_spares pos _)
          case isFalse =>
            unfold settlePosition
            split
            case isTrue opening =>
              have noEntry : strategy.pendingEntry = none := by
                cases pending : strategy.pendingEntry with
                | none => rfl
                | some entry =>
                    rw [pending, Option.filter_some, if_pos (decide_eq_true opening.2)] at explained
                    cases explained
              rw [noEntry]
              have cycled := congrArg entryDay (@activeOrNextCycle_bracketless Value strategy pos.tsUtc)
              have numbered : GuardsDay filled (strategy.activeOrNextCycle pos.tsUtc).1 := guards.of_same cycled
              unfold recoverPosition
              dsimp only
              split
              case isTrue => exact numbered.drop rfl (.inr rfl) (.inl rfl)
              case isFalse =>
                refine GuardsDay.of_spares ?_ (emitBrokerResidualEmergencyExit_spares pos _)
                exact numbered.drop rfl (.inr rfl) (.inl rfl)
            case isFalse =>
              split
              case isTrue => exact guards.drop rfl (.inl rfl) (.inl rfl)
              case isFalse => exact guards
    exact kept

/-- A position that the pending entry explains and that it does not have to outgrow fills it. -/
theorem explainPosition_of_reached {nowMs : Int} {pos : PositionEvent Value} {entry : PendingEntry Value}
    (pending : strategy.pendingEntry = some entry)
    (valid : partialEntryProgressIsValid entry strategy.lastPositionQty pos.qty)
    (reached : ¬ (waitsForPartialEntryTarget entry ∧ F64.abs pos.qty + F64.epsilon < entry.targetQty)) :
    strategy.explainPosition ids ctx nowMs pos = strategy.fillEntry ids ctx pos entry := by
  have opened : IsOpen pos.qty := valid.1
  have explained : (strategy.pendingEntry.filter fun _ => decide (IsOpen pos.qty)) = some entry := by
    rw [pending, Option.filter_some, if_pos (decide_eq_true opened)]
  unfold explainPosition
  dsimp only
  rw [explained]
  dsimp only
  rw [if_neg (not_not.2 valid), if_neg reached]
  unfold settlePosition
  rw [if_pos ⟨.inr rfl, opened⟩, pending]

/-- A position event that completes an entry of the breakout marks its side, and nothing is on its way. -/
theorem onPosition_fills {nowMs : Int} {pos : PositionEvent Value} {owner : Owner} {side : Side}
    (fills : entryFilledBy strategy pos = some (owner, side)) :
    (entryDay strategy).pending = some (owner, side) ∧
      entryDay (strategy.onPosition ids ctx nowMs pos).1 =
        { day := (strategy.orchestrator.onEntryFilled owner (some side)).intradayBreakout.curDayDate
          entered := (strategy.orchestrator.onEntryFilled owner (some side)).intradayBreakout.wasEntered
          pending := none
          deferred := none } := by
  unfold entryFilledBy at fills
  split at fills
  case isTrue => cases fills
  case isFalse ours =>
    obtain ⟨entry, among, named⟩ := Option.map_eq_some_iff.1 fills
    obtain ⟨held, completes⟩ := Option.mem_filter_iff.1 among
    have pending : strategy.pendingEntry = some entry := held
    obtain ⟨opened, valid, reached⟩ := of_decide_eq_true completes
    cases named
    refine ⟨?_, ?_⟩
    · unfold entryDay
      rw [pending]
      rfl
    · unfold onPosition
      rw [if_neg ours, explainPosition_of_reached pending valid reached]
      unfold fillEntry
      have spares := congrArg entryDay (@emitMrBracketIntents_spares Value
        { strategy.clearPendingEntry with
          cleanupStopRetryAttempts := 0
          deferredEntry := none
          currentOwner := some entry.owner
          currentSide := some entry.side
          activeCycleId := some entry.cycleId
          repairAttempts := 0
          repairBackoffLevel := 0
          nextRepairAtTs := some pos.tsUtc
          repairDeadlineTs := some (saturatingAdd pos.tsUtc (asI64 strategy.config.repairDeadlineSec))
          mrTakePrice := entry.takePrice
          mrStopPrice := entry.stopPrice
          orchestrator := strategy.orchestrator.onEntryFilled entry.owner (some entry.side) } ctx ids _ pos entry).2
      exact spares

theorem onTimer_guards (nowTsUtcMs : Int) (guards : GuardsDay filled strategy) :
    GuardsDay filled (strategy.onTimer ids ctx nowTsUtcMs).1 := by
  unfold onTimer
  dsimp only
  have reconciled := guards.of_spares (@emitBracketReconcileTimeoutExit_spares Value strategy ctx ids _ nowTsUtcMs)
  unfold emitPartialEntryTimeoutExit
  split
  case h_1 => exact reconciled
  case h_2 => exact reconciled.drop rfl (.inl rfl) (.inr rfl)

end Days

end TradingGateway.HybridIntraday
