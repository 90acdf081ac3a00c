import TradingGateway.Foundation.ExceptRun
import TradingGateway.HybridIntraday.BracketState
import TradingGateway.HybridIntraday.TradeState

/-! The rebuild of the risk gate's sessions from a history of bars, and its agreement with a strategy that
received the same bars: what acts on a bar leaves alone what the bar has taught. -/

set_option autoImplicit false

namespace TradingGateway.HybridIntraday

open BrokerCore.Orders Foundation.ExceptRun Foundation.MachineNumbers

namespace HybridIntradayRuntimeStrategy

variable {Value : Type} [F64 Value] (strategy : HybridIntradayRuntimeStrategy Value)

/-! ### The rebuild -/

def closeRiskGateShadow : HybridIntradayRuntimeStrategy Value :=
  match strategy.riskGateShadowSessionDate with
  | some lastSession => strategy.finalizeRiskGateShadowSession lastSession
  | none => strategy

def refusesHistoryBar (bar : BarEvent Value) : Prop :=
  bar.symbol ≠ strategy.config.symbol ∨
    [bar.o, bar.h, bar.l, bar.close, bar.v].all F64.isFinite = false ∨
    bar.v < F64.zero ∨ bar.h < bar.l ∨ bar.h < F64.maxOf bar.o bar.close ∨ F64.minOf bar.o bar.close < bar.l ∨
    bar.closeTimeUtc % 600 ≠ 0 ∨ ∃ last ∈ strategy.lastProcessedBarTs, bar.closeTimeUtc ≤ last

instance (bar : BarEvent Value) : Decidable (strategy.refusesHistoryBar bar) :=
  inferInstanceAs (Decidable (_ ∨ _))

/-- One bar of the replay: the oracle behind it, and the number of bars that it has learnt from. -/
def rebuildRiskgateBar (state : HybridIntradayRuntimeStrategy Value × Nat) (bar : BarEvent Value) :
    Except Unit (HybridIntradayRuntimeStrategy Value × Nat) :=
  let (oracle, processed) := state
  if oracle.refusesHistoryBar bar then .error ()
  else
    match oracle.utcToLocalNaive bar.closeTimeUtc with
    | none => .error ()
    | some dt =>
        if oracle.suppressWeekendSignalGeneration dt ∨ oracle.suppressNonModelSessionBar dt then
          .ok ({ oracle with lastProcessedBarTs := some bar.closeTimeUtc }, processed)
        else
          let aggregated := oracle.updateDayAggregates dt bar.h bar.l
          let warmed :=
            if aggregated.usesHigh180Mr then
              { aggregated with high180Mr := aggregated.high180Mr.onBar dt bar.h bar.l }
            else aggregated
          let closePrev := warmed.prevDayClose.getD bar.close
          let dayRangePrev := warmed.prevDayRange.getD F64.zero
          let shadowed := warmed.updateRiskGateShadow dt bar.closeTimeUtc bar.h bar.l bar.close closePrev dayRangePrev
          .ok ({ shadowed with
            lastBarClose := some bar.close
            lastProcessedBarTs := some bar.closeTimeUtc }, processed + 1)

def stage8bP1RebuildRiskgateHistory (bars : List (BarEvent Value)) :
    Except Unit (List (RiskGateSessionFinalization Value)) := do
  let (oracle, processed) ← bars.foldlM rebuildRiskgateBar (new strategy.config, 0)
  if processed = 0 then .error ()
  else .ok oracle.closeRiskGateShadow.pendingRiskGateFinalizations

/-! ### What bars teach -/

/-- Market data and the shadow of the risk gate, under the configuration. -/
def taught : HybridIntradayRuntimeStrategy Value :=
  { new strategy.config with
    high180Mr := strategy.high180Mr
    riskGateShadowMr := strategy.riskGateShadowMr
    lastProcessedBarTs := strategy.lastProcessedBarTs
    lastBarClose := strategy.lastBarClose
    prevDayClose := strategy.prevDayClose
    lastDayLocal := strategy.lastDayLocal
    currentDayHigh := strategy.currentDayHigh
    currentDayLow := strategy.currentDayLow
    prevDayRange := strategy.prevDayRange
    entryReady := strategy.entryReady
    riskGateShadowSessionDate := strategy.riskGateShadowSessionDate
    riskGateShadowPnlPoints := strategy.riskGateShadowPnlPoints
    riskGateShadowTradeCount := strategy.riskGateShadowTradeCount
    riskGateShadowPosition := strategy.riskGateShadowPosition
    riskGateShadowOpen := strategy.riskGateShadowOpen
    pendingRiskGateFinalizations := strategy.pendingRiskGateFinalizations }

theorem updateDayAggregates_taught (dt : NaiveDateTime) (high low : Value) :
    (strategy.updateDayAggregates dt high low).taught = strategy.taught.updateDayAggregates dt high low := by
  rw [updateDayAggregates, updateDayAggregates]
  have sameDay : strategy.taught.lastDayLocal = strategy.lastDayLocal := rfl
  rw [sameDay]
  cases strategy.lastDayLocal with
  | none => rfl
  | some day =>
      dsimp only
      split <;> rfl

theorem finalizeRiskGateShadowSession_taught (sessionDate : NaiveDate) :
    (strategy.finalizeRiskGateShadowSession sessionDate).taught =
      strategy.taught.finalizeRiskGateShadowSession sessionDate := by
  unfold finalizeRiskGateShadowSession
  split
  case isTrue done => exact (if_pos done).symm
  case isFalse due => exact (if_neg due).symm

theorem rollRiskGateShadowSession_taught (sessionDate : NaiveDate) :
    (strategy.rollRiskGateShadowSession sessionDate).taught =
      strategy.taught.rollRiskGateShadowSession sessionDate := by
  rw [rollRiskGateShadowSession, rollRiskGateShadowSession]
  have sameSession : strategy.taught.riskGateShadowSessionDate = strategy.riskGateShadowSessionDate := rfl
  rw [sameSession]
  cases strategy.riskGateShadowSessionDate with
  | none => rfl
  | some day =>
      dsimp only
      split
      case isTrue => rfl
      case isFalse =>
        rw [← finalizeRiskGateShadowSession_taught]
        rfl

theorem openShadowPosition_taught (dt : NaiveDateTime) (tsUtc : Int) (close closePrev dayRangePrev : Value) :
    (strategy.openShadowPosition dt tsUtc close closePrev dayRangePrev).taught =
      strategy.taught.openShadowPosition dt tsUtc close closePrev dayRangePrev := by
  rw [openShadowPosition, openShadowPosition]
  have samePosition : strategy.taught.riskGateShadowPosition = strategy.riskGateShadowPosition := rfl
  have sameEngine : strategy.taught.riskGateShadowMr = strategy.riskGateShadowMr := rfl
  rw [samePosition, sameEngine]
  split <;> rfl

def tradeShadow (dt : NaiveDateTime) (tsUtc : Int) (close closePrev dayRangePrev : Value) :
    HybridIntradayRuntimeStrategy Value :=
  match strategy.riskGateShadowPosition, strategy.shadowExitPrice dt close with
  | some position, some exitPrice => strategy.closeShadowPosition position exitPrice
  | _, _ => strategy.openShadowPosition dt tsUtc close closePrev dayRangePrev

theorem updateRiskGateShadow_taught (dt : NaiveDateTime) (tsUtc : Int)
    (high low close closePrev dayRangePrev : Value) :
    (strategy.updateRiskGateShadow dt tsUtc high low close closePrev dayRangePrev).taught =
      strategy.taught.updateRiskGateShadow dt tsUtc high low close closePrev dayRangePrev := by
  rw [updateRiskGateShadow, updateRiskGateShadow]
  have sameSwitch : strategy.taught.riskGateShadowEnabled = strategy.riskGateShadowEnabled := rfl
  rw [sameSwitch]
  split
  case isTrue => rfl
  case isFalse =>
    rw [← rollRiskGateShadowSession_taught]
    generalize strategy.rollRiskGateShadowSession dt.date = rolled
    let warmed := { rolled with riskGateShadowMr := rolled.riskGateShadowMr.onBar dt high low }
    have sameExit : warmed.taught.shadowExitPrice dt close = warmed.shadowExitPrice dt close := rfl
    have samePosition : warmed.taught.riskGateShadowPosition = warmed.riskGateShadowPosition := rfl
    change (warmed.tradeShadow dt tsUtc close closePrev dayRangePrev).taught =
      warmed.taught.tradeShadow dt tsUtc close closePrev dayRangePrev
    unfold tradeShadow
    rw [sameExit, samePosition]
    split
    case h_1 => rfl
    case h_2 => exact warmed.openShadowPosition_taught dt tsUtc close closePrev dayRangePrev

theorem learnFromBar_taught (dt : NaiveDateTime) (bar : BarEvent Value) :
    (strategy.learnFromBar dt bar).taught = strategy.taught.learnFromBar dt bar := by
  rw [learnFromBar, learnFromBar, ← updateDayAggregates_taught]
  generalize strategy.updateDayAggregates dt bar.h bar.l = aggregated
  have sameVariant : aggregated.taught.usesHigh180Mr = aggregated.usesHigh180Mr := rfl
  rw [sameVariant]
  split
  case isTrue => exact updateRiskGateShadow_taught _ _ _ _ _ _ _ _
  case isFalse => exact updateRiskGateShadow_taught _ _ _ _ _ _ _ _

/-! ### What acting on a bar leaves alone -/

variable (ids : RequestIds) (ctx : StrategyCtx Value)

/-- The bracket, its repair and the exits do not touch what was taught. -/
theorem SparesEntries.taught {result : HybridIntradayRuntimeStrategy Value × List (Intent Value)}
    (spares : SparesEntries strategy result) : result.1.taught = strategy.taught := by
  have same := congrArg HybridIntradayRuntimeStrategy.taught spares.2
  exact same

theorem submitEntry_taught (createdTsUtc : Int) (canEmit canExecute : Bool) (referencePrice : Value)
    (entry : EntrySignal Value) :
    (strategy.submitEntry ids ctx createdTsUtc canEmit canExecute referencePrice entry).1.taught =
      strategy.taught := by
  unfold submitEntry
  have numbered : (strategy.activeOrNextCycle createdTsUtc).1.taught = strategy.taught := by
    have same := congrArg taught (@activeOrNextCycle_bracketless Value strategy createdTsUtc)
    exact same
  split
  case isTrue => rfl
  case isFalse =>
    dsimp only
    split
    case isTrue => exact numbered
    case isFalse => exact numbered

theorem mapAction_taught (createdTsUtc : Int) (canEmit canExecute : Bool) (referencePrice : Value)
    (action : Action Value) :
    (strategy.mapActionToIntentsWithReference ids ctx createdTsUtc canEmit canExecute referencePrice action).1.taught =
      strategy.taught := by
  cases action with
  | submitEntry entry => exact strategy.submitEntry_taught ids ctx createdTsUtc canEmit canExecute referencePrice entry
  | submitExit owner reason =>
      exact (submitExit_spares createdTsUtc canEmit canExecute referencePrice owner reason).taught
  | armOvernightExit owner reason armedDate exitTime => rfl

theorem mapActions_taught (createdTsUtc : Int) (canEmit canExecute : Bool) (actions : List (Action Value)) :
    (mapActions ids ctx createdTsUtc canEmit canExecute strategy actions).1.taught = strategy.taught := by
  induction actions generalizing strategy with
  | nil => rfl
  | cons action rest ih =>
      have first := strategy.mapAction_taught ids ctx createdTsUtc canEmit canExecute strategy.liveReferencePrice action
      exact (ih _).trans first

theorem maybeReissueDeferredEntry_taught (createdTsUtc : Int) (dt : NaiveDateTime) (canEmit canExecute : Bool)
    (referencePrice : Value) (deferred : DeferredEntry Value) :
    (strategy.maybeReissueDeferredEntry ids ctx createdTsUtc dt canEmit canExecute referencePrice deferred).1.taught =
      strategy.taught := by
  unfold maybeReissueDeferredEntry
  split
  case isTrue => rfl
  case isFalse =>
    split
    case isTrue => rfl
    case isFalse =>
      have sent := { strategy with activeCycleId := some deferred.cycleId }.mapAction_taught ids ctx createdTsUtc canEmit
        canExecute referencePrice (.submitEntry deferred.signal)
      dsimp only
      split
      case isTrue => exact sent
      case isFalse => exact sent

theorem maybeReissueDeferredExit_taught (createdTsUtc : Int) (canEmit canExecute : Bool) (referencePrice : Value)
    (deferred : DeferredExit) :
    (strategy.maybeReissueDeferredExit ids ctx createdTsUtc canEmit canExecute referencePrice deferred).1.taught =
      strategy.taught := by
  unfold maybeReissueDeferredExit
  split
  case isTrue => rfl
  case isFalse =>
    split
    case isTrue => rfl
    case isFalse =>
      have sent := { strategy with
          activeCycleId := some deferred.cycleId
          currentOwner := some deferred.owner }.mapAction_taught ids ctx createdTsUtc canEmit canExecute referencePrice
        (.submitExit deferred.owner deferred.reason)
      dsimp only
      split
      case isTrue => exact sent
      case isFalse => exact sent

section Acting

variable (dt : NaiveDateTime) (bar : BarEvent Value) (closePrev dayRangePrev : Value)
variable (previousDayLocal : Option NaiveDate)

theorem actOnBar_taught (input : BarInput Value) :
    (strategy.actOnBar ids ctx dt bar closePrev dayRangePrev previousDayLocal input).1.taught = strategy.taught := by
  unfold actOnBar
  dsimp only
  rw [mapActions_taught]
  exact (maybeEmitRepairIntents_spares (ctx.effectiveCreatedTsUtc bar.closeTimeUtc)).taught

theorem onBarAfterExit_taught (referencePrice : Value) (input : BarInput Value) :
    (strategy.onBarAfterExit ids ctx dt bar closePrev dayRangePrev previousDayLocal referencePrice input).1.taught =
      strategy.taught := by
  unfold onBarAfterExit
  cases strategy.deferredEntry with
  | none => exact strategy.actOnBar_taught ids ctx dt bar closePrev dayRangePrev previousDayLocal input
  | some deferred =>
      have retried := (strategy.warmBar input).maybeReissueDeferredEntry_taught ids ctx
        (ctx.effectiveCreatedTsUtc bar.closeTimeUtc) dt (ctx.canEmitNow (bar.origin = .live))
        (ctx.canExecuteNow (bar.origin = .live)) referencePrice deferred
      dsimp only
      split
      case h_1 reissued intents issued =>
        rw [issued] at retried
        exact retried
      case h_2 cleared expired =>
        rw [expired] at retried
        exact (cleared.actOnBar_taught ids ctx dt bar closePrev dayRangePrev previousDayLocal input).trans retried

theorem processBar_taught (hasOpenPosition : Bool) :
    (strategy.processBar ids ctx dt bar closePrev dayRangePrev previousDayLocal hasOpenPosition).1.taught =
      strategy.taught := by
  unfold processBar
  cases strategy.deferredExit with
  | none => exact strategy.onBarAfterExit_taught ids ctx dt bar closePrev dayRangePrev previousDayLocal _ _
  | some deferred =>
      have retried := (strategy.warmBar (strategy.barInput dt bar closePrev dayRangePrev
        hasOpenPosition)).maybeReissueDeferredExit_taught ids ctx (ctx.effectiveCreatedTsUtc bar.closeTimeUtc)
        (ctx.canEmitNow (bar.origin = .live)) (ctx.canExecuteNow (bar.origin = .live)) strategy.liveReferencePrice deferred
      dsimp only
      split
      case h_1 reissued intents issued =>
        rw [issued] at retried
        exact retried
      case h_2 cleared flat =>
        rw [flat] at retried
        exact (cleared.onBarAfterExit_taught ids ctx dt bar closePrev dayRangePrev previousDayLocal _ _).trans retried

end Acting

/-! ### A bar and its replay -/

theorem clearStalePendingTail_taught (nowTs : Int) (positionQty : Value) :
    (strategy.clearStalePendingTail nowTs positionQty).taught = strategy.taught := by
  have entry : (strategy.clearStaleEntry nowTs).taught = strategy.taught := by
    unfold clearStaleEntry
    split <;> rfl
  have exit (state : HybridIntradayRuntimeStrategy Value) : (state.clearStaleExit nowTs).taught = state.taught := by
    unfold clearStaleExit
    split <;> rfl
  have takeProfit (state : HybridIntradayRuntimeStrategy Value) : (state.clearStaleTp nowTs).taught = state.taught := by
    unfold clearStaleTp
    split <;> rfl
  have stopLoss (state : HybridIntradayRuntimeStrategy Value) : (state.clearStaleSl nowTs).taught = state.taught := by
    unfold clearStaleSl
    split <;> rfl
  unfold clearStalePendingTail
  split
  case isTrue => rfl
  case isFalse => rw [stopLoss, takeProfit, exit, entry]

theorem releaseStartupReplayBar_taught (bar : BarEvent Value) :
    (strategy.releaseStartupReplayBar ctx bar).taught = strategy.taught := by
  unfold releaseStartupReplayBar
  split
  case isTrue => rfl
  case isFalse =>
    cases strategy.startupLiveReplayBoundaryTsUtc with
    | none => rfl
    | some boundary =>
        dsimp only
        split <;> rfl

def behindBar (dt : NaiveDateTime) (bar : BarEvent Value) : HybridIntradayRuntimeStrategy Value :=
  { strategy.learnFromBar dt bar with
    lastBarClose := some bar.close
    lastProcessedBarTs := some bar.closeTimeUtc }

theorem behindBar_taught (dt : NaiveDateTime) (bar : BarEvent Value) :
    (strategy.behindBar dt bar).taught = strategy.taught.behindBar dt bar := by
  rw [behindBar, behindBar, ← learnFromBar_taught]
  rfl

/-- Whatever a strategy does on a bar that it accepts, it is taught what the bar teaches. -/
theorem onBar_taught {bar : BarEvent Value} {dt : NaiveDateTime} (accepts : strategy.AcceptsBar bar dt) :
    (strategy.onBar ids ctx bar).1.taught = strategy.taught.behindBar dt bar := by
  obtain ⟨symbol, new, localTime, working, inSession⟩ := accepts
  have current : ¬ (bar.symbol ≠ strategy.config.symbol ∨
      ∃ lastTs ∈ strategy.lastProcessedBarTs, bar.closeTimeUtc ≤ lastTs) := by
    rintro (other | ⟨lastTs, last, late⟩)
    · exact other symbol
    · exact absurd (new lastTs last) (by omega)
  have learnt : ({ strategy.learnFromBar dt bar with
      lastProcessedBarTs := some bar.closeTimeUtc
      lastBarClose := some bar.close } : HybridIntradayRuntimeStrategy Value).taught =
        strategy.taught.behindBar dt bar :=
    strategy.behindBar_taught dt bar
  unfold onBar
  rw [if_neg current, localTime]
  dsimp only
  rw [working, inSession, if_neg (by simp)]
  split
  case h_1 =>
    unfold suppressStartupReplayBar acceptBar
    rw [clearStalePendingTail_taught]
    exact learnt
  case h_2 =>
    rw [processBar_taught, acceptBar, clearStalePendingTail_taught]
    have released := (strategy.learnFromBar dt bar).releaseStartupReplayBar_taught ctx bar
    refine Eq.trans ?_ learnt
    exact congrArg (fun state => { state with
      lastProcessedBarTs := some bar.closeTimeUtc
      lastBarClose := some bar.close }) released

variable {strategy}

inductive Replayed (oracle : HybridIntradayRuntimeStrategy Value) (processed : Nat) (bar : BarEvent Value) :
    HybridIntradayRuntimeStrategy Value × Nat → Prop where
  | passedOver (dt : NaiveDateTime) (formed : ¬ oracle.refusesHistoryBar bar)
      (localTime : oracle.utcToLocalNaive bar.closeTimeUtc = some dt)
      (suppressed : oracle.suppressWeekendSignalGeneration dt = true ∨ oracle.suppressNonModelSessionBar dt = true) :
      Replayed oracle processed bar ({ oracle with lastProcessedBarTs := some bar.closeTimeUtc }, processed)
  | learnt (dt : NaiveDateTime) (formed : ¬ oracle.refusesHistoryBar bar) (accepts : oracle.AcceptsBar bar dt) :
      Replayed oracle processed bar (oracle.behindBar dt bar, processed + 1)

theorem rebuildRiskgateBar_replayed {oracle : HybridIntradayRuntimeStrategy Value} {processed : Nat}
    {bar : BarEvent Value} {after : HybridIntradayRuntimeStrategy Value × Nat}
    (rebuilt : rebuildRiskgateBar (oracle, processed) bar = .ok after) : Replayed oracle processed bar after := by
  unfold rebuildRiskgateBar at rebuilt
  dsimp only at rebuilt
  split at rebuilt
  case isTrue => cases rebuilt
  case isFalse formed =>
    split at rebuilt
    case h_1 => cases rebuilt
    case h_2 dt localTime =>
      split at rebuilt
      case isTrue suppressed =>
        cases rebuilt
        exact .passedOver dt formed localTime suppressed
      case isFalse kept =>
        cases rebuilt
        refine .learnt dt formed ⟨?_, ?_, localTime, ?_, ?_⟩
        · exact not_not.1 fun other => formed (.inl other)
        · intro lastTs last
          by_contra late
          exact formed (.inr (.inr (.inr (.inr (.inr (.inr (.inr ⟨lastTs, last, by omega⟩)))))))
        · exact Bool.eq_false_of_not_eq_true fun weekend => kept (.inl weekend)
        · exact Bool.eq_false_of_not_eq_true fun outside => kept (.inr outside)

end HybridIntradayRuntimeStrategy

structure BarDelivery (Value : Type) where
  ctx : StrategyCtx Value
  origin : DataOrigin
  bar : BarEvent Value

def BarDelivery.callback {Value : Type} (delivery : BarDelivery Value) : Callback Value :=
  .bar delivery.ctx { delivery.bar with origin := delivery.origin }

namespace HybridIntradayRuntimeStrategy

variable {Value : Type} [F64 Value] {strategy : HybridIntradayRuntimeStrategy Value} (ids : RequestIds)

def afterBars (live : HybridIntradayRuntimeStrategy Value) (feed : List (BarDelivery Value)) :
    HybridIntradayRuntimeStrategy Value :=
  feed.foldl (fun live delivery => live.after ids delivery.callback) live

omit [F64 Value] in
theorem utcToLocalNaive_congr {other : HybridIntradayRuntimeStrategy Value} (same : other.config = strategy.config)
    (ts : Int) : other.utcToLocalNaive ts = strategy.utcToLocalNaive ts := by
  have read := congrArg (fun config => utcToLocalNaive { strategy with config := config } ts) same
  exact read

/-- A strategy that agrees with the oracle on what bars teach still does behind another bar. -/
theorem after_taught_of_rebuild {live oracle : HybridIntradayRuntimeStrategy Value} {processed : Nat}
    {delivery : BarDelivery Value} {after : HybridIntradayRuntimeStrategy Value × Nat}
    (rebuilt : rebuildRiskgateBar (oracle, processed) delivery.bar = .ok after) (same : live.taught = oracle.taught) :
    (live.after ids delivery.callback).taught = after.1.taught := by
  have config : live.config = oracle.config := congrArg (·.config) same
  have lastBar : live.lastProcessedBarTs = oracle.lastProcessedBarTs := congrArg (·.lastProcessedBarTs) same
  have localTimes := utcToLocalNaive_congr config
  have weekends (dt : NaiveDateTime) :
      live.suppressWeekendSignalGeneration dt = oracle.suppressWeekendSignalGeneration dt := by
    simp only [suppressWeekendSignalGeneration, config]
  have sessions (dt : NaiveDateTime) : live.suppressNonModelSessionBar dt = oracle.suppressNonModelSessionBar dt := by
    simp only [suppressNonModelSessionBar, config]
  cases rebuildRiskgateBar_replayed rebuilt with
  | passedOver dt formed localTime suppressed =>
      have current : ¬ (delivery.bar.symbol ≠ live.config.symbol ∨
          ∃ lastTs ∈ live.lastProcessedBarTs, delivery.bar.closeTimeUtc ≤ lastTs) := by
        rw [config, lastBar]
        rintro (other | late)
        · exact formed (.inl other)
        · exact formed (.inr (.inr (.inr (.inr (.inr (.inr (.inr late)))))))
      have idle : (live.onBar ids delivery.ctx { delivery.bar with origin := delivery.origin }).1 =
          { live with lastProcessedBarTs := some delivery.bar.closeTimeUtc } := by
        unfold onBar
        rw [if_neg current, localTimes, localTime]
        dsimp only
        rw [weekends, sessions, if_pos suppressed]
      change (live.onBar ids delivery.ctx { delivery.bar with origin := delivery.origin }).1.taught = _
      rw [idle]
      exact congrArg (fun state => { state with lastProcessedBarTs := some delivery.bar.closeTimeUtc }) same
  | learnt dt formed accepts =>
      have accepted : live.AcceptsBar { delivery.bar with origin := delivery.origin } dt := by
        obtain ⟨symbol, new, localTime, working, inSession⟩ := accepts
        refine ⟨config ▸ symbol, lastBar ▸ new, ?_, ?_, ?_⟩
        · exact (localTimes _).trans localTime
        · exact (weekends dt).trans working
        · exact (sessions dt).trans inSession
      refine (live.onBar_taught ids delivery.ctx accepted).trans ?_
      rw [same]
      exact (oracle.behindBar_taught dt delivery.bar).symm

/-- The strategy agrees with the oracle behind every history that the oracle replays. -/
theorem afterBars_taught_of_rebuild {feed : List (BarDelivery Value)} {live oracle : HybridIntradayRuntimeStrategy Value}
    {processed : Nat} {last : HybridIntradayRuntimeStrategy Value × Nat}
    (rebuilt : (feed.map (·.bar)).foldlM rebuildRiskgateBar (oracle, processed) = .ok last)
    (same : live.taught = oracle.taught) : (afterBars ids live feed).taught = last.1.taught := by
  induction feed generalizing live oracle processed with
  | nil =>
      cases rebuilt
      exact same
  | cons delivery feed ih =>
      rw [List.map_cons, List.foldlM_cons] at rebuilt
      obtain ⟨⟨next, count⟩, first, rest⟩ := bind_ok_iff.1 rebuilt
      exact ih rest (after_taught_of_rebuild ids first same)

theorem closeRiskGateShadow_taught (strategy : HybridIntradayRuntimeStrategy Value) :
    strategy.closeRiskGateShadow.taught = strategy.taught.closeRiskGateShadow := by
  rw [closeRiskGateShadow, closeRiskGateShadow]
  have sameSession : strategy.taught.riskGateShadowSessionDate = strategy.riskGateShadowSessionDate := rfl
  rw [sameSession]
  cases strategy.riskGateShadowSessionDate with
  | none => rfl
  | some day => exact strategy.finalizeRiskGateShadowSession_taught day

end HybridIntradayRuntimeStrategy

end TradingGateway.HybridIntraday
