import TradingGateway.HybridIntraday.RuntimeCallbacks

/-! What a bar leaves alone: market data and the shadow of the risk gate apart, a bar that is learnt from
keeps the state of the strategy. -/

set_option autoImplicit false

namespace TradingGateway.HybridIntraday

open BrokerCore.Orders Foundation.MachineNumbers

def IsRunning {Value : Type} : Callback Value → Prop
  | .bootstrapSnapshot _ _ | .runtimeStateRestored _ => False
  | _ => True

def IsNumber {Value : Type} [F64 Value] (qty : Value) : Prop := IsOpen qty ↔ ¬ IsFlat qty

instance {Value : Type} [F64 Value] (qty : Value) : Decidable (IsNumber qty) := inferInstanceAs (Decidable (_ ↔ _))

namespace HybridIntradayRuntimeStrategy

variable {Value : Type} [F64 Value] (strategy : HybridIntradayRuntimeStrategy Value)

/-- The state without market data and without the shadow of the risk gate. -/
def marketless : HybridIntradayRuntimeStrategy Value :=
  { strategy with
    high180Mr := .new (.frozen Value)
    riskGateShadowMr := .new (.frozen Value)
    lastProcessedBarTs := none
    lastBarClose := none
    prevDayClose := none
    lastDayLocal := none
    currentDayHigh := none
    currentDayLow := none
    prevDayRange := none
    entryReady := false
    riskGateShadowSessionDate := none
    riskGateShadowPnlPoints := F64.zero
    riskGateShadowTradeCount := 0
    riskGateShadowPosition := none
    riskGateShadowOpen := none
    pendingRiskGateFinalizations := []
    riskGateMrEnabledCurrentSession := none }

/-- What is left when the guard of a replayed start is dropped as well. -/
def tradeState : HybridIntradayRuntimeStrategy Value :=
  { strategy.marketless with startupLiveReplayBoundaryTsUtc := none }

@[simp] theorem updateDayAggregates_marketless (dt : NaiveDateTime) (high low : Value) :
    (strategy.updateDayAggregates dt high low).marketless = strategy.marketless := by
  unfold updateDayAggregates
  cases strategy.lastDayLocal with
  | none => rfl
  | some day =>
      dsimp only
      split <;> rfl

@[simp] theorem finalizeRiskGateShadowSession_marketless (sessionDate : NaiveDate) :
    (strategy.finalizeRiskGateShadowSession sessionDate).marketless = strategy.marketless := by
  unfold finalizeRiskGateShadowSession
  split <;> rfl

@[simp] theorem rollRiskGateShadowSession_marketless (sessionDate : NaiveDate) :
    (strategy.rollRiskGateShadowSession sessionDate).marketless = strategy.marketless := by
  unfold rollRiskGateShadowSession
  cases strategy.riskGateShadowSessionDate with
  | none => rfl
  | some day =>
      dsimp only
      split
      case isTrue => rfl
      case isFalse => exact strategy.finalizeRiskGateShadowSession_marketless day

@[simp] theorem openShadowPosition_marketless (dt : NaiveDateTime) (tsUtc : Int) (close closePrev dayRangePrev : Value) :
    (strategy.openShadowPosition dt tsUtc close closePrev dayRangePrev).marketless = strategy.marketless := by
  unfold openShadowPosition
  split <;> rfl

@[simp] theorem updateRiskGateShadow_marketless (dt : NaiveDateTime) (tsUtc : Int)
    (high low close closePrev dayRangePrev : Value) :
    (strategy.updateRiskGateShadow dt tsUtc high low close closePrev dayRangePrev).marketless = strategy.marketless := by
  unfold updateRiskGateShadow
  split
  case isTrue => rfl
  case isFalse =>
    have rolled := strategy.rollRiskGateShadowSession_marketless dt.date
    dsimp only
    split
    case h_1 => exact rolled
    case h_2 =>
      rw [openShadowPosition_marketless]
      exact rolled

@[simp] theorem learnFromBar_marketless (dt : NaiveDateTime) (bar : BarEvent Value) :
    (strategy.learnFromBar dt bar).marketless = strategy.marketless := by
  unfold learnFromBar
  have aggregated := strategy.updateDayAggregates_marketless dt bar.h bar.l
  dsimp only
  rw [updateRiskGateShadow_marketless]
  split
  case isTrue => exact aggregated
  case isFalse => exact aggregated

@[simp] theorem learnFromBar_tradeState (dt : NaiveDateTime) (bar : BarEvent Value) :
    (strategy.learnFromBar dt bar).tradeState = strategy.tradeState :=
  congrArg (fun state => { state with startupLiveReplayBoundaryTsUtc := none })
    (strategy.learnFromBar_marketless dt bar)

theorem learnFromBar_startupReplayBoundary (dt : NaiveDateTime) (ctx : StrategyCtx Value) (bar : BarEvent Value) :
    (strategy.learnFromBar dt bar).startupReplayBoundary ctx bar = strategy.startupReplayBoundary ctx bar := by
  have same := congrArg (fun state => startupReplayBoundary state ctx bar) (strategy.learnFromBar_marketless dt bar)
  exact same

@[simp] theorem releaseStartupReplayBar_tradeState (ctx : StrategyCtx Value) (bar : BarEvent Value) :
    (strategy.releaseStartupReplayBar ctx bar).tradeState = strategy.tradeState := by
  unfold releaseStartupReplayBar
  split
  case isTrue => rfl
  case isFalse =>
    cases strategy.startupLiveReplayBoundaryTsUtc with
    | none => rfl
    | some boundary =>
        dsimp only
        split <;> rfl

/-! ### Requests that time out -/

theorem clearStaleEntry_tradeState (nowTs : Int) :
    (strategy.clearStaleEntry nowTs).tradeState = strategy.tradeState.clearStaleEntry nowTs := by
  unfold clearStaleEntry
  split
  case isTrue stale => exact (if_pos stale).symm
  case isFalse fresh => exact (if_neg fresh).symm

theorem clearStaleExit_tradeState (nowTs : Int) :
    (strategy.clearStaleExit nowTs).tradeState = strategy.tradeState.clearStaleExit nowTs := by
  unfold clearStaleExit
  split
  case isTrue stale => exact (if_pos stale).symm
  case isFalse fresh => exact (if_neg fresh).symm

theorem clearStaleTp_tradeState (nowTs : Int) :
    (strategy.clearStaleTp nowTs).tradeState = strategy.tradeState.clearStaleTp nowTs := by
  unfold clearStaleTp
  split
  case isTrue stale => exact (if_pos stale).symm
  case isFalse fresh => exact (if_neg fresh).symm

theorem clearStaleSl_tradeState (nowTs : Int) :
    (strategy.clearStaleSl nowTs).tradeState = strategy.tradeState.clearStaleSl nowTs := by
  unfold clearStaleSl
  split
  case isTrue stale => exact (if_pos stale).symm
  case isFalse fresh => exact (if_neg fresh).symm

/-- What times out does not depend on what bars teach. -/
theorem clearStalePendingTail_tradeState (nowTs : Int) (positionQty : Value) :
    (strategy.clearStalePendingTail nowTs positionQty).tradeState =
      strategy.tradeState.clearStalePendingTail nowTs positionQty := by
  unfold clearStalePendingTail
  split
  case isTrue busy => exact (if_pos busy).symm
  case isFalse idle =>
    rw [clearStaleSl_tradeState, clearStaleTp_tradeState, clearStaleExit_tradeState, clearStaleEntry_tradeState]
    exact (if_neg idle).symm

variable {strategy}

theorem acceptBar_tradeState {learnt : HybridIntradayRuntimeStrategy Value} (ctx : StrategyCtx Value)
    (bar : BarEvent Value) (same : learnt.tradeState = strategy.tradeState) :
    (learnt.acceptBar ctx bar).tradeState =
      (strategy.clearStalePendingTail bar.closeTimeUtc (ctx.positionQty.getD F64.zero)).tradeState := by
  unfold acceptBar
  rw [clearStalePendingTail_tradeState, clearStalePendingTail_tradeState]
  exact congrArg (fun state => clearStalePendingTail state bar.closeTimeUtc (ctx.positionQty.getD F64.zero)) same

/-! ### The course of a bar -/

variable (strategy)

def AcceptsBar (bar : BarEvent Value) (dt : NaiveDateTime) : Prop :=
  bar.symbol = strategy.config.symbol ∧ (∀ lastTs ∈ strategy.lastProcessedBarTs, lastTs < bar.closeTimeUtc) ∧
    strategy.utcToLocalNaive bar.closeTimeUtc = some dt ∧ strategy.suppressWeekendSignalGeneration dt = false ∧
    strategy.suppressNonModelSessionBar dt = false

def stateForBar (ctx : StrategyCtx Value) (dt : NaiveDateTime) (bar : BarEvent Value) :
    HybridIntradayRuntimeStrategy Value :=
  ((strategy.learnFromBar dt bar).releaseStartupReplayBar ctx bar).acceptBar ctx bar

theorem stateForBar_tradeState (ctx : StrategyCtx Value) (dt : NaiveDateTime) (bar : BarEvent Value) :
    (strategy.stateForBar ctx dt bar).tradeState =
      (strategy.clearStalePendingTail bar.closeTimeUtc (ctx.positionQty.getD F64.zero)).tradeState := by
  refine acceptBar_tradeState ctx bar ?_
  rw [releaseStartupReplayBar_tradeState, learnFromBar_tradeState]

inductive BarCourse (ids : RequestIds) (ctx : StrategyCtx Value) (bar : BarEvent Value) :
    HybridIntradayRuntimeStrategy Value × List (Intent Value) → Prop where
  | passedOver (idle : HybridIntradayRuntimeStrategy Value) (same : idle.tradeState = strategy.tradeState) :
      BarCourse ids ctx bar (idle, [])
  | replayed (dt : NaiveDateTime) (input : BarInput Value) (sameTime : input.dt = dt)
      (accepts : strategy.AcceptsBar bar dt) (replay : strategy.startupReplayBoundary ctx bar ≠ none) :
      BarCourse ids ctx bar ((strategy.learnFromBar dt bar).suppressStartupReplayBar ctx input bar, [])
  | actedOn (dt : NaiveDateTime) (accepts : strategy.AcceptsBar bar dt)
      (current : strategy.startupReplayBoundary ctx bar = none) :
      BarCourse ids ctx bar ((strategy.stateForBar ctx dt bar).processBar ids ctx dt bar
        ((strategy.learnFromBar dt bar).prevDayClose.getD bar.close)
        ((strategy.learnFromBar dt bar).prevDayRange.getD F64.zero) strategy.lastDayLocal
        (decide (IsOpen (ctx.positionQty.getD F64.zero))))

theorem onBar_course (ids : RequestIds) (ctx : StrategyCtx Value) (bar : BarEvent Value) :
    BarCourse strategy ids ctx bar (strategy.onBar ids ctx bar) := by
  unfold onBar
  split
  case isTrue => exact .passedOver strategy rfl
  case isFalse new =>
    rw [not_or, not_not] at new
    split
    case h_1 => exact .passedOver strategy rfl
    case h_2 dt localTime =>
      split
      case isTrue => exact .passedOver _ rfl
      case isFalse kept =>
        have accepts : strategy.AcceptsBar bar dt := by
          refine ⟨new.1, ?_, localTime, ?_, ?_⟩
          · intro lastTs last
            by_contra late
            exact new.2 ⟨lastTs, last, by omega⟩
          · exact Bool.eq_false_of_not_eq_true fun suppressed => kept (.inl suppressed)
          · exact Bool.eq_false_of_not_eq_true fun suppressed => kept (.inr suppressed)
        dsimp only
        have boundary := strategy.learnFromBar_startupReplayBoundary dt ctx bar
        split
        case h_1 replay => exact .replayed dt _ rfl accepts (by rw [← boundary, replay]; exact Option.some_ne_none _)
        case h_2 current => exact .actedOn dt accepts (boundary ▸ current)

end HybridIntradayRuntimeStrategy

end TradingGateway.HybridIntraday
