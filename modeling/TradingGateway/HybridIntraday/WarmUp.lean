import TradingGateway.HybridIntraday.PublishedState
import TradingGateway.HybridIntraday.RiskGateSessions

/-! The warm-up from a history of bars: a strategy of the same configuration learns from the bars alone, and
what it has learnt replaces what the strategy knew. -/

set_option autoImplicit false

namespace TradingGateway.HybridIntraday

open BrokerCore.Orders Foundation.MachineNumbers

namespace IntradayBreakoutEngine

variable {Value : Type}

def wasEntered (engine : IntradayBreakoutEngine Value) : Side → Bool
  | .long => engine.wasLongToday
  | .short => engine.wasShortToday

def countsDay (config : IntradayBreakoutConfig Value) (day : NaiveDate) : Prop :=
  ¬ (config.excludeWeekends = true ∧ isWeekend day = true)

instance (config : IntradayBreakoutConfig Value) (day : NaiveDate) : Decidable (countsDay config day) :=
  inferInstanceAs (Decidable (¬ _))

variable [F64 Value] (engine : IntradayBreakoutEngine Value) (dt : NaiveDateTime) (opened high low close : Value)

@[simp] theorem onBar_config : (engine.onBar dt opened high low close).config = engine.config := by
  unfold onBar
  split
  case isTrue => rfl
  case isFalse =>
    cases engine.curDayDate with
    | none => rfl
    | some day =>
        dsimp only [updateCurDay]
        split <;> rfl

/-- A bar that counts and is of another day opens its day; otherwise the day goes on. -/
theorem onBar_day : (engine.onBar dt opened high low close).curDayDate =
    if countsDay engine.config dt.date then some dt.date else engine.curDayDate := by
  unfold onBar
  by_cases excluded : engine.config.excludeWeekends = true ∧ isWeekend dt.date = true
  · rw [if_pos excluded, if_neg fun counts : countsDay engine.config dt.date => counts excluded]
  · have counts : countsDay engine.config dt.date := excluded
    rw [if_neg excluded, if_pos counts]
    cases current : engine.curDayDate with
    | none => rfl
    | some day =>
        dsimp only [updateCurDay]
        split
        case isTrue => rfl
        case isFalse same => rw [current, not_not.1 same]

theorem onBar_wasEntered (side : Side) : (engine.onBar dt opened high low close).wasEntered side =
    if countsDay engine.config dt.date ∧ engine.curDayDate ≠ some dt.date then false else engine.wasEntered side := by
  unfold onBar
  by_cases excluded : engine.config.excludeWeekends = true ∧ isWeekend dt.date = true
  · rw [if_pos excluded, if_neg fun opens => opens.1 excluded]
  · have counts : countsDay engine.config dt.date := excluded
    rw [if_neg excluded]
    cases current : engine.curDayDate with
    | none =>
        rw [if_pos ⟨counts, fun same => nomatch same⟩]
        cases side <;> rfl
    | some day =>
        dsimp only [updateCurDay]
        by_cases same : dt.date = day
        · rw [if_neg (not_not.2 same), if_neg (fun other => other.2 (congrArg some same.symm))]
          cases side <;> rfl
        · rw [if_pos same, if_pos ⟨counts, fun equal => same (Option.some.inj equal).symm⟩]
          cases side <;> rfl

end IntradayBreakoutEngine

namespace HybridIntradayRuntimeStrategy

open LocalBar

variable {Value : Type} [F64 Value]

/-- One bar of the history: the strategy that learns, and the number of bars it has learnt from. -/
def warmUpBar (state : HybridIntradayRuntimeStrategy Value × Nat) (bar : BarEvent Value) :
    HybridIntradayRuntimeStrategy Value × Nat :=
  let (warmup, processed) := state
  if bar.symbol ≠ warmup.config.symbol then state
  else
    match warmup.utcToLocalNaive bar.closeTimeUtc with
    | none => state
    | some dt =>
        if warmup.suppressWeekendSignalGeneration dt ∨ warmup.suppressNonModelSessionBar dt then
          ({ warmup with lastProcessedBarTs := some bar.closeTimeUtc }, processed)
        else
          let aggregated := warmup.updateDayAggregates dt bar.h bar.l
          let warmed :=
            if aggregated.usesHigh180Mr then
              { aggregated with
                high180Mr := aggregated.high180Mr.onBar dt bar.h bar.l
                riskGateShadowMr := aggregated.riskGateShadowMr.onBar dt bar.h bar.l }
            else aggregated
          ({ warmed with
              orchestrator := { warmed.orchestrator with
                intradayBreakout := warmed.orchestrator.intradayBreakout.onBar dt bar.o bar.h bar.l bar.close }
              lastBarClose := some bar.close
              lastProcessedBarTs := some bar.closeTimeUtc }, processed + 1)

def warmupFromHistory (strategy : HybridIntradayRuntimeStrategy Value) (bars : List (BarEvent Value)) :
    HybridIntradayRuntimeStrategy Value × Nat :=
  let (warmup, processed) := bars.foldl warmUpBar (new strategy.config, 0)
  if processed = 0 then (strategy, 0)
  else
    let breakout := warmup.orchestrator.intradayBreakout.snapshot
    let warmed := { strategy with
      lastBarClose := warmup.lastBarClose
      prevDayClose := warmup.prevDayClose
      lastDayLocal := warmup.lastDayLocal
      currentDayHigh := warmup.currentDayHigh
      currentDayLow := warmup.currentDayLow
      prevDayRange := warmup.prevDayRange
      high180Mr := warmup.high180Mr
      riskGateShadowMr := warmup.riskGateShadowMr
      orchestrator := { strategy.orchestrator with
        intradayBreakout := strategy.orchestrator.intradayBreakout.restoreSnapshot breakout } }
    ({ warmed with entryReady := warmed.signalsWarmed }, processed)

section History

variable (config : HybridIntradayRuntimeConfig Value)

def historyBar (bar : BarEvent Value) : Option (LocalBar Value) :=
  if bar.symbol ≠ config.symbol then none else (new config).sessionBar bar

def breakoutDayBehind (bars : List (BarEvent Value)) : Option NaiveDate :=
  ((bars.filterMap (historyBar config)).filter fun row =>
    IntradayBreakoutEngine.countsDay config.breakoutConfig row.date).getLast?.map (·.date)

/-- Behind a history: the bars learnt from are counted, the breakout is on the day of the last bar that
counts for it, and it has entered neither side. -/
structure WarmedBy (bars : List (BarEvent Value)) (state : HybridIntradayRuntimeStrategy Value × Nat) : Prop where
  sameConfig : state.1.config = config
  counted : state.2 = (bars.filterMap (historyBar config)).length
  engineConfig : state.1.orchestrator.intradayBreakout.config = config.breakoutConfig
  onDay : state.1.orchestrator.intradayBreakout.curDayDate = breakoutDayBehind config bars
  unentered : ∀ side, state.1.orchestrator.intradayBreakout.wasEntered side = false

variable {config}

theorem breakoutDayBehind_concat_none {bars : List (BarEvent Value)} {bar : BarEvent Value}
    (idle : historyBar config bar = none) : breakoutDayBehind config (bars ++ [bar]) = breakoutDayBehind config bars := by
  unfold breakoutDayBehind
  rw [List.filterMap_append, List.filterMap_cons_none idle, List.filterMap_nil, List.append_nil]

theorem breakoutDayBehind_concat_some {bars : List (BarEvent Value)} {bar : BarEvent Value} {row : LocalBar Value}
    (learnt : historyBar config bar = some row) :
    breakoutDayBehind config (bars ++ [bar]) =
      if IntradayBreakoutEngine.countsDay config.breakoutConfig row.date then some row.date
      else breakoutDayBehind config bars := by
  unfold breakoutDayBehind
  rw [List.filterMap_append, List.filterMap_cons_some learnt, List.filterMap_nil, List.filter_append, List.filter_singleton]
  split
  case isTrue counts =>
    rw [decide_eq_true counts, cond_true, List.getLast?_concat]
    rfl
  case isFalse counts => rw [decide_eq_false counts, cond_false, List.append_nil]

theorem WarmedBy.step {bars : List (BarEvent Value)} {bar : BarEvent Value}
    {state : HybridIntradayRuntimeStrategy Value × Nat} (warmed : WarmedBy config bars state) :
    WarmedBy config (bars ++ [bar]) (warmUpBar state bar) := by
  obtain ⟨warmup, processed⟩ := state
  obtain ⟨sameConfig, counted, engineConfig, onDay, unentered⟩ := warmed
  dsimp only at sameConfig counted engineConfig onDay unentered
  have localTimes : ∀ ts, (new config).utcToLocalNaive ts = warmup.utcToLocalNaive ts :=
    utcToLocalNaive_congr sameConfig.symm
  have passedOver (idle : historyBar config bar = none) (last : Option Int) :
      WarmedBy config (bars ++ [bar]) ({ warmup with lastProcessedBarTs := last }, processed) := by
    refine ⟨sameConfig, ?_, engineConfig, ?_, unentered⟩
    · rw [List.filterMap_append, List.filterMap_cons_none idle, List.filterMap_nil, List.append_nil]
      exact counted
    · rw [breakoutDayBehind_concat_none idle]
      exact onDay
  unfold warmUpBar
  dsimp only
  split
  case isTrue other =>
    refine passedOver ?_ warmup.lastProcessedBarTs
    exact if_pos (sameConfig ▸ other)
  case isFalse ours =>
    have known : historyBar config bar = (new config).sessionBar bar := if_neg (sameConfig ▸ ours)
    split
    case h_1 noTime =>
      refine passedOver ?_ warmup.lastProcessedBarTs
      rw [known, sessionBar, localTimes, noTime]
      rfl
    case h_2 dt localTime =>
      split
      case isTrue suppressed =>
        refine passedOver ?_ (some bar.closeTimeUtc)
        rw [known, sessionBar, localTimes, localTime]
        subst sameConfig
        exact if_pos suppressed
      case isFalse kept =>
        have learnt : historyBar config bar = some { dt := dt, bar := bar } := by
          rw [known, sessionBar, localTimes, localTime]
          subst sameConfig
          exact if_neg kept
        have aggregatedConfig : (warmup.updateDayAggregates dt bar.h bar.l).config = warmup.config :=
          updateDayAggregates_read (·.config) (fun _ _ _ _ _ _ _ => rfl) dt bar.h bar.l
        have aggregatedEngine : (warmup.updateDayAggregates dt bar.h bar.l).orchestrator = warmup.orchestrator :=
          updateDayAggregates_read (·.orchestrator) (fun _ _ _ _ _ _ _ => rfl) dt bar.h bar.l
        generalize warmup.updateDayAggregates dt bar.h bar.l = aggregated at aggregatedConfig aggregatedEngine ⊢
        have warmedEngine : ∀ choice : Bool, (if choice then { aggregated with
            high180Mr := aggregated.high180Mr.onBar dt bar.h bar.l
            riskGateShadowMr := aggregated.riskGateShadowMr.onBar dt bar.h bar.l } else aggregated).orchestrator =
              warmup.orchestrator := by
          intro choice
          cases choice <;> exact aggregatedEngine
        have warmedConfig : ∀ choice : Bool, (if choice then { aggregated with
            high180Mr := aggregated.high180Mr.onBar dt bar.h bar.l
            riskGateShadowMr := aggregated.riskGateShadowMr.onBar dt bar.h bar.l } else aggregated).config =
              warmup.config := by
          intro choice
          cases choice <;> exact aggregatedConfig
        refine ⟨(warmedConfig _).trans sameConfig, ?_, ?_, ?_, ?_⟩
        · rw [List.filterMap_append, List.filterMap_cons_some learnt, List.filterMap_nil, List.length_append, ← counted]
          rfl
        · dsimp only
          rw [IntradayBreakoutEngine.onBar_config, warmedEngine]
          exact engineConfig
        · dsimp only
          rw [IntradayBreakoutEngine.onBar_day, warmedEngine, engineConfig, breakoutDayBehind_concat_some learnt, onDay]
          rfl
        · intro side
          dsimp only
          rw [IntradayBreakoutEngine.onBar_wasEntered, warmedEngine, unentered side, ite_self]

theorem warmedBy_foldl (bars : List (BarEvent Value)) : WarmedBy config bars (bars.foldl warmUpBar (new config, 0)) := by
  induction bars using List.reverseRecOn with
  | nil =>
      refine ⟨rfl, rfl, rfl, rfl, ?_⟩
      intro side
      cases side <;> rfl
  | append_singleton bars bar ih =>
      rw [List.foldl_concat]
      exact ih.step

end History

end HybridIntradayRuntimeStrategy

end TradingGateway.HybridIntraday
