import TradingGateway.HybridIntraday.ExitOrderRuns

/-! Where a position of the breakout is carried past the end of its day, the next bar closes it. -/

set_option autoImplicit false

namespace TradingGateway.HybridIntraday

open BrokerCore.Identifiers BrokerCore.Orders Foundation.MachineNumbers
open HybridIntradayRuntimeStrategy

section Actions

variable {Value : Type}

def Action.OpensNothing : Action Value → Prop
  | .submitEntry _ => False
  | _ => True

variable {orchestrator : HybridOrchestrator Value}

theorem onBreakoutExit_opensNothing (bar : BarInput Value) (reason : ReasonCode) :
    ∀ action ∈ (orchestrator.onBreakoutExit bar reason).2, action.OpensNothing := by
  intro action member
  unfold HybridOrchestrator.onBreakoutExit at member
  split at member
  case isTrue =>
    cases List.mem_singleton.1 member
    trivial
  case isFalse =>
    cases List.mem_singleton.1 member
    trivial

variable [F64 Value]

theorem onBarEntry_opensNothing {bar : BarInput Value} (opened : bar.hasOpenPosition = true)
    (mrEntrySignal : Option (EntrySignal Value)) : (orchestrator.onBarEntry bar mrEntrySignal).2 = [] := by
  unfold HybridOrchestrator.onBarEntry
  rw [if_pos (.inl opened)]

theorem onBarWithMrOverride_opensNothing {bar : BarInput Value} (opened : bar.hasOpenPosition = true)
    (mrEntrySignal : Option (EntrySignal Value)) (mrExitReason : Option ReasonCode) :
    ∀ action ∈ (orchestrator.onBarWithMrOverride bar mrEntrySignal mrExitReason).2, action.OpensNothing := by
  have idle : ∀ warmed : HybridOrchestrator Value,
      ∀ action ∈ (warmed.onBarEntry bar mrEntrySignal).2, action.OpensNothing := by
    intro warmed action member
    rw [onBarEntry_opensNothing opened] at member
    cases member
  unfold HybridOrchestrator.onBarWithMrOverride
  dsimp only
  split
  case isTrue =>
    intro action member
    cases List.mem_singleton.1 member
    trivial
  case isFalse =>
    split
    case isTrue =>
      cases mrExitReason with
      | none =>
          intro action member
          cases member
      | some reason =>
          intro action member
          cases List.mem_singleton.1 member
          trivial
    case isFalse =>
      split
      case isTrue =>
        split
        case h_1 => exact onBreakoutExit_opensNothing bar _
        case h_2 => exact idle _
      case isFalse => exact idle _

theorem orchestratorActions_opensNothing {strategy : HybridIntradayRuntimeStrategy Value} (dt : NaiveDateTime)
    (bar : BarEvent Value) (closePrev dayRangePrev : Value) {input : BarInput Value}
    (opened : input.hasOpenPosition = true) :
    ∀ action ∈ (strategy.orchestratorActions dt bar closePrev dayRangePrev input).2, action.OpensNothing := by
  unfold orchestratorActions
  split
  case isTrue => exact onBarWithMrOverride_opensNothing opened _ _
  case isFalse =>
    split
    case isTrue => exact onBarWithMrOverride_opensNothing opened _ _
    case isFalse => exact onBarWithMrOverride_opensNothing opened _ _

end Actions

section Guard

variable {Value : Type} {strategy : HybridIntradayRuntimeStrategy Value}

theorem guard_opensNothing {actions : List (Action Value)} (dt : NaiveDateTime) (previousDayLocal : Option NaiveDate)
    (hasOpenPosition : Bool) (nothing : ∀ action ∈ actions, action.OpensNothing) :
    ∀ action ∈ strategy.appendBreakoutNoOvernightGuard actions dt previousDayLocal hasOpenPosition,
      action.OpensNothing := by
  unfold appendBreakoutNoOvernightGuard
  split
  case isTrue => exact nothing
  case isFalse =>
    split
    case isTrue => exact nothing
    case isFalse =>
      intro action member
      rcases List.mem_append.1 member with before | added
      · exact nothing action before
      · cases List.mem_singleton.1 added
        trivial

/-- The bar lies behind the end of the day that the active cycle belongs to, or at 23:30 or later. -/
def PastDay (strategy : HybridIntradayRuntimeStrategy Value) (dt : NaiveDateTime) : Prop :=
  breakoutEodTime.secondOfDay ≤ dt.time.secondOfDay ∨
    ∃ day ∈ strategy.activeCycleLocalDay, day.day < dt.date.day

instance (strategy : HybridIntradayRuntimeStrategy Value) (dt : NaiveDateTime) : Decidable (PastDay strategy dt) :=
  inferInstanceAs (Decidable (_ ∨ _))

theorem carriesBreakout_of_pastDay {dt : NaiveDateTime} (past : PastDay strategy dt)
    (previousDayLocal : Option NaiveDate) : strategy.carriesBreakout dt previousDayLocal = true := by
  refine decide_eq_true ?_
  rcases past with late | ⟨day, cycleDay, earlier⟩
  · exact .inr late
  · refine .inl ⟨day, ?_, earlier⟩
    have kept : (some day).filter (fun day => decide (day.day ≤ dt.date.day)) = some day :=
      Option.filter_some_pos (decide_eq_true (le_of_lt earlier))
    dsimp only
    rw [Option.mem_def.1 cycleDay, kept]
    rfl

/-- Past its day, a position of the breakout that no exit waits for is to be closed: by the
orchestrator, or else by the guard. -/
theorem guard_asksExit {dt : NaiveDateTime} (past : PastDay strategy dt)
    (owned : strategy.currentOwner = some .intradayBreakout)
    (sameDay : strategy.config.orchestratorConfig.breakoutEodMode = .sameDay)
    (notPending : strategy.pendingExitRequestId = none) (notDeferred : strategy.deferredExit = none)
    (actions : List (Action Value)) (previousDayLocal : Option NaiveDate) :
    ∃ action ∈ strategy.appendBreakoutNoOvernightGuard actions dt previousDayLocal true, action.IsExit := by
  unfold appendBreakoutNoOvernightGuard
  by_cases asked : hasBreakoutExitAction actions = true
  · rw [if_pos (.inr (.inr (.inr (.inr (.inr asked)))))]
    obtain ⟨action, member, breakout⟩ := List.any_eq_true.1 asked
    refine ⟨action, member, ?_⟩
    cases action with
    | submitExit owner reason => trivial
    | submitEntry entry => cases breakout
    | armOvernightExit owner reason armedDate exitTime => cases breakout
  · rw [if_neg, if_neg]
    · exact ⟨_, List.mem_append_right actions List.mem_cons_self, trivial⟩
    · rw [carriesBreakout_of_pastDay past]
      exact Bool.noConfusion
    · rw [notPending, notDeferred]
      simp [owned, sameDay, asked]

end Guard

section Closing

variable {Value : Type} [F64 Value] {ids : RequestIds} {strategy : HybridIntradayRuntimeStrategy Value}
  {ctx : StrategyCtx Value} {qty : Value}

/-- One exit, and nothing else: an order for the whole position, on the side that closes it. -/
def ClosesPosition (qty : Value) (intents : List (Intent Value)) : Prop :=
  ∃ order : Intent Value, intents = [order.withClass .exit] ∧
    ((∃ price comment, order = .place price (F64.abs qty) (closingSide qty) comment) ∨
      ∃ comment, order = .market (F64.abs qty) (closingSide qty) none comment)

theorem exitIntent_closes (strategy : HybridIntradayRuntimeStrategy Value) (ctx : StrategyCtx Value)
    (qty referencePrice : Value) (comment : String) :
    ClosesPosition qty [strategy.exitIntent ctx (closingSide qty) (F64.abs qty) referencePrice comment] := by
  refine ⟨_, rfl, ?_⟩
  unfold buildLiveEntryExitIntent
  split
  case isTrue => exact .inl ⟨_, _, rfl⟩
  case isFalse => exact .inr ⟨_, rfl⟩

/-- An exit that nothing stands in the way of is sent, and is then pending. -/
theorem submitExit_closes (held : ctx.positionQty = some qty) (notFlat : ¬ IsFlat qty)
    (notPending : strategy.pendingExitRequestId = none) (createdTsUtc : Int) (referencePrice : Value) (owner : Owner)
    (reason : ReasonCode) :
    ClosesPosition qty (strategy.submitExit ids ctx createdTsUtc true true referencePrice owner reason).2 ∧
      (strategy.submitExit ids ctx createdTsUtc true true referencePrice owner reason).1.pendingExitRequestId.isSome =
        true := by
  unfold submitExit
  rw [if_neg]
  · rw [held]
    dsimp only
    rw [if_neg notFlat]
    exact ⟨exitIntent_closes _ ctx qty referencePrice _, rfl⟩
  · rw [notPending]
    simp

theorem mapActions_idle (createdTsUtc : Int) (canEmit canExecute : Bool) (actions : List (Action Value))
    (nothing : ∀ action ∈ actions, action.OpensNothing)
    (pending : strategy.pendingExitRequestId.isSome = true) :
    mapActions ids ctx createdTsUtc canEmit canExecute strategy actions = (strategy, []) := by
  induction actions with
  | nil => rfl
  | cons action rest ih =>
      have idle : strategy.mapActionToIntentsWithReference ids ctx createdTsUtc canEmit canExecute
          strategy.liveReferencePrice action = (strategy, []) := by
        cases action with
        | submitEntry entry => exact absurd (nothing _ List.mem_cons_self) id
        | submitExit owner reason => exact if_pos (.inr pending)
        | armOvernightExit owner reason armedDate exitTime => rfl
      unfold mapActions
      rw [idle]
      dsimp only
      rw [ih fun other member => nothing other (List.mem_cons_of_mem _ member)]
      rfl

/-- Of actions that open nothing, the first exit closes the position, and the others wait for it. -/
theorem mapActions_closes (held : ctx.positionQty = some qty) (notFlat : ¬ IsFlat qty) (createdTsUtc : Int)
    (actions : List (Action Value)) (nothing : ∀ action ∈ actions, action.OpensNothing)
    (asks : ∃ action ∈ actions, action.IsExit) (notPending : strategy.pendingExitRequestId = none) :
    ClosesPosition qty (mapActions ids ctx createdTsUtc true true strategy actions).2 := by
  induction actions with
  | nil =>
      obtain ⟨action, member, -⟩ := asks
      cases member
  | cons action rest ih =>
      have others : ∀ other ∈ rest, other.OpensNothing :=
        fun other member => nothing other (List.mem_cons_of_mem _ member)
      unfold mapActions
      dsimp only
      cases action with
      | submitEntry entry => exact absurd (nothing _ List.mem_cons_self) id
      | submitExit owner reason =>
          obtain ⟨closes, pending⟩ := @submitExit_closes Value _ ids strategy ctx qty held notFlat notPending
            createdTsUtc strategy.liveReferencePrice owner reason
          have idle := @mapActions_idle Value _ ids _ ctx createdTsUtc true true rest others pending
          unfold mapActionToIntentsWithReference
          rw [idle, List.append_nil]
          exact closes
      | armOvernightExit owner reason armedDate exitTime =>
          obtain ⟨asked, member, isExit⟩ := asks
          refine ih others ⟨asked, ?_, isExit⟩
          rcases List.mem_cons.1 member with rfl | later
          · exact absurd isExit id
          · exact later

end Closing

section Bars

variable {Value : Type} [F64 Value] {ids : RequestIds} {strategy : HybridIntradayRuntimeStrategy Value}
  {ctx : StrategyCtx Value} {bar : BarEvent Value} {qty : Value} {dt : NaiveDateTime}

/-- The breakout owns the position, may not keep it over night, and no exit is pending. -/
def OwedExit (strategy : HybridIntradayRuntimeStrategy Value) : Prop :=
  strategy.currentOwner = some .intradayBreakout ∧
    strategy.config.orchestratorConfig.breakoutEodMode = .sameDay ∧ strategy.pendingExitRequestId = none

omit [F64 Value] in
theorem canEmitNow_of_canExecuteNow {isLiveBar : Bool} (executes : ctx.canExecuteNow isLiveBar = true) :
    ctx.canEmitNow isLiveBar = true := by
  unfold StrategyCtx.canEmitNow
  cases ctx.tradeMode with
  | live => exact executes
  | paper => rfl
  | backtest => rfl

theorem actOnBar_closes (held : ctx.positionQty = some qty) (notFlat : ¬ IsFlat qty) (owed : OwedExit strategy)
    (past : PastDay strategy dt) (notDeferred : strategy.deferredExit = none)
    (executes : ctx.canExecuteNow (decide (bar.origin = .live)) = true) (closePrev dayRangePrev : Value)
    (previousDayLocal : Option NaiveDate) {input : BarInput Value} (opened : input.hasOpenPosition = true) :
    ClosesPosition qty (strategy.actOnBar ids ctx dt bar closePrev dayRangePrev previousDayLocal input).2 := by
  obtain ⟨owned, sameDay, notPending⟩ := owed
  have nothing := @orchestratorActions_opensNothing Value _ strategy dt bar closePrev dayRangePrev input opened
  unfold actOnBar
  dsimp only
  generalize strategy.orchestratorActions dt bar closePrev dayRangePrev input = answer at nothing ⊢
  obtain ⟨orchestrator, actions⟩ := answer
  dsimp only at nothing ⊢
  have repairsNothing : ({ strategy with orchestrator := orchestrator } :
      HybridIntradayRuntimeStrategy Value).maybeEmitRepairIntents ids ctx
        (ctx.effectiveCreatedTsUtc bar.closeTimeUtc) =
      ({ strategy with orchestrator := orchestrator, slTriggeredTs := none }, []) := by
    refine if_pos (.inr ?_)
    rw [owned]
    decide
  rw [repairsNothing, opened, executes, canEmitNow_of_canExecuteNow executes]
  have guardedNothing := @guard_opensNothing Value { strategy with orchestrator := orchestrator } actions dt
    previousDayLocal true nothing
  have asks := @guard_asksExit Value { strategy with orchestrator := orchestrator } dt past owned sameDay notPending
    notDeferred actions previousDayLocal
  exact mapActions_closes held notFlat _ _ guardedNothing asks notPending

/-- An entry that was deferred is dropped where a position is open. -/
theorem onBarAfterExit_closes (held : ctx.positionQty = some qty) (open_ : IsOpen qty) (notFlat : ¬ IsFlat qty)
    (owed : OwedExit strategy) (past : PastDay strategy dt) (notDeferred : strategy.deferredExit = none)
    (executes : ctx.canExecuteNow (decide (bar.origin = .live)) = true) (closePrev dayRangePrev : Value)
    (previousDayLocal : Option NaiveDate) (referencePrice : Value) {input : BarInput Value}
    (opened : input.hasOpenPosition = true) :
    ClosesPosition qty
      (strategy.onBarAfterExit ids ctx dt bar closePrev dayRangePrev previousDayLocal referencePrice input).2 := by
  unfold onBarAfterExit
  cases strategy.deferredEntry with
  | none => exact actOnBar_closes held notFlat owed past notDeferred executes _ _ _ opened
  | some deferred =>
      have dropped : (strategy.warmBar input).maybeReissueDeferredEntry ids ctx
          (ctx.effectiveCreatedTsUtc bar.closeTimeUtc) dt (ctx.canEmitNow (decide (bar.origin = .live)))
          (ctx.canExecuteNow (decide (bar.origin = .live))) referencePrice deferred =
          ({ strategy.warmBar input with deferredEntry := none }, none) := by
        refine if_pos (.inl ?_)
        rw [held]
        exact open_
      dsimp only
      rw [dropped]
      exact @actOnBar_closes Value _ ids { strategy.warmBar input with deferredEntry := none } ctx bar qty dt held
        notFlat owed past notDeferred executes _ _ _ input opened

/-- A deferred exit closes the position by itself. -/
theorem processBar_closes (held : ctx.positionQty = some qty) (open_ : IsOpen qty) (notFlat : ¬ IsFlat qty)
    (owed : OwedExit strategy) (past : PastDay strategy dt)
    (executes : ctx.canExecuteNow (decide (bar.origin = .live)) = true) (closePrev dayRangePrev : Value)
    (previousDayLocal : Option NaiveDate) :
    ClosesPosition qty (strategy.processBar ids ctx dt bar closePrev dayRangePrev previousDayLocal true).2 := by
  unfold processBar
  dsimp only
  cases exit : strategy.deferredExit with
  | none => exact onBarAfterExit_closes held open_ notFlat owed past exit executes _ _ _ _ rfl
  | some deferred =>
      have closes := @submitExit_closes Value _ ids
        { strategy.warmBar (strategy.barInput dt bar closePrev dayRangePrev true) with
          activeCycleId := some deferred.cycleId
          currentOwner := some deferred.owner } ctx qty held notFlat owed.2.2
        (ctx.effectiveCreatedTsUtc bar.closeTimeUtc) strategy.liveReferencePrice deferred.owner deferred.reason
      dsimp only
      unfold maybeReissueDeferredExit
      rw [if_neg, if_neg, executes, canEmitNow_of_canExecuteNow executes]
      · exact closes.1
      · have notPending : (strategy.warmBar (strategy.barInput dt bar closePrev dayRangePrev
            true)).pendingExitRequestId = none := owed.2.2
        rw [executes, canEmitNow_of_canExecuteNow executes, notPending]
        simp
      · rw [held]
        exact notFlat

end Bars

section Accepted

variable {Value : Type} [F64 Value] {strategy : HybridIntradayRuntimeStrategy Value} {ctx : StrategyCtx Value}
  {bar : BarEvent Value} {dt : NaiveDateTime}

theorem onBar_of_accepts (ids : RequestIds) (accepts : strategy.AcceptsBar bar dt)
    (current : strategy.startupReplayBoundary ctx bar = none) :
    strategy.onBar ids ctx bar =
      (strategy.stateForBar ctx dt bar).processBar ids ctx dt bar
        ((strategy.learnFromBar dt bar).prevDayClose.getD bar.close)
        ((strategy.learnFromBar dt bar).prevDayRange.getD F64.zero) strategy.lastDayLocal
        (decide (IsOpen (ctx.positionQty.getD F64.zero))) := by
  obtain ⟨sameSymbol, newer, localTime, weekday, inSession⟩ := accepts
  have boundary := strategy.learnFromBar_startupReplayBoundary dt ctx bar
  rw [current] at boundary
  unfold onBar
  rw [if_neg, localTime]
  · dsimp only
    rw [if_neg, boundary]
    · rfl
    · rw [weekday, inSession]
      decide
  · rintro (other | ⟨lastTs, last, late⟩)
    · exact other sameSymbol
    · exact absurd (newer lastTs last) (not_lt.2 late)

end Accepted

/-- A position of the breakout does not outlive its day: the bar behind it returns one exit, and
nothing else, for all of it. -/
theorem carried_breakout_closes {Value : Type} [F64 Value] (ids : RequestIds)
    (strategy : HybridIntradayRuntimeStrategy Value) (ctx : StrategyCtx Value) (bar : BarEvent Value)
    (dt : NaiveDateTime) (qty : Value) (accepts : strategy.AcceptsBar bar dt)
    (current : strategy.startupReplayBoundary ctx bar = none)
    (executes : ctx.canExecuteNow (decide (bar.origin = .live)) = true) (owed : OwedExit strategy)
    (held : ctx.positionQty = some qty) (number : IsNumber qty) (open_ : IsOpen qty) (past : PastDay strategy dt) :
    ClosesPosition qty (strategy.returned ids (.bar ctx bar)) := by
  unfold returned call
  dsimp only
  rw [onBar_of_accepts ids accepts current]
  have opened : IsOpen (ctx.positionQty.getD F64.zero) := by
    rw [held]
    exact open_
  have untouched : strategy.clearStalePendingTail bar.closeTimeUtc (ctx.positionQty.getD F64.zero) = strategy :=
    if_pos (.inl opened)
  have same := strategy.stateForBar_tradeState ctx dt bar
  rw [untouched] at same
  have owedThen : OwedExit (strategy.stateForBar ctx dt bar) := (congrArg OwedExit same).mpr owed
  have pastThen : PastDay (strategy.stateForBar ctx dt bar) dt :=
    (congrArg (fun state => PastDay state dt) same).mpr past
  rw [decide_eq_true opened]
  exact processBar_closes held open_ (number.1 open_) owedThen pastThen executes _ _ _

/-- A start behind an entry of the breakout, from Monday the 5th of January 2026 at 13:00. -/
def heldBreakout (qty : Float) : List (Callback Float) :=
  [.bootstrapSnapshot (sampleCtx .live none 1767607200)
    { positionsStrategy := [("IMOEXF", positionEvent qty 1767607200)]
      workingOrdersStrategy :=
        [(sampleOrderId,
          { orderId := sampleOrderId
            symbol := "IMOEXF"
            status := "working"
            comment := some "HYB|sid=hyb-test|c=695b8ba001|o=BO|r=ENTRY" })]
      workingStopOrdersStrategy := [] }]

/-- No bar of Monday evening arrives: the first one of Tuesday closes the position. -/
theorem carried_breakout_closes_tuesday :
    let strategy := (heldBreakout 1).foldl (after sampleIds) (new (sampleConfig Float))
    ClosesPosition 1 (strategy.returned sampleIds
      (.bar (sampleCtx .live (some 1) 1767682800) (flatBar 100 1767682800))) := by
  refine carried_breakout_closes sampleIds _ _ _ ⟨1767693600⟩ 1 ?_ ?_ ?_ ?_ rfl ?_ ?_ ?_
  · refine ⟨by decide, ?_, by decide, by decide, by decide⟩
    intro lastTs last
    cases last
  · decide
  · decide
  · exact ⟨by decide, by decide, by decide⟩
  · decide
  · decide
  · decide

/-- A position smaller than the spacing of numbers at one counts as none, and is left alone. -/
theorem dust_is_carried :
    ¬ ∀ (config : HybridIntradayRuntimeConfig Float) (callbacks : List (Callback Float)) (ctx : StrategyCtx Float)
      (bar : BarEvent Float) (dt : NaiveDateTime) (qty : Float),
      let strategy := callbacks.foldl (after sampleIds) (new config)
      strategy.AcceptsBar bar dt → strategy.startupReplayBoundary ctx bar = none →
        ctx.canExecuteNow (decide (bar.origin = .live)) = true → OwedExit strategy → ctx.positionQty = some qty →
        F64.equal qty strategy.lastPositionQty = true → F64.equal qty F64.zero = false → PastDay strategy dt →
        exitCount (strategy.returned sampleIds (.bar ctx bar)) = 1 := by
  intro all
  have closed := all (sampleConfig Float) (heldBreakout 1e-17) (sampleCtx .live (some 1e-17) 1767682800)
    (flatBar 100 1767682800) ⟨1767693600⟩ 1e-17
    (by
      refine ⟨by decide, ?_, by decide, by decide, by decide⟩
      intro lastTs last
      cases last)
    (by decide) (by decide) ⟨by decide, by decide, by decide⟩ rfl
    (by decide) (by decide) (by decide)
  have left : exitCount (((heldBreakout 1e-17).foldl (after sampleIds) (new (sampleConfig Float))).returned sampleIds
      (.bar (sampleCtx .live (some 1e-17) 1767682800) (flatBar 100 1767682800))) = 0 := by
    decide
  rw [left] at closed
  cases closed

end TradingGateway.HybridIntraday
