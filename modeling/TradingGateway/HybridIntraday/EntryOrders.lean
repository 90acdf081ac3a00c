import TradingGateway.HybridIntraday.EntryTracking

/-! Entries: how many a callback returns, and from which state. -/

set_option autoImplicit false

namespace TradingGateway.HybridIntraday

open BrokerCore.Orders Foundation.MachineNumbers Foundation.Runs
open HybridIntradayRuntimeStrategy

section Idle

variable {Value : Type} {strategy : HybridIntradayRuntimeStrategy Value}

def IsIdle (strategy : HybridIntradayRuntimeStrategy Value) : Prop :=
  strategy.pendingEntry.isNone = true ∧ strategy.pendingEntryRequestId.isNone = true ∧
    strategy.pendingExitRequestId.isNone = true ∧ strategy.workingOrders = [] ∧ strategy.workingStopOrders = []

theorem isIdle_of_noLiveOrders (none : strategy.hasLiveOrders = false) : IsIdle strategy := by
  unfold hasLiveOrders at none
  simp only [Bool.or_eq_false_iff, Bool.not_eq_false', List.isEmpty_iff] at none
  obtain ⟨⟨⟨⟨⟨⟨entry, request⟩, exit⟩, -⟩, -⟩, orders⟩, stopOrders⟩ := none
  refine ⟨?_, ?_, ?_, orders, stopOrders⟩
  · rw [← Option.not_isSome, entry]
    rfl
  · rw [← Option.not_isSome, request]
    rfl
  · rw [← Option.not_isSome, exit]
    rfl

end Idle

section Emission

variable {Value : Type} [F64 Value] {strategy : HybridIntradayRuntimeStrategy Value} {ctx : StrategyCtx Value}
  {ids : RequestIds}

/-- One entry at most is submitted, and none unless the strategy is ready and not in safe mode. -/
theorem submitEntry_entryCount (createdTsUtc : Int) (canEmit canExecute : Bool) (referencePrice : Value)
    (entry : EntrySignal Value) :
    entryCount (strategy.submitEntry ids ctx createdTsUtc canEmit canExecute referencePrice entry).2 =
      if strategy.entryReady = true ∧ strategy.safeModeCloseOnly = false ∧ canEmit = true then 1 else 0 := by
  unfold submitEntry
  cases strategy.entryReady <;> cases strategy.safeModeCloseOnly <;> cases canEmit <;> simp

theorem mapActions_noEntry (createdTsUtc : Int) (canEmit canExecute : Bool) {actions : List (Action Value)}
    (noEntry : ∀ signal, Action.submitEntry signal ∉ actions) :
    entryCount (mapActions ids ctx createdTsUtc canEmit canExecute strategy actions).2 = 0 :=
  (mapActions_spares _ _ _ noEntry).1

theorem mapActions_entryCount (createdTsUtc : Int) (canEmit canExecute : Bool) (signal : EntrySignal Value)
    {exits : List (Action Value)} (noEntry : ∀ other, Action.submitEntry other ∉ exits) :
    entryCount (mapActions ids ctx createdTsUtc canEmit canExecute strategy (.submitEntry signal :: exits)).2 =
      if strategy.entryReady = true ∧ strategy.safeModeCloseOnly = false ∧ canEmit = true then 1 else 0 := by
  unfold mapActions
  dsimp only
  rw [← @submitEntry_entryCount Value _ strategy ctx ids createdTsUtc canEmit canExecute strategy.liveReferencePrice
    signal]
  have none := @mapActions_noEntry Value _ (strategy.submitEntry ids ctx createdTsUtc canEmit canExecute
    strategy.liveReferencePrice signal).1 ctx ids createdTsUtc canEmit canExecute exits noEntry
  rw [entryCount_append]
  exact congrArg (_ + ·) none

structure EntryPermitted (strategy : HybridIntradayRuntimeStrategy Value) : Prop where
  flat : IsFlat strategy.lastPositionQty
  ready : strategy.entryReady = true
  notSafeMode : strategy.safeModeCloseOnly = false
  noPendingEntry : strategy.pendingEntry.isNone = true
  noPendingEntryRequest : strategy.pendingEntryRequestId.isNone = true
  noPendingExit : strategy.pendingExitRequestId.isNone = true
  noWorkingOrders : strategy.workingOrders = []
  noWorkingStopOrders : strategy.workingStopOrders = []

/-- Intents with one entry at most, and with none unless the state is ready, idle and not in safe
mode, and the context has no position. -/
def EntersFrom (strategy : HybridIntradayRuntimeStrategy Value) (ctx : StrategyCtx Value) (intents : List (Intent Value)) :
    Prop :=
  entryCount intents ≤ 1 ∧
    (entryCount intents ≠ 0 → ¬ IsOpen (ctx.positionQty.getD F64.zero) ∧ strategy.entryReady = true ∧
      strategy.safeModeCloseOnly = false ∧ IsIdle strategy)

theorem entersFrom_none {intents : List (Intent Value)} (none : entryCount intents = 0) :
    EntersFrom strategy ctx intents :=
  ⟨le_of_eq_of_le none (Nat.zero_le 1), fun some => absurd none some⟩

theorem actOnBar_enters {dt : NaiveDateTime} {bar : BarEvent Value} {closePrev dayRangePrev : Value}
    {previousDayLocal : Option NaiveDate} {input : BarInput Value}
    (position : input.hasOpenPosition = decide (IsOpen (ctx.positionQty.getD F64.zero)))
    (live : input.hasLiveOrders = strategy.hasLiveOrders) :
    EntersFrom strategy ctx (strategy.actOnBar ids ctx dt bar closePrev dayRangePrev previousDayLocal input).2 := by
  unfold actOnBar
  dsimp only
  have proposal := @orchestratorActions_proposal Value _ strategy dt bar closePrev dayRangePrev input
  generalize strategy.orchestratorActions dt bar closePrev dayRangePrev input = answer at proposal ⊢
  obtain ⟨exits, noEntry, guarded⟩ := @appendBreakoutNoOvernightGuard_exits Value
    { strategy with orchestrator := answer.1 } answer.2 dt previousDayLocal input.hasOpenPosition
  rw [guarded]
  have repaired := @maybeEmitRepairIntents_spares Value { strategy with orchestrator := answer.1 } ctx ids _
    (ctx.effectiveCreatedTsUtc bar.closeTimeUtc)
  have keepsSafe := @maybeEmitRepairIntents_safeMode Value { strategy with orchestrator := answer.1 } ctx ids _
    (ctx.effectiveCreatedTsUtc bar.closeTimeUtc)
  have sameReady := congrArg entryReady repaired.2
  have noRepairEntry := repaired.1
  generalize maybeEmitRepairIntents ids { strategy with orchestrator := answer.1 } ctx
    (ctx.effectiveCreatedTsUtc bar.closeTimeUtc) = repairs at keepsSafe sameReady noRepairEntry ⊢
  obtain ⟨repairedState, repairIntents⟩ := repairs
  dsimp only at keepsSafe sameReady noRepairEntry ⊢
  have split : ∀ acted : List (Intent Value), entryCount (repairIntents ++ acted) = entryCount acted := by
    intro acted
    rw [entryCount_append, noRepairEntry, Nat.zero_add]
  cases proposal with
  | none next actions same others =>
      refine entersFrom_none ((split _).trans (mapActions_noEntry _ _ _ ?_))
      intro signal member
      exact (List.mem_append.1 member).elim (others signal) (noEntry signal)
  | entry next signal waits flat idle notPending =>
      have count := (split _).trans (@mapActions_entryCount Value _ repairedState ctx ids
        (ctx.effectiveCreatedTsUtc bar.closeTimeUtc) (ctx.canEmitNow (decide (bar.origin = .live)))
        (ctx.canExecuteNow (decide (bar.origin = .live))) signal exits noEntry)
      refine ⟨le_of_eq_of_le count ?_, ?_⟩
      · split <;> decide
      · intro some
        by_cases enters : repairedState.entryReady = true ∧ repairedState.safeModeCloseOnly = false ∧
            ctx.canEmitNow (decide (bar.origin = .live)) = true
        · obtain ⟨ready, notSafe, -⟩ := enters
          refine ⟨?_, sameReady.symm.trans ready, ?_, isIdle_of_noLiveOrders (live ▸ idle)⟩
          · rw [position, decide_eq_false_iff_not] at flat
            exact flat
          · rw [← Bool.not_eq_true]
            intro safe
            rw [keepsSafe safe] at notSafe
            cases notSafe
        · exact absurd (count.trans (if_neg enters)) some

def ReissuesEntry (strategy : HybridIntradayRuntimeStrategy Value) (ctx : StrategyCtx Value) (dt : NaiveDateTime)
    (bar : BarEvent Value) : Prop :=
  ∃ deferred ∈ strategy.deferredEntry,
    ¬ IsOpen (ctx.positionQty.getD F64.zero) ∧ strategy.deferredEntryExpired deferred dt = false ∧
      strategy.entryReady = true ∧ strategy.safeModeCloseOnly = false ∧
      ctx.canEmitNow (decide (bar.origin = .live)) = true ∧ ctx.canExecuteNow (decide (bar.origin = .live)) = true ∧
      strategy.pendingEntryRequestId.isNone = true

theorem maybeReissueDeferredEntry_enters {dt : NaiveDateTime} {bar : BarEvent Value} {referencePrice : Value}
    {deferred : DeferredEntry Value} {createdTsUtc : Int} (held : strategy.deferredEntry = some deferred)
    (idle : ReissuesEntry strategy ctx dt bar → IsIdle strategy) :
    EntersFrom strategy ctx ((strategy.maybeReissueDeferredEntry ids ctx createdTsUtc dt
      (ctx.canEmitNow (decide (bar.origin = .live))) (ctx.canExecuteNow (decide (bar.origin = .live))) referencePrice
      deferred).2.getD []) := by
  unfold maybeReissueDeferredEntry
  split
  case isTrue => exact entersFrom_none rfl
  case isFalse valid =>
    rw [not_or, Bool.not_eq_true] at valid
    split
    case isTrue => exact entersFrom_none rfl
    case isFalse permitted =>
      simp only [not_or, Bool.not_eq_false, Bool.not_eq_true] at permitted
      obtain ⟨ready, notSafe, emits, executes, noRequest⟩ := permitted
      have count := @submitEntry_entryCount Value _ { strategy with activeCycleId := some deferred.cycleId } ctx ids
        createdTsUtc (ctx.canEmitNow (decide (bar.origin = .live))) (ctx.canExecuteNow (decide (bar.origin = .live)))
        referencePrice deferred.signal
      refine ⟨le_of_eq_of_le count ?_, ?_⟩
      · split <;> decide
      · intro _
        refine ⟨valid.1, ready, notSafe, idle ?_⟩
        exact ⟨deferred, held, valid.1, valid.2, ready, notSafe, emits, executes, by rw [← Option.not_isSome, noRequest]; rfl⟩

theorem maybeReissueDeferredExit_noEntry {createdTsUtc : Int} {canEmit canExecute : Bool} {referencePrice : Value}
    {deferred : DeferredExit} :
    entryCount ((strategy.maybeReissueDeferredExit ids ctx createdTsUtc canEmit canExecute referencePrice
      deferred).2.getD []) = 0 := by
  unfold maybeReissueDeferredExit
  split
  case isTrue => rfl
  case isFalse =>
    split
    case isTrue => rfl
    case isFalse => exact (submitExit_spares _ _ _ _ _ _).1

theorem onBarAfterExit_enters {dt : NaiveDateTime} {bar : BarEvent Value} {closePrev dayRangePrev : Value}
    {previousDayLocal : Option NaiveDate} {referencePrice : Value} {input : BarInput Value}
    (idle : ReissuesEntry strategy ctx dt bar → IsIdle strategy)
    (position : input.hasOpenPosition = decide (IsOpen (ctx.positionQty.getD F64.zero)))
    (live : input.hasLiveOrders = strategy.hasLiveOrders) :
    EntersFrom strategy ctx
      (strategy.onBarAfterExit ids ctx dt bar closePrev dayRangePrev previousDayLocal referencePrice input).2 := by
  unfold onBarAfterExit
  cases held : strategy.deferredEntry with
  | none => exact actOnBar_enters position live
  | some deferred =>
      dsimp only
      have reissued := @maybeReissueDeferredEntry_enters Value _ (strategy.warmBar input) ctx ids dt bar
        referencePrice deferred (ctx.effectiveCreatedTsUtc bar.closeTimeUtc) held idle
      have gone := @maybeReissueDeferredEntry_none Value (strategy.warmBar input) ctx ids _
        (ctx.effectiveCreatedTsUtc bar.closeTimeUtc) dt (ctx.canEmitNow (decide (bar.origin = .live)))
        (ctx.canExecuteNow (decide (bar.origin = .live))) referencePrice deferred
      generalize (strategy.warmBar input).maybeReissueDeferredEntry ids ctx _ dt _ _ referencePrice deferred = answer
        at reissued gone ⊢
      obtain ⟨state, intents⟩ := answer
      cases intents with
      | none =>
          dsimp only at gone ⊢
          rw [gone rfl]
          exact @actOnBar_enters Value _ { strategy.warmBar input with deferredEntry := none } ctx ids dt bar closePrev
            dayRangePrev previousDayLocal input position live
      | some intents => exact reissued

theorem processBar_enters {dt : NaiveDateTime} {bar : BarEvent Value} {closePrev dayRangePrev : Value}
    {previousDayLocal : Option NaiveDate} (idle : ReissuesEntry strategy ctx dt bar → IsIdle strategy) :
    EntersFrom strategy ctx (strategy.processBar ids ctx dt bar closePrev dayRangePrev previousDayLocal
      (decide (IsOpen (ctx.positionQty.getD F64.zero)))).2 := by
  unfold processBar
  dsimp only
  cases strategy.deferredExit with
  | none => exact onBarAfterExit_enters idle rfl rfl
  | some deferred =>
      dsimp only
      have noEntry := @maybeReissueDeferredExit_noEntry Value _ (strategy.warmBar (strategy.barInput dt bar closePrev
          dayRangePrev (decide (IsOpen (ctx.positionQty.getD F64.zero))))) ctx ids
        (ctx.effectiveCreatedTsUtc bar.closeTimeUtc) (ctx.canEmitNow (decide (bar.origin = .live)))
        (ctx.canExecuteNow (decide (bar.origin = .live))) strategy.liveReferencePrice deferred
      have gone := @maybeReissueDeferredExit_none Value (strategy.warmBar (strategy.barInput dt bar closePrev
          dayRangePrev (decide (IsOpen (ctx.positionQty.getD F64.zero))))) ctx ids _
        (ctx.effectiveCreatedTsUtc bar.closeTimeUtc) (ctx.canEmitNow (decide (bar.origin = .live)))
        (ctx.canExecuteNow (decide (bar.origin = .live))) strategy.liveReferencePrice deferred
      generalize maybeReissueDeferredExit ids _ ctx _ _ _ strategy.liveReferencePrice deferred = answer
        at noEntry gone ⊢
      obtain ⟨state, intents⟩ := answer
      cases intents with
      | none =>
          dsimp only at gone ⊢
          rw [gone rfl]
          exact @onBarAfterExit_enters Value _ { strategy.warmBar _ with deferredExit := none } ctx ids dt bar closePrev
            dayRangePrev previousDayLocal _ _ idle rfl rfl
      | some intents => exact entersFrom_none noEntry

/-! ### The other callbacks -/

theorem onPosition_noEntry (nowMs : Int) (pos : PositionEvent Value) :
    entryCount (strategy.onPosition ids ctx nowMs pos).2 = 0 := by
  have settle : ∀ completes, entryCount (strategy.settlePosition ids ctx pos completes).2 = 0 := by
    intro completes
    unfold settlePosition
    split
    case isTrue =>
      cases strategy.pendingEntry with
      | none =>
          unfold recoverPosition
          dsimp only
          split
          case isTrue => rfl
          case isFalse => exact (emitBrokerResidualEmergencyExit_spares pos _).1
      | some entry => exact (emitMrBracketIntents_spares pos entry).1
    case isFalse =>
      split
      case isTrue => exact closePosition_classCount (by decide)
      case isFalse => rfl
  unfold onPosition
  split
  case isTrue => rfl
  case isFalse =>
    unfold explainPosition
    dsimp only
    split
    case h_1 =>
      split
      case isTrue => exact (emitBrokerResidualEmergencyExit_spares pos _).1
      case isFalse =>
        split
        case isTrue => rfl
        case isFalse => exact settle true
    case h_2 =>
      split
      case isTrue =>
        unfold onPositionResized
        split
        case isTrue => rfl
        case isFalse => exact (emitBrokerResidualEmergencyExit_spares pos _).1
      case isFalse => exact settle false

theorem onTimer_noEntry (nowTsUtcMs : Int) : entryCount (strategy.onTimer ids ctx nowTsUtcMs).2 = 0 := by
  have timedOut : ∀ state : HybridIntradayRuntimeStrategy Value,
      entryCount (state.emitPartialEntryTimeoutExit ids ctx nowTsUtcMs).2 = 0 := by
    intro state
    unfold emitPartialEntryTimeoutExit
    split
    case h_1 => rfl
    case h_2 => simp [exitIntent]
  unfold onTimer
  dsimp only
  rw [entryCount_append, (emitBracketReconcileTimeoutExit_spares nowTsUtcMs).1, timedOut]

end Emission

section Steps

variable {Value : Type} [F64 Value] (ids : RequestIds) (strategy : HybridIntradayRuntimeStrategy Value)

/-- One entry at most is returned, by a bar, and from a flat, ready and permitted state in which
that bar is acted on. -/
def EntersPermitted (callback : Callback Value) : Prop :=
  match callback with
  | .bar ctx bar =>
      entryCount (strategy.returned ids callback) ≤ 1 ∧
        (entryCount (strategy.returned ids callback) ≠ 0 →
          ∃ dt, strategy.AcceptsBar bar dt ∧ EntryPermitted (strategy.stateForBar ctx dt bar))
  | _ => entryCount (strategy.returned ids callback) = 0

def DeliversPosition : Callback Value → Prop
  | .bar ctx _ => ctx.positionQty.getD F64.zero = strategy.lastPositionQty
  | _ => True

/-- A bar issues its deferred entry again only where nothing is outstanding; and its position is a number. -/
def ReissuesIdle : Callback Value → Prop
  | .bar ctx bar =>
      IsNumber (ctx.positionQty.getD F64.zero) ∧
        ∀ dt, strategy.AcceptsBar bar dt → strategy.startupReplayBoundary ctx bar = none →
          ReissuesEntry (strategy.stateForBar ctx dt bar) ctx dt bar → IsIdle (strategy.stateForBar ctx dt bar)
  | _ => True

variable {ids} {strategy}

theorem stateForBar_slots (ctx : StrategyCtx Value) (dt : NaiveDateTime) (bar : BarEvent Value) :
    slots (strategy.stateForBar ctx dt bar) = slots strategy := by
  have same := congrArg slots (strategy.stateForBar_tradeState ctx dt bar)
  exact same.trans (clearStalePendingTail_slots _ _)

/-- No order worked before a bar that enters. -/
theorem EntryPermitted.noOrderBefore {ctx : StrategyCtx Value} {dt : NaiveDateTime} {bar : BarEvent Value}
    (permitted : EntryPermitted (strategy.stateForBar ctx dt bar)) : strategy.workingOrders = [] := by
  have same := congrArg Prod.fst (@stateForBar_slots Value _ strategy ctx dt bar)
  exact same.symm.trans permitted.noWorkingOrders

theorem onBar_entersPermitted {ctx : StrategyCtx Value} {bar : BarEvent Value}
    (delivers : DeliversPosition strategy (.bar ctx bar)) (idle : ReissuesIdle strategy (.bar ctx bar)) :
    EntersPermitted ids strategy (.bar ctx bar) := by
  obtain ⟨isNumber, reissuesIdle⟩ := idle
  have course := strategy.onBar_course ids ctx bar
  unfold EntersPermitted returned call
  dsimp only
  generalize strategy.onBar ids ctx bar = result at course ⊢
  cases course with
  | passedOver idle same => exact ⟨Nat.zero_le 1, fun some => absurd rfl some⟩
  | replayed dt input sameTime accepts replay => exact ⟨Nat.zero_le 1, fun some => absurd rfl some⟩
  | actedOn dt accepts current =>
      have enters := @processBar_enters Value _ (strategy.stateForBar ctx dt bar) ctx ids dt bar
        ((strategy.learnFromBar dt bar).prevDayClose.getD bar.close)
        ((strategy.learnFromBar dt bar).prevDayRange.getD F64.zero) strategy.lastDayLocal
        (reissuesIdle dt accepts current)
      refine ⟨enters.1, ?_⟩
      intro some
      obtain ⟨notOpen, ready, notSafe, entry, request, exit, orders, stopOrders⟩ := enters.2 some
      have flat : IsFlat (ctx.positionQty.getD F64.zero) := by
        by_contra notFlat
        exact notOpen (isNumber.2 notFlat)
      have sameQty := congrArg (fun state => state.2.2.1) (@stateForBar_slots Value _ strategy ctx dt bar)
      refine ⟨dt, accepts, ⟨?_, ready, notSafe, entry, request, exit, orders, stopOrders⟩⟩
      unfold slots at sameQty
      dsimp only at sameQty
      rw [sameQty, ← delivers]
      exact flat

theorem reissuesIdle_of_noDeferred {ctx : StrategyCtx Value} {bar : BarEvent Value}
    (isNumber : IsNumber (ctx.positionQty.getD F64.zero))
    (none : (strategy.clearStalePendingTail bar.closeTimeUtc (ctx.positionQty.getD F64.zero)).deferredEntry.isNone =
      true) : ReissuesIdle strategy (.bar ctx bar) := by
  refine ⟨isNumber, ?_⟩
  rintro dt - - ⟨deferred, held, -⟩
  have same := congrArg deferredEntry (strategy.stateForBar_tradeState ctx dt bar)
  have cleared : (strategy.clearStalePendingTail bar.closeTimeUtc (ctx.positionQty.getD F64.zero)).deferredEntry =
      some deferred := same.symm.trans held
  rw [cleared] at none
  cases none

theorem entersPermitted {callback : Callback Value} (delivers : DeliversPosition strategy callback)
    (idle : ReissuesIdle strategy callback) : EntersPermitted ids strategy callback := by
  cases callback with
  | bar ctx bar => exact onBar_entersPermitted delivers idle
  | ack ctx ack => exact onAck_classCount (by decide) ack
  | order ctx nowMs order => exact onOrder_classCount .entry nowMs order
  | stopOrder ctx nowMs order => exact onStopOrder_classCount (by decide) nowMs order
  | position ctx nowMs pos => exact onPosition_noEntry nowMs pos
  | timer ctx nowTsUtcMs => exact onTimer_noEntry nowTsUtcMs
  | bootstrapSnapshot ctx snapshot =>
      unfold EntersPermitted returned call onBootstrapSnapshot
      dsimp only
      split <;> rfl
  | runtimeStateRestored ctx => exact rfl

end Steps

/-- Over a run whose bars issue deferred entries again only where nothing is outstanding, every entry
is returned by a bar, alone, and from a flat, ready and permitted state. -/
theorem entries_are_permitted {Value : Type} [F64 Value] (ids : RequestIds)
    (strategy : HybridIntradayRuntimeStrategy Value) (callbacks : List (Callback Value))
    (delivers : EveryStep (after ids) DeliversPosition strategy callbacks)
    (idle : EveryStep (after ids) ReissuesIdle strategy callbacks) :
    EveryStep (after ids) (EntersPermitted ids) strategy callbacks :=
  delivers.imp₂ (fun _ _ position reissues => entersPermitted position reissues) idle

/-- Two days of live bars, of which the last one breaks out of the range of the first day. -/
def liveBreakoutRun : List (Callback Float) :=
  [.bar (sampleCtx .live none 1767596400) (flatBar 100 1767596400),
    .bar (sampleCtx .live none 1767600000) (flatBar 110 1767600000),
    .bar (sampleCtx .live none 1767682800) (flatBar 110 1767682800),
    .bar (sampleCtx .live none 1767697200) (flatBar 120 1767697200)]

theorem entries_are_permitted_breakout :
    EveryStep (after sampleIds) DeliversPosition (new (sampleConfig Float)) liveBreakoutRun ∧
      EveryStep (after sampleIds) (EntersPermitted sampleIds) (new (sampleConfig Float)) liveBreakoutRun := by
  have delivers : EveryStep (after sampleIds) DeliversPosition (new (sampleConfig Float)) liveBreakoutRun :=
    ⟨rfl, rfl, rfl, rfl, trivial⟩
  refine ⟨delivers, entries_are_permitted sampleIds (new (sampleConfig Float)) liveBreakoutRun delivers
    ⟨?_, ?_, ?_, ?_, trivial⟩⟩
  · exact reissuesIdle_of_noDeferred (by decide) (by decide)
  · exact reissuesIdle_of_noDeferred (by decide) (by decide)
  · exact reissuesIdle_of_noDeferred (by decide) (by decide)
  · exact reissuesIdle_of_noDeferred (by decide) (by decide)

/-- The entry of the breakout is refused, for the trading window is closed; an order of the strategy
is reported working; and a bar of the same day follows. -/
def reissueRun : List (Callback Float) :=
  liveBreakoutRun ++
    [.ack (sampleCtx .live none 1767697210) {
        requestId := sampleIds.deterministicRequestId "hyb-test" "demo" "IMOEXF" "market" 1767697200 3
        status := .rejected
        brokerOrderId := none
        errorCode := some "trading_window_closed"
        processedTsUtc := 1767697210 },
      .order (sampleCtx .live none 1767697220) 1767697220000 (takeProfitEvent "working"),
      .bar (sampleCtx .live none 1767700800) (flatBar 120 1767700800)]

/-- A deferred entry is issued again while an order of the strategy works. -/
theorem deferred_entry_ignores_working_order :
    ¬ ∀ (config : HybridIntradayRuntimeConfig Float) (callbacks : List (Callback Float)),
      EveryStep (after sampleIds) DeliversPosition (new config) callbacks →
        EveryStep (after sampleIds) (EntersPermitted sampleIds) (new config) callbacks := by
  intro all
  have delivers : EveryStep (after sampleIds) DeliversPosition (new (sampleConfig Float)) reissueRun :=
    ⟨rfl, rfl, rfl, rfl, trivial, trivial, rfl, trivial⟩
  obtain ⟨-, -, -, -, -, -, ⟨-, permitted⟩, -⟩ := all (sampleConfig Float) reissueRun delivers
  obtain ⟨dt, -, entered⟩ := permitted (by decide)
  have none := entered.noOrderBefore
  revert none
  decide

end TradingGateway.HybridIntraday
