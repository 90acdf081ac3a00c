import TradingGateway.HybridIntraday.TradeState

/-! Protective orders: a known take-profit or stop order leaves its slot only with an intent that names it. -/

set_option autoImplicit false

namespace TradingGateway.HybridIntraday

open BrokerCore.Identifiers BrokerCore.Orders Foundation.MachineNumbers
open HybridIntradayRuntimeStrategy

section Naming

variable {Value : Type}

def cancelledId (intent : Intent Value) : Option BrokerOrderId :=
  match intent.baseIntent with
  | .cancel orderId => some orderId
  | _ => none

def deletedId (intent : Intent Value) : Option BrokerStopOrderId :=
  match intent.baseIntent with
  | .deleteStopLimit orderId _ _ => some orderId
  | _ => none

def cancelledIds (intents : List (Intent Value)) : List BrokerOrderId :=
  intents.filterMap cancelledId

def deletedIds (intents : List (Intent Value)) : List BrokerStopOrderId :=
  intents.filterMap deletedId

@[simp] theorem cancelledIds_append (left right : List (Intent Value)) :
    cancelledIds (left ++ right) = cancelledIds left ++ cancelledIds right :=
  List.filterMap_append

@[simp] theorem deletedIds_append (left right : List (Intent Value)) :
    deletedIds (left ++ right) = deletedIds left ++ deletedIds right :=
  List.filterMap_append

@[simp] theorem cancelledIds_cancelCleanup (orderIds : List BrokerOrderId) :
    cancelledIds (orderIds.map (@cancelCleanup Value)) = orderIds := by
  unfold cancelledIds
  rw [List.filterMap_map]
  exact List.filterMap_some

@[simp] theorem deletedIds_deleteStopCleanup (side : Option OrderSide) (orderIds : List BrokerStopOrderId) :
    deletedIds (orderIds.map (@deleteStopCleanup Value side)) = orderIds := by
  unfold deletedIds
  rw [List.filterMap_map]
  exact List.filterMap_some

structure Settles (before : HybridIntradayRuntimeStrategy Value)
    (result : HybridIntradayRuntimeStrategy Value × List (Intent Value)) : Prop where
  workingOrders : result.1.workingOrders = before.workingOrders
  workingStopOrders : result.1.workingStopOrders = before.workingStopOrders
  lastPositionQty : result.1.lastPositionQty = before.lastPositionQty
  takeProfit : ∀ orderId ∈ before.tpOrderId, result.1.tpOrderId = some orderId ∨ orderId ∈ cancelledIds result.2
  stopLoss : ∀ orderId ∈ before.slStopOrderId, result.1.slStopOrderId = some orderId ∨ orderId ∈ deletedIds result.2

variable {before middle after : HybridIntradayRuntimeStrategy Value} {intents : List (Intent Value)}

def slots (strategy : HybridIntradayRuntimeStrategy Value) :
    List BrokerOrderId × List BrokerStopOrderId × Value × Option BrokerOrderId × Option BrokerStopOrderId :=
  (strategy.workingOrders, strategy.workingStopOrders, strategy.lastPositionQty, strategy.tpOrderId,
    strategy.slStopOrderId)

/-- Nothing leaves a slot. -/
theorem Settles.still {result : HybridIntradayRuntimeStrategy Value × List (Intent Value)}
    (same : slots result.1 = slots before) : Settles before result := by
  unfold slots at same
  simp only [Prod.mk.injEq] at same
  obtain ⟨workingOrders, workingStopOrders, lastPositionQty, takeProfit, stopLoss⟩ := same
  exact {
    workingOrders := workingOrders
    workingStopOrders := workingStopOrders
    lastPositionQty := lastPositionQty
    takeProfit := fun _ held => .inl (takeProfit.trans held)
    stopLoss := fun _ held => .inl (stopLoss.trans held) }

theorem Settles.refl (before : HybridIntradayRuntimeStrategy Value) (intents : List (Intent Value)) :
    Settles before (before, intents) :=
  .still rfl

theorem Settles.trans {first second : List (Intent Value)} (front : Settles before (middle, first))
    (back : Settles middle (after, second)) : Settles before (after, first ++ second) := by
  refine ⟨back.workingOrders.trans front.workingOrders, back.workingStopOrders.trans front.workingStopOrders,
    back.lastPositionQty.trans front.lastPositionQty, ?_, ?_⟩
  · intro orderId held
    rw [cancelledIds_append, List.mem_append]
    rcases front.takeProfit orderId held with kept | named
    · exact (back.takeProfit orderId kept).imp_right .inr
    · exact .inr (.inl named)
  · intro orderId held
    rw [deletedIds_append, List.mem_append]
    rcases front.stopLoss orderId held with kept | named
    · exact (back.stopLoss orderId kept).imp_right .inr
    · exact .inr (.inl named)

/-- Further intents name no fewer orders. -/
theorem Settles.more (settles : Settles before (after, intents)) (others : List (Intent Value)) :
    Settles before (after, intents ++ others) :=
  settles.trans (.refl after others)

/-- A step before which, or behind which, nothing leaves a slot. -/
theorem Settles.behind {result : HybridIntradayRuntimeStrategy Value × List (Intent Value)}
    (still : Settles before (middle, [])) (settles : Settles middle result) : Settles before result :=
  still.trans settles

theorem Settles.of_slots {result : HybridIntradayRuntimeStrategy Value × List (Intent Value)}
    (settles : Settles middle result) (same : slots middle = slots before) : Settles before result :=
  (Settles.still same : Settles before (middle, [])).behind settles

theorem Settles.ahead (settles : Settles before (middle, intents)) (same : slots after = slots middle) :
    Settles before (after, intents) := by
  have whole := settles.trans (.still same : Settles middle (after, []))
  rw [List.append_nil] at whole
  exact whole

end Naming

section Emitters

variable {Value : Type} {strategy : HybridIntradayRuntimeStrategy Value} {ctx : StrategyCtx Value} {ids : RequestIds}

theorem activeOrNextCycle_settles (tsUtc : Int) (intents : List (Intent Value)) :
    Settles strategy ((strategy.activeOrNextCycle tsUtc).1, intents) := by
  unfold activeOrNextCycle
  cases strategy.activeCycleId with
  | none => exact .still rfl
  | some cycle => exact .refl strategy intents

theorem emitCancelAllProtection_settles (side : Option Side) :
    Settles strategy (strategy.emitCancelAllProtection side) := by
  unfold emitCancelAllProtection
  refine ⟨rfl, rfl, rfl, ?_, ?_⟩
  · intro orderId held
    refine .inr ?_
    simp only [cancelledIds_append, cancelledIds_cancelCleanup, List.mem_append]
    exact .inl (.inl (Option.mem_toList.2 held))
  · intro orderId held
    refine .inr ?_
    simp only [deletedIds_append, deletedIds_deleteStopCleanup, List.mem_append]
    exact .inl (.inr (Option.mem_toList.2 held))

theorem closePosition_settles : Settles strategy strategy.closePosition := by
  unfold closePosition
  have cleaned := @emitCancelAllProtection_settles Value { strategy.clearPendingEntry.clearPendingExit with
    cleanupStopRetryAttempts := 0
    orchestrator := strategy.orchestrator.onExitFilled
    currentOwner := none
    currentSide := none
    deferredEntry := none
    deferredExit := none
    bracketTerminalReconcileStartedMs := none
    activeCycleId := none
    safeModeCloseOnly := false
    safeModeReason := none
    slTriggeredTs := none } strategy.currentSide
  exact ⟨rfl, rfl, rfl, cleaned.takeProfit, cleaned.stopLoss⟩

variable [F64 Value]

theorem emitBrokerResidualEmergencyExit_settles (pos : PositionEvent Value) (reason : String) :
    Settles strategy (strategy.emitBrokerResidualEmergencyExit ids ctx pos reason) := by
  unfold emitBrokerResidualEmergencyExit
  split
  case isTrue => exact .refl strategy []
  case isFalse =>
    dsimp only
    have numbered := @activeOrNextCycle_settles Value strategy (ctx.effectiveCreatedTsUtc pos.tsUtc) []
    generalize strategy.activeOrNextCycle (ctx.effectiveCreatedTsUtc pos.tsUtc) = answer at numbered ⊢
    obtain ⟨numberedState, cycle⟩ := answer
    dsimp only at numbered ⊢
    have cleaned := @emitCancelAllProtection_settles Value numberedState numberedState.currentSide
    generalize numberedState.emitCancelAllProtection numberedState.currentSide = answer at cleaned ⊢
    obtain ⟨cleanedState, cleanup⟩ := answer
    exact (numbered.trans cleaned).trans (.still rfl)

theorem emitBracketReconcileTimeoutExit_settles (nowTsUtcMs : Int) :
    Settles strategy (strategy.emitBracketReconcileTimeoutExit ids ctx nowTsUtcMs) := by
  have cleared : Settles strategy (strategy.clearBracketTerminalReconcile, []) := .still rfl
  unfold emitBracketReconcileTimeoutExit
  split
  case h_1 => exact .refl strategy []
  case h_2 =>
    split
    case isTrue => exact .refl strategy []
    case isFalse =>
      dsimp only
      split
      case isTrue => exact cleared
      case isFalse => exact cleared.trans (emitBrokerResidualEmergencyExit_settles _ _)

theorem emitPartialEntryTimeoutExit_settles (nowTsUtcMs : Int) :
    Settles strategy (strategy.emitPartialEntryTimeoutExit ids ctx nowTsUtcMs) := by
  unfold emitPartialEntryTimeoutExit
  split
  case h_1 => exact .refl strategy []
  case h_2 => exact .still rfl

theorem emitMrBracketIntents_settles (pos : PositionEvent Value) (entry : PendingEntry Value) :
    Settles strategy (strategy.emitMrBracketIntents ids ctx pos entry) := by
  unfold emitMrBracketIntents
  split
  case isTrue => exact .refl strategy []
  case isFalse =>
    cases entry.takePrice <;> cases entry.stopPrice <;> exact .still rfl

/-! ### Actions and repair -/

theorem submitEntry_settles (createdTsUtc : Int) (canEmit canExecute : Bool) (referencePrice : Value)
    (entry : EntrySignal Value) :
    Settles strategy (strategy.submitEntry ids ctx createdTsUtc canEmit canExecute referencePrice entry) := by
  unfold submitEntry
  split
  case isTrue => exact .still rfl
  case isFalse =>
    have numbered := @activeOrNextCycle_settles Value strategy createdTsUtc []
    generalize strategy.activeOrNextCycle createdTsUtc = answer at numbered ⊢
    obtain ⟨numberedState, cycle⟩ := answer
    cases canExecute with
    | false => exact numbered.more _
    | true => exact numbered.trans (.still rfl)

theorem submitExit_settles (createdTsUtc : Int) (canEmit canExecute : Bool) (referencePrice : Value) (owner : Owner)
    (reason : ReasonCode) :
    Settles strategy (strategy.submitExit ids ctx createdTsUtc canEmit canExecute referencePrice owner reason) := by
  unfold submitExit
  split
  case isTrue => exact .refl strategy []
  case isFalse =>
    split
    case h_1 => exact .refl strategy []
    case h_2 =>
      split
      case isTrue => exact .refl strategy []
      case isFalse =>
        have numbered := @activeOrNextCycle_settles Value strategy createdTsUtc []
        generalize strategy.activeOrNextCycle createdTsUtc = answer at numbered ⊢
        obtain ⟨numberedState, cycle⟩ := answer
        cases canExecute with
        | false => exact numbered.more _
        | true => exact numbered.trans (.still rfl)

theorem mapAction_settles (createdTsUtc : Int) (canEmit canExecute : Bool) (referencePrice : Value)
    (action : Action Value) :
    Settles strategy
      (strategy.mapActionToIntentsWithReference ids ctx createdTsUtc canEmit canExecute referencePrice action) := by
  cases action with
  | submitEntry entry => exact submitEntry_settles _ _ _ _ _
  | submitExit owner reason => exact submitExit_settles _ _ _ _ _ _
  | armOvernightExit owner reason armedDate exitTime => exact .refl strategy []

theorem mapActions_settles (createdTsUtc : Int) (canEmit canExecute : Bool) (actions : List (Action Value)) :
    Settles strategy (mapActions ids ctx createdTsUtc canEmit canExecute strategy actions) := by
  induction actions generalizing strategy with
  | nil => exact .refl strategy []
  | cons action rest ih =>
      unfold mapActions
      exact (mapAction_settles createdTsUtc canEmit canExecute strategy.liveReferencePrice action).trans ih

theorem emitStopEscalation_settles (nowTs : Int) (posQty : Value) :
    Settles strategy (strategy.emitStopEscalation ids ctx nowTs posQty) := by
  unfold emitStopEscalation
  have numbered := @activeOrNextCycle_settles Value strategy (max nowTs 0) []
  generalize strategy.activeOrNextCycle (max nowTs 0) = answer at numbered ⊢
  obtain ⟨numberedState, cycle⟩ := answer
  dsimp only at numbered ⊢
  refine numbered.behind ⟨rfl, rfl, rfl, ?_, fun _ held => .inl held⟩
  intro orderId held
  refine .inr ?_
  simp only [cancelledIds_append, cancelledIds_cancelCleanup, List.mem_append]
  exact .inl (.inl (Option.mem_toList.2 held))

theorem emitMissingBracket_settles (nowTs : Int) (posQty takePrice stopPrice : Value) (cycle : CycleId) :
    Settles strategy (strategy.emitMissingBracket ids ctx nowTs posQty takePrice stopPrice cycle) := by
  unfold emitMissingBracket
  cases strategy.hasTp <;> cases strategy.hasSl <;> exact .still rfl

theorem repairBracket_settles (nowTs : Int) (posQty takePrice stopPrice : Value) (cycle : CycleId) :
    Settles strategy (strategy.repairBracket ids ctx nowTs posQty takePrice stopPrice cycle) := by
  unfold repairBracket
  split
  case isTrue => exact .still rfl
  case isFalse =>
    split
    case isTrue => exact .refl strategy []
    case isFalse =>
      split
      case isTrue => exact .still rfl
      case isFalse =>
        split
        case isTrue => exact .still rfl
        case isFalse => exact emitMissingBracket_settles nowTs posQty takePrice stopPrice cycle

theorem maybeEmitRepairIntents_settles (nowTs : Int) :
    Settles strategy (strategy.maybeEmitRepairIntents ids ctx nowTs) := by
  unfold maybeEmitRepairIntents
  dsimp only
  split
  case isTrue => exact .still rfl
  case isFalse =>
    split
    case h_1 =>
      split
      case isTrue => exact .refl strategy []
      case isFalse => exact emitStopEscalation_settles nowTs _
    case h_2 =>
      split
      case isTrue => exact .refl strategy []
      case isFalse =>
        split
        case h_1 => exact .still rfl
        case h_2 =>
          split
          case h_1 => exact repairBracket_settles nowTs _ _ _ _
          case h_2 => exact .still rfl

theorem maybeReissueDeferredEntry_settles (createdTsUtc : Int) (dt : NaiveDateTime) (canEmit canExecute : Bool)
    (referencePrice : Value) (deferred : DeferredEntry Value) :
    Settles strategy (((strategy.maybeReissueDeferredEntry ids ctx createdTsUtc dt canEmit canExecute referencePrice
      deferred).1), ((strategy.maybeReissueDeferredEntry ids ctx createdTsUtc dt canEmit canExecute referencePrice
      deferred).2.getD [])) := by
  unfold maybeReissueDeferredEntry
  split
  case isTrue => exact .still rfl
  case isFalse =>
    split
    case isTrue => exact .refl strategy []
    case isFalse =>
      have sent := @mapAction_settles Value { strategy with activeCycleId := some deferred.cycleId } ctx ids _
        createdTsUtc canEmit canExecute referencePrice (.submitEntry deferred.signal)
      generalize mapActionToIntentsWithReference ids { strategy with activeCycleId := some deferred.cycleId } ctx
        createdTsUtc canEmit canExecute referencePrice (.submitEntry deferred.signal) = answer at sent ⊢
      obtain ⟨sentState, intents⟩ := answer
      have asked : Settles strategy ({ strategy with activeCycleId := some deferred.cycleId }, []) :=
        .still rfl
      dsimp only
      split
      case isTrue => exact (asked.behind sent).ahead rfl
      case isFalse => exact asked.behind sent

theorem maybeReissueDeferredExit_settles (createdTsUtc : Int) (canEmit canExecute : Bool)
    (referencePrice : Value) (deferred : DeferredExit) :
    Settles strategy (((strategy.maybeReissueDeferredExit ids ctx createdTsUtc canEmit canExecute referencePrice
      deferred).1), ((strategy.maybeReissueDeferredExit ids ctx createdTsUtc canEmit canExecute referencePrice
      deferred).2.getD [])) := by
  unfold maybeReissueDeferredExit
  split
  case isTrue => exact .still rfl
  case isFalse =>
    split
    case isTrue => exact .refl strategy []
    case isFalse =>
      have asked : Settles strategy ({ strategy with
          activeCycleId := some deferred.cycleId
          currentOwner := some deferred.owner }, []) := .still rfl
      have sent := @mapAction_settles Value { strategy with
          activeCycleId := some deferred.cycleId
          currentOwner := some deferred.owner } ctx ids _ createdTsUtc canEmit canExecute referencePrice
        (.submitExit deferred.owner deferred.reason)
      generalize mapActionToIntentsWithReference ids { strategy with
          activeCycleId := some deferred.cycleId
          currentOwner := some deferred.owner } ctx createdTsUtc canEmit canExecute referencePrice
        (.submitExit deferred.owner deferred.reason) = answer at sent ⊢
      obtain ⟨sentState, intents⟩ := answer
      dsimp only
      split
      case isTrue => exact (asked.behind sent).ahead rfl
      case isFalse => exact asked.behind sent

/-! ### Bars -/

theorem actOnBar_settles (dt : NaiveDateTime) (bar : BarEvent Value) (closePrev dayRangePrev : Value)
    (previousDayLocal : Option NaiveDate) (input : BarInput Value) :
    Settles strategy (strategy.actOnBar ids ctx dt bar closePrev dayRangePrev previousDayLocal input) := by
  unfold actOnBar
  generalize strategy.orchestratorActions dt bar closePrev dayRangePrev input = answer
  obtain ⟨orchestrator, actions⟩ := answer
  have asked : Settles strategy ({ strategy with orchestrator := orchestrator }, []) := .still rfl
  exact asked.behind ((maybeEmitRepairIntents_settles _).trans (mapActions_settles _ _ _ _))

theorem onBarAfterExit_settles (dt : NaiveDateTime) (bar : BarEvent Value) (closePrev dayRangePrev : Value)
    (previousDayLocal : Option NaiveDate) (referencePrice : Value) (input : BarInput Value) :
    Settles strategy
      (strategy.onBarAfterExit ids ctx dt bar closePrev dayRangePrev previousDayLocal referencePrice input) := by
  unfold onBarAfterExit
  cases strategy.deferredEntry with
  | none => exact actOnBar_settles dt bar closePrev dayRangePrev previousDayLocal input
  | some deferred =>
      dsimp only
      have warmed : Settles strategy (strategy.warmBar input, []) := .still rfl
      have reissued := @maybeReissueDeferredEntry_settles Value (strategy.warmBar input) ctx ids _
        (ctx.effectiveCreatedTsUtc bar.closeTimeUtc) dt (ctx.canEmitNow (decide (bar.origin = .live)))
        (ctx.canExecuteNow (decide (bar.origin = .live))) referencePrice deferred
      generalize (strategy.warmBar input).maybeReissueDeferredEntry ids ctx _ dt _ _ referencePrice deferred = answer
        at reissued ⊢
      obtain ⟨state, intents⟩ := answer
      cases intents with
      | none => exact (warmed.behind reissued).behind (actOnBar_settles dt bar closePrev dayRangePrev _ input)
      | some intents => exact warmed.behind reissued

theorem processBar_settles (dt : NaiveDateTime) (bar : BarEvent Value) (closePrev dayRangePrev : Value)
    (previousDayLocal : Option NaiveDate) (hasOpenPosition : Bool) :
    Settles strategy
      (strategy.processBar ids ctx dt bar closePrev dayRangePrev previousDayLocal hasOpenPosition) := by
  unfold processBar
  dsimp only
  generalize strategy.barInput dt bar closePrev dayRangePrev hasOpenPosition = input
  cases strategy.deferredExit with
  | none => exact onBarAfterExit_settles dt bar closePrev dayRangePrev previousDayLocal _ input
  | some deferred =>
      dsimp only
      have warmed : Settles strategy (strategy.warmBar input, []) := .still rfl
      have reissued := @maybeReissueDeferredExit_settles Value (strategy.warmBar input) ctx ids _
        (ctx.effectiveCreatedTsUtc bar.closeTimeUtc) (ctx.canEmitNow (decide (bar.origin = .live)))
        (ctx.canExecuteNow (decide (bar.origin = .live))) strategy.liveReferencePrice deferred
      generalize (strategy.warmBar input).maybeReissueDeferredExit ids ctx _ _ _ strategy.liveReferencePrice deferred =
        answer at reissued ⊢
      obtain ⟨state, intents⟩ := answer
      cases intents with
      | none => exact (warmed.behind reissued).behind (onBarAfterExit_settles dt bar closePrev dayRangePrev _ _ input)
      | some intents => exact warmed.behind reissued

theorem clearStalePendingTail_slots (nowTs : Int) (positionQty : Value) :
    slots (strategy.clearStalePendingTail nowTs positionQty) = slots strategy := by
  have entry : ∀ state : HybridIntradayRuntimeStrategy Value, slots (state.clearStaleEntry nowTs) = slots state := by
    intro state
    unfold clearStaleEntry
    split <;> rfl
  have exit : ∀ state : HybridIntradayRuntimeStrategy Value, slots (state.clearStaleExit nowTs) = slots state := by
    intro state
    unfold clearStaleExit
    split <;> rfl
  have tp : ∀ state : HybridIntradayRuntimeStrategy Value, slots (state.clearStaleTp nowTs) = slots state := by
    intro state
    unfold clearStaleTp
    split <;> rfl
  have sl : ∀ state : HybridIntradayRuntimeStrategy Value, slots (state.clearStaleSl nowTs) = slots state := by
    intro state
    unfold clearStaleSl
    split <;> rfl
  unfold clearStalePendingTail
  split
  case isTrue => rfl
  case isFalse => rw [sl, tp, exit, entry]

theorem onBar_settles (bar : BarEvent Value) : Settles strategy (strategy.onBar ids ctx bar) := by
  have course := strategy.onBar_course ids ctx bar
  generalize strategy.onBar ids ctx bar = result at course ⊢
  cases course with
  | passedOver idle same =>
      have still := congrArg slots same
      exact .still still
  | replayed dt input sameTime accepts replay =>
      have learnt := congrArg slots (strategy.learnFromBar_tradeState dt bar)
      exact .still ((clearStalePendingTail_slots _ _).trans learnt)
  | actedOn dt accepts current =>
      have same := congrArg slots (strategy.stateForBar_tradeState ctx dt bar)
      have still : Settles strategy (strategy.stateForBar ctx dt bar, []) :=
        .still (same.trans (clearStalePendingTail_slots _ _))
      exact still.behind (processBar_settles dt bar _ _ _ _)

theorem onTimer_settles (nowTsUtcMs : Int) : Settles strategy (strategy.onTimer ids ctx nowTsUtcMs) := by
  unfold onTimer
  exact (emitBracketReconcileTimeoutExit_settles nowTsUtcMs).trans (emitPartialEntryTimeoutExit_settles nowTsUtcMs)

/-! ### Positions -/

theorem fillEntry_settles (pos : PositionEvent Value) (entry : PendingEntry Value) :
    Settles strategy (strategy.fillEntry ids ctx pos entry) := by
  unfold fillEntry
  exact (emitMrBracketIntents_settles pos entry).of_slots rfl

theorem recoverPosition_settles (pos : PositionEvent Value) :
    Settles strategy (strategy.recoverPosition ids ctx pos) := by
  unfold recoverPosition
  have numbered := @activeOrNextCycle_settles Value strategy pos.tsUtc []
  generalize strategy.activeOrNextCycle pos.tsUtc = answer at numbered ⊢
  obtain ⟨numberedState, cycle⟩ := answer
  dsimp only at numbered ⊢
  split
  case isTrue => exact numbered.ahead rfl
  case isFalse => exact numbered.behind ((emitBrokerResidualEmergencyExit_settles pos _).of_slots rfl)

theorem settlePosition_settles (pos : PositionEvent Value) (completesPendingEntry : Bool) :
    Settles strategy (strategy.settlePosition ids ctx pos completesPendingEntry) := by
  unfold settlePosition
  split
  case isTrue =>
    cases strategy.pendingEntry with
    | none => exact recoverPosition_settles pos
    | some entry => exact fillEntry_settles pos entry
  case isFalse =>
    split
    case isTrue => exact closePosition_settles
    case isFalse => exact .refl strategy []

theorem explainPosition_settles (nowMs : Int) (pos : PositionEvent Value) :
    Settles strategy (strategy.explainPosition ids ctx nowMs pos) := by
  unfold explainPosition
  dsimp only
  split
  case h_1 entry _ =>
    split
    case isTrue =>
      exact (emitBrokerResidualEmergencyExit_settles pos (partialEntryFault entry pos.qty)).ahead rfl
    case isFalse =>
      split
      case isTrue => exact .still rfl
      case isFalse => exact settlePosition_settles pos true
  case h_2 =>
    split
    case isTrue =>
      unfold onPositionResized
      split
      case isTrue => exact .refl strategy []
      case isFalse => exact emitBrokerResidualEmergencyExit_settles pos _
    case isFalse => exact settlePosition_settles pos false

/-- A position that is closed leaves no slot filled. -/
theorem explainPosition_closes {nowMs : Int} {pos : PositionEvent Value} (opened : IsOpen strategy.lastPositionQty)
    (flat : IsFlat pos.qty) (notOpen : ¬ IsOpen pos.qty) :
    (strategy.explainPosition ids ctx nowMs pos).1.tpOrderId = none ∧
      (strategy.explainPosition ids ctx nowMs pos).1.slStopOrderId = none := by
  have noEntry : (strategy.pendingEntry.filter fun _ => decide (IsOpen pos.qty)) = none := by
    rw [decide_eq_false notOpen]
    cases strategy.pendingEntry <;> rfl
  unfold explainPosition
  dsimp only
  rw [noEntry]
  dsimp only
  rw [if_neg fun resized => notOpen resized.2.1]
  unfold settlePosition
  rw [if_neg fun opening => notOpen opening.2, if_pos ⟨opened, flat⟩]
  exact ⟨rfl, rfl⟩

end Emitters

end TradingGateway.HybridIntraday
