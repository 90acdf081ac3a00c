import TradingGateway.HybridIntraday.IntentCounts

/-! What protection, repair and exits leave alone: the orchestrator, the entries, and what bars teach.
None of them returns an entry. -/

set_option autoImplicit false

namespace TradingGateway.HybridIntraday.HybridIntradayRuntimeStrategy

open BrokerCore.Identifiers Foundation.MachineNumbers

variable {Value : Type}

/-- The state without the bracket, its repair, the pending exit and the safe mode. -/
def bracketless (strategy : HybridIntradayRuntimeStrategy Value) : HybridIntradayRuntimeStrategy Value :=
  { strategy with
    currentOwner := none
    currentSide := none
    pendingExit := none
    pendingExitRequestId := none
    pendingExitCreatedTsUtc := none
    pendingTpRequestId := none
    pendingTpCreatedTsUtc := none
    pendingSlRequestId := none
    pendingSlCreatedTsUtc := none
    tpOrderId := none
    slStopOrderId := none
    slExchangeOrderId := none
    slTriggeredTs := none
    nextRepairAtTs := none
    repairBackoffLevel := 0
    repairAttempts := 0
    bracketTerminalReconcileStartedMs := none
    activeCycleId := none
    safeModeCloseOnly := false
    safeModeReason := none
    nextCycleSeq := 0 }

/-- The state without the bracket and without the orders that work. -/
def orderless (strategy : HybridIntradayRuntimeStrategy Value) : HybridIntradayRuntimeStrategy Value :=
  { bracketless strategy with workingOrders := [], workingStopOrders := [], cleanupStopRetryAttempts := 0 }

/-- An emission about the bracket or the exit: no entry, and nothing else changes. -/
def SparesEntries (before : HybridIntradayRuntimeStrategy Value)
    (result : HybridIntradayRuntimeStrategy Value × List (Intent Value)) : Prop :=
  entryCount result.2 = 0 ∧ bracketless result.1 = bracketless before

variable {before middle after strategy : HybridIntradayRuntimeStrategy Value} {ctx : StrategyCtx Value}
  {ids : RequestIds}

theorem SparesEntries.refl (before : HybridIntradayRuntimeStrategy Value) : SparesEntries before (before, []) :=
  ⟨rfl, rfl⟩

theorem SparesEntries.trans {first second : List (Intent Value)} (front : SparesEntries before (middle, first))
    (back : SparesEntries middle (after, second)) : SparesEntries before (after, first ++ second) := by
  refine ⟨?_, back.2.trans front.2⟩
  have noneFirst := front.1
  have noneSecond := back.1
  dsimp only at noneFirst noneSecond ⊢
  rw [entryCount_append, noneFirst, noneSecond]

@[simp] theorem activeOrNextCycle_bracketless (tsUtc : Int) :
    bracketless (strategy.activeOrNextCycle tsUtc).1 = bracketless strategy := by
  unfold activeOrNextCycle
  cases strategy.activeCycleId <;> rfl

/-! ### Order events -/

theorem noteTakeProfit_orderless (nowMs : Int) (orderId : BrokerOrderId) (status : String) :
    orderless (strategy.noteTakeProfit nowMs orderId status) = orderless strategy := by
  unfold noteTakeProfit
  dsimp only
  split <;> rfl

theorem noteStopLoss_orderless (nowMs : Int) (order : StopOrderEvent) (status : String) :
    orderless (strategy.noteStopLoss nowMs order status).1 = orderless strategy := by
  unfold noteStopLoss
  dsimp only
  split <;> rfl

theorem trackStopOrder_orderless (orderId : BrokerStopOrderId) (status : String) :
    orderless (strategy.trackStopOrder orderId status) = orderless strategy := by
  unfold trackStopOrder
  split <;> rfl

/-- An event of an order changes the bracket and the orders that work, and nothing else. -/
theorem onOrder_orderless (nowMs : Int) (order : OrderEvent) :
    orderless (strategy.onOrder ctx nowMs order).1 = orderless strategy := by
  unfold onOrder
  split
  case isTrue => rfl
  case isFalse =>
    dsimp only
    have adopts : orderless (if isTerminalOrderStatus (asciiLowercase order.status) then strategy
        else strategy.ensureActiveCycleFromComment order.comment) = orderless strategy := by
      split <;> rfl
    generalize (if isTerminalOrderStatus (asciiLowercase order.status) then strategy
      else strategy.ensureActiveCycleFromComment order.comment) = adopted at adopts ⊢
    refine Eq.trans ?_ adopts
    change orderless (if hasRole .tp order.comment then
      adopted.noteTakeProfit nowMs order.orderId (asciiLowercase order.status) else adopted) = orderless adopted
    split
    case isTrue => exact noteTakeProfit_orderless nowMs order.orderId (asciiLowercase order.status)
    case isFalse => rfl

theorem onStopOrder_orderless (nowMs : Int) (order : StopOrderEvent) :
    orderless (strategy.onStopOrder ctx nowMs order).1 = orderless strategy := by
  unfold onStopOrder
  split
  case isTrue => rfl
  case isFalse =>
    dsimp only
    rw [trackStopOrder_orderless]
    have adopts : orderless (if isTerminalStopOrderStatus (asciiLowercase order.status) then strategy
        else strategy.ensureActiveCycleFromComment order.comment) = orderless strategy := by
      split <;> rfl
    generalize (if isTerminalStopOrderStatus (asciiLowercase order.status) then strategy
      else strategy.ensureActiveCycleFromComment order.comment) = adopted at adopts ⊢
    refine Eq.trans ?_ adopts
    by_cases role : hasRole .sl order.comment
    · rw [if_pos role]
      exact noteStopLoss_orderless nowMs order (asciiLowercase order.status)
    · rw [if_neg role]

variable [F64 Value]

theorem emitBrokerResidualEmergencyExit_spares (pos : PositionEvent Value) (reason : String) :
    SparesEntries strategy (strategy.emitBrokerResidualEmergencyExit ids ctx pos reason) := by
  unfold emitBrokerResidualEmergencyExit
  split
  case isTrue => exact .refl strategy
  case isFalse =>
    have cycled := @activeOrNextCycle_bracketless Value strategy (ctx.effectiveCreatedTsUtc pos.tsUtc)
    exact ⟨by simp [emitCancelAllProtection, exitIntent], cycled⟩

theorem emitBracketReconcileTimeoutExit_spares (nowTsUtcMs : Int) :
    SparesEntries strategy (strategy.emitBracketReconcileTimeoutExit ids ctx nowTsUtcMs) := by
  unfold emitBracketReconcileTimeoutExit
  split
  case h_1 => exact .refl strategy
  case h_2 =>
    split
    case isTrue => exact .refl strategy
    case isFalse =>
      dsimp only
      split
      case isTrue => exact ⟨rfl, rfl⟩
      case isFalse =>
        have spares := @emitBrokerResidualEmergencyExit_spares Value strategy.clearBracketTerminalReconcile ctx ids _
        exact spares _ _

theorem emitMrBracketIntents_spares (pos : PositionEvent Value) (entry : PendingEntry Value) :
    SparesEntries strategy (strategy.emitMrBracketIntents ids ctx pos entry) := by
  unfold SparesEntries emitMrBracketIntents
  split
  case isTrue => exact ⟨rfl, rfl⟩
  case isFalse =>
    cases entry.takePrice <;> cases entry.stopPrice <;>
      exact ⟨by simp [emitTakeProfit, emitStopLoss], rfl⟩

theorem submitExit_spares (createdTsUtc : Int) (canEmit canExecute : Bool) (referencePrice : Value) (owner : Owner)
    (reason : ReasonCode) :
    SparesEntries strategy
      (strategy.submitExit ids ctx createdTsUtc canEmit canExecute referencePrice owner reason) := by
  unfold submitExit
  split
  case isTrue => exact .refl strategy
  case isFalse =>
    split
    case h_1 => exact .refl strategy
    case h_2 =>
      split
      case isTrue => exact .refl strategy
      case isFalse =>
        have cycled := @activeOrNextCycle_bracketless Value strategy createdTsUtc
        cases canExecute <;> exact ⟨by simp [exitIntent], cycled⟩

/-- Actions without an entry spare the entries. -/
theorem mapActions_spares (createdTsUtc : Int) (canEmit canExecute : Bool) {actions : List (Action Value)}
    (noEntry : ∀ signal, Action.submitEntry signal ∉ actions) :
    SparesEntries strategy (mapActions ids ctx createdTsUtc canEmit canExecute strategy actions) := by
  induction actions generalizing strategy with
  | nil => exact .refl strategy
  | cons action rest ih =>
      unfold mapActions
      refine SparesEntries.trans ?_ (ih fun signal member => noEntry signal (List.mem_cons_of_mem _ member))
      cases action with
      | submitEntry signal => exact absurd List.mem_cons_self (noEntry signal)
      | submitExit owner reason => exact submitExit_spares _ _ _ _ owner reason
      | armOvernightExit owner reason armedDate exitTime => exact .refl strategy

/-! ### Repair -/

theorem emitStopEscalation_spares (nowTs : Int) (posQty : Value) :
    SparesEntries strategy (strategy.emitStopEscalation ids ctx nowTs posQty) := by
  have cycled := @activeOrNextCycle_bracketless Value strategy (max nowTs 0)
  unfold emitStopEscalation
  exact ⟨by simp [exitIntent], cycled⟩

theorem emitRepairDeadlineExit_spares (nowTs : Int) (posQty : Value) (cycle : CycleId) :
    SparesEntries strategy (strategy.emitRepairDeadlineExit ids ctx nowTs posQty cycle) := by
  unfold emitRepairDeadlineExit
  exact ⟨by simp [exitIntent], rfl⟩

theorem emitMissingBracket_spares (nowTs : Int) (posQty takePrice stopPrice : Value) (cycle : CycleId) :
    SparesEntries strategy (strategy.emitMissingBracket ids ctx nowTs posQty takePrice stopPrice cycle) := by
  unfold SparesEntries emitMissingBracket
  cases strategy.hasTp <;> cases strategy.hasSl <;>
    exact ⟨by simp [emitTakeProfit, emitStopLoss, scheduleNextRepair], rfl⟩

theorem repairBracket_spares (nowTs : Int) (posQty takePrice stopPrice : Value) (cycle : CycleId) :
    SparesEntries strategy (strategy.repairBracket ids ctx nowTs posQty takePrice stopPrice cycle) := by
  unfold repairBracket
  split
  case isTrue => exact emitRepairDeadlineExit_spares nowTs posQty cycle
  case isFalse =>
    split
    case isTrue => exact .refl strategy
    case isFalse =>
      split
      case isTrue => exact ⟨rfl, rfl⟩
      case isFalse =>
        split
        case isTrue => exact ⟨rfl, rfl⟩
        case isFalse => exact emitMissingBracket_spares nowTs posQty takePrice stopPrice cycle

theorem maybeEmitRepairIntents_spares (nowTs : Int) :
    SparesEntries strategy (strategy.maybeEmitRepairIntents ids ctx nowTs) := by
  unfold maybeEmitRepairIntents
  dsimp only
  split
  case isTrue => exact ⟨rfl, rfl⟩
  case isFalse =>
    split
    case h_1 =>
      split
      case isTrue => exact .refl strategy
      case isFalse => exact emitStopEscalation_spares nowTs _
    case h_2 =>
      split
      case isTrue => exact .refl strategy
      case isFalse =>
        split
        case h_1 => exact ⟨rfl, rfl⟩
        case h_2 =>
          split
          case h_1 => exact repairBracket_spares nowTs _ _ _ _
          case h_2 => exact ⟨rfl, rfl⟩

/-- The repair of a bracket never ends the safe mode. -/
theorem maybeEmitRepairIntents_safeMode (nowTs : Int) (safe : strategy.safeModeCloseOnly = true) :
    (strategy.maybeEmitRepairIntents ids ctx nowTs).1.safeModeCloseOnly = true := by
  have missing : ∀ posQty takePrice stopPrice cycle,
      (strategy.emitMissingBracket ids ctx nowTs posQty takePrice stopPrice cycle).1.safeModeCloseOnly = true := by
    intro posQty takePrice stopPrice cycle
    unfold emitMissingBracket
    cases strategy.hasTp <;> cases strategy.hasSl <;> exact safe
  unfold maybeEmitRepairIntents
  dsimp only
  split
  case isTrue => exact safe
  case isFalse =>
    split
    case h_1 =>
      split
      case isTrue => exact safe
      case isFalse => rfl
    case h_2 =>
      split
      case isTrue => exact safe
      case isFalse =>
        split
        case h_1 => rfl
        case h_2 =>
          split
          case h_1 =>
            unfold repairBracket
            split
            case isTrue => rfl
            case isFalse =>
              split
              case isTrue => exact safe
              case isFalse =>
                split
                case isTrue => exact safe
                case isFalse =>
                  split
                  case isTrue => rfl
                  case isFalse => exact missing _ _ _ _
          case h_2 => rfl

/-! ### Deferred requests that are not issued again -/

theorem maybeReissueDeferredEntry_none {createdTsUtc : Int} {dt : NaiveDateTime} {canEmit canExecute : Bool}
    {referencePrice : Value} {deferred : DeferredEntry Value}
    (nothing : (strategy.maybeReissueDeferredEntry ids ctx createdTsUtc dt canEmit canExecute referencePrice
      deferred).2 = none) :
    (strategy.maybeReissueDeferredEntry ids ctx createdTsUtc dt canEmit canExecute referencePrice deferred).1 =
      { strategy with deferredEntry := none } := by
  unfold maybeReissueDeferredEntry at nothing ⊢
  split at nothing
  case isTrue gone => rw [if_pos gone]
  case isFalse =>
    split at nothing
    case isTrue => cases nothing
    case isFalse => cases nothing

theorem maybeReissueDeferredExit_none {createdTsUtc : Int} {canEmit canExecute : Bool} {referencePrice : Value}
    {deferred : DeferredExit}
    (nothing : (strategy.maybeReissueDeferredExit ids ctx createdTsUtc canEmit canExecute referencePrice
      deferred).2 = none) :
    (strategy.maybeReissueDeferredExit ids ctx createdTsUtc canEmit canExecute referencePrice deferred).1 =
      { strategy with deferredExit := none } := by
  unfold maybeReissueDeferredExit at nothing ⊢
  split at nothing
  case isTrue gone => rw [if_pos gone]
  case isFalse =>
    split at nothing
    case isTrue => cases nothing
    case isFalse => cases nothing

end TradingGateway.HybridIntraday.HybridIntradayRuntimeStrategy
