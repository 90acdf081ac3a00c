import TradingGateway.HybridIntraday.RuntimeCallbacks

/-! How many intents of a class a callback returns. -/

set_option autoImplicit false

namespace TradingGateway.HybridIntraday

open BrokerCore.Identifiers BrokerCore.Orders Foundation.MachineNumbers HybridIntradayRuntimeStrategy

variable {Value : Type}

def classCount (intentClass : IntentClass) (intents : List (Intent Value)) : Nat :=
  intents.countP fun intent => intent.explicitClass = some intentClass

abbrev exitCount (intents : List (Intent Value)) : Nat := classCount .exit intents

abbrev entryCount (intents : List (Intent Value)) : Nat := classCount .entry intents

@[simp] theorem classCount_nil (intentClass : IntentClass) : classCount intentClass ([] : List (Intent Value)) = 0 := rfl

@[simp] theorem classCount_append (intentClass : IntentClass) (left right : List (Intent Value)) :
    classCount intentClass (left ++ right) = classCount intentClass left + classCount intentClass right :=
  List.countP_append

theorem exitCount_append (left right : List (Intent Value)) :
    exitCount (left ++ right) = exitCount left + exitCount right :=
  classCount_append .exit left right

theorem entryCount_append (left right : List (Intent Value)) :
    entryCount (left ++ right) = entryCount left + entryCount right :=
  classCount_append .entry left right

@[simp] theorem classCount_withClass (intentClass other : IntentClass) (intent : Intent Value)
    (rest : List (Intent Value)) :
    classCount intentClass (intent.withClass other :: rest) =
      (if other = intentClass then 1 else 0) + classCount intentClass rest := by
  unfold classCount
  rw [List.countP_cons, Nat.add_comm]
  simp [Intent.withClass, Intent.explicitClass]

@[simp] theorem classCount_cancelCleanup {intentClass : IntentClass} (other : intentClass ≠ .cancelCleanup)
    (orderIds : List BrokerOrderId) : classCount intentClass (orderIds.map (@cancelCleanup Value)) = 0 := by
  unfold classCount
  rw [List.countP_eq_zero]
  intro intent member
  obtain ⟨orderId, -, rfl⟩ := List.mem_map.1 member
  simp [cancelCleanup, Intent.withClass, Intent.explicitClass, other.symm]

@[simp] theorem classCount_deleteStopCleanup {intentClass : IntentClass} (other : intentClass ≠ .cancelCleanup)
    (side : Option OrderSide) (orderIds : List BrokerStopOrderId) :
    classCount intentClass (orderIds.map (@deleteStopCleanup Value side)) = 0 := by
  unfold classCount
  rw [List.countP_eq_zero]
  intro intent member
  obtain ⟨orderId, -, rfl⟩ := List.mem_map.1 member
  simp [deleteStopCleanup, Intent.withClass, Intent.explicitClass, other.symm]

/-! ### Callbacks that only clean up -/

variable {strategy : HybridIntradayRuntimeStrategy Value} {ctx : StrategyCtx Value} {intentClass : IntentClass}

theorem onOrder_classCount (intentClass : IntentClass) (nowMs : Int) (order : OrderEvent) :
    classCount intentClass (strategy.onOrder ctx nowMs order).2 = 0 := by
  unfold onOrder
  split <;> rfl

theorem onStopOrder_classCount (other : intentClass ≠ .cancelCleanup) (nowMs : Int) (order : StopOrderEvent) :
    classCount intentClass (strategy.onStopOrder ctx nowMs order).2 = 0 := by
  unfold onStopOrder
  split
  case isTrue => rfl
  case isFalse =>
    dsimp only
    split
    case isTrue =>
      unfold noteStopLoss
      dsimp only
      split
      case isTrue => exact classCount_cancelCleanup other _
      case isFalse => rfl
    case isFalse => rfl

theorem closePosition_classCount (other : intentClass ≠ .cancelCleanup) :
    classCount intentClass strategy.closePosition.2 = 0 := by
  unfold closePosition emitCancelAllProtection
  simp [other]

theorem onAck_classCount [F64 Value] (other : intentClass ≠ .cancelCleanup) (ack : CommandAck) :
    classCount intentClass (strategy.onAck ack).2 = 0 := by
  unfold onAck
  split
  case isTrue => rfl
  case isFalse =>
    split
    case isTrue => rfl
    case isFalse =>
      split
      case isTrue => rfl
      case isFalse =>
        split
        case isTrue => rfl
        case isFalse =>
          unfold retrySiblingCleanup
          split
          case isTrue => exact classCount_deleteStopCleanup other _ _
          case isFalse => rfl

end TradingGateway.HybridIntraday
