import TradingGateway.HybridIntraday.ProtectiveOrders
import TradingGateway.HybridIntraday.SampleStrategy

/-! Which protective orders have been named in a clean-up, over whole runs. -/

set_option autoImplicit false

namespace TradingGateway.HybridIntraday

open BrokerCore.Identifiers BrokerCore.Orders Foundation.MachineNumbers Foundation.Runs
open HybridIntradayRuntimeStrategy

/-! ### One leg of a bracket -/

section Legs

variable {Id : Type}

/-- The id needs no slot: it is not of the leg, has been named, or does not work. -/
def AccountedFor (working tagged named : List Id) (id : Id) : Prop :=
  id ∉ tagged ∨ id ∈ named ∨ id ∉ working

def LegCovered (isOpen : Prop) (working tagged named : List Id) (slot : Option Id) : Prop :=
  ∀ id ∈ working, id ∈ tagged → id ∈ named ∨ (slot = some id ∧ isOpen)

variable {isOpen : Prop} {working tagged named : List Id} {slot : Option Id}

theorem LegCovered.weaken {opened : Prop} (covered : LegCovered isOpen working tagged named slot)
    (implies : isOpen → opened) : LegCovered opened working tagged named slot := by
  intro id works ofLeg
  exact (covered id works ofLeg).imp_right fun held => ⟨held.1, implies held.2⟩

/-- An id that the slot loses has to be accounted for. -/
theorem LegCovered.drop (covered : LegCovered isOpen working tagged named slot)
    (accounted : ∀ other ∈ slot, AccountedFor working tagged named other) (next : Option Id) :
    LegCovered isOpen working tagged named next := by
  intro id works ofLeg
  rcases covered id works ofLeg with known | ⟨held, -⟩
  · exact .inl known
  · rcases accounted id held with other | known | idle
    · exact absurd ofLeg other
    · exact .inl known
    · exact absurd works idle

/-- Once the slot is empty, everything is named, whatever the position is. -/
theorem LegCovered.empty (covered : LegCovered isOpen working tagged named none) (opened : Prop) :
    LegCovered opened working tagged named none := by
  intro id works ofLeg
  rcases covered id works ofLeg with known | ⟨held, -⟩
  · exact .inl known
  · cases held

variable [DecidableEq Id]

theorem LegCovered.settle {names : List Id} {next : Option Id} (covered : LegCovered isOpen working tagged named slot)
    (settles : ∀ id ∈ slot, next = some id ∨ id ∈ names) :
    LegCovered isOpen working tagged (named ++ names.filter (· ∈ tagged)) next := by
  intro id works ofLeg
  rw [List.mem_append, List.mem_filter, decide_eq_true_eq]
  rcases covered id works ofLeg with known | ⟨held, opened⟩
  · exact .inl (.inl known)
  · rcases settles id held with kept | nameNow
    · exact .inr ⟨kept, opened⟩
    · exact .inl (.inr ⟨nameNow, ofLeg⟩)

theorem LegCovered.report (covered : LegCovered isOpen working tagged named slot) {id : Id}
    (accounted : ∀ other ∈ slot, other = id ∨ AccountedFor working tagged named other)
    (known : isOpen ∨ id ∈ named) :
    LegCovered isOpen (working.insert id) (tagged.insert id) named (some id) := by
  intro other works ofLeg
  by_cases same : other = id
  · subst same
    exact known.symm.imp_right fun opened => ⟨rfl, opened⟩
  · rw [List.mem_insert_iff] at works ofLeg
    refine .inl ?_
    rcases covered other (works.resolve_left same) (ofLeg.resolve_left same) with named | ⟨held, -⟩
    · exact named
    · rcases accounted other held with isSame | otherLeg | known | idle
      · exact absurd isSame same
      · exact absurd (ofLeg.resolve_left same) otherLeg
      · exact known
      · exact absurd (works.resolve_left same) idle

theorem LegCovered.finish (covered : LegCovered isOpen working tagged named slot) {id : Id}
    (accounted : ∀ other ∈ slot, other = id ∨ AccountedFor working tagged named other) :
    LegCovered isOpen (working.filter (· ≠ id)) tagged named none := by
  intro other works ofLeg
  rw [List.mem_filter, decide_eq_true_eq] at works
  rcases covered other works.1 ofLeg with known | ⟨held, -⟩
  · exact .inl known
  · rcases accounted other held with same | otherLeg | known | idle
    · exact absurd same works.2
    · exact absurd ofLeg otherLeg
    · exact .inl known
    · exact absurd works.1 idle

/-- An order of another role that is reported working. -/
theorem LegCovered.reportOther (covered : LegCovered isOpen working tagged named slot) (id : Id) :
    LegCovered isOpen (working.insert id) (tagged.filter (· ≠ id)) named slot := by
  intro other works ofLeg
  rw [List.mem_filter, decide_eq_true_eq] at ofLeg
  rw [List.mem_insert_iff] at works
  exact covered other (works.resolve_left ofLeg.2) ofLeg.1

theorem LegCovered.finishOther (covered : LegCovered isOpen working tagged named slot) (id : Id) :
    LegCovered isOpen (working.filter (· ≠ id)) tagged named slot := by
  intro other works ofLeg
  exact covered other (List.mem_of_mem_filter works) ofLeg

end Legs

/-! ### What a run has reported and named -/

/-- The take-profit and stop orders that were reported working, and those of them that were named since. -/
structure Protection where
  takeProfits : List BrokerOrderId
  cancelled : List BrokerOrderId
  stopLosses : List BrokerStopOrderId
  deleted : List BrokerStopOrderId

structure Watched (Value : Type) where
  strategy : HybridIntradayRuntimeStrategy Value
  protection : Protection

section Watching

variable {Value : Type}

def Protection.reportOrder (protection : Protection) (order : OrderEvent) : Protection :=
  if isTerminalOrderStatus (asciiLowercase order.status) then protection
  else
    { protection with
      takeProfits :=
        if hasRole .tp order.comment then protection.takeProfits.insert order.orderId
        else protection.takeProfits.filter (· ≠ order.orderId) }

def Protection.reportStopOrder (protection : Protection) (order : StopOrderEvent) : Protection :=
  if isTerminalStopOrderStatus (asciiLowercase order.status) then protection
  else
    { protection with
      stopLosses :=
        if hasRole .sl order.comment then protection.stopLosses.insert order.stopOrderId
        else protection.stopLosses.filter (· ≠ order.stopOrderId) }

def IsOurs (strategy : HybridIntradayRuntimeStrategy Value) (ctx : StrategyCtx Value) (symbol : String)
    (comment : Option String) : Prop :=
  symbol = strategy.config.symbol ∧ isOurTag ctx comment

instance (strategy : HybridIntradayRuntimeStrategy Value) (ctx : StrategyCtx Value) (symbol : String)
    (comment : Option String) : Decidable (IsOurs strategy ctx symbol comment) :=
  inferInstanceAs (Decidable (_ ∧ _))

/-- What an event about an order of the strategy does to the positions and the slots. -/
theorem onOrder_spec {strategy : HybridIntradayRuntimeStrategy Value} {ctx : StrategyCtx Value} {order : OrderEvent}
    (ours : IsOurs strategy ctx order.symbol order.comment) (nowMs : Int) :
    ∃ next : HybridIntradayRuntimeStrategy Value, strategy.onOrder ctx nowMs order = (next, []) ∧
      slots next =
        (if isTerminalOrderStatus (asciiLowercase order.status) then strategy.workingOrders.filter (· ≠ order.orderId)
          else strategy.workingOrders.insert order.orderId,
          strategy.workingStopOrders, strategy.lastPositionQty,
          if hasRole .tp order.comment then
            if isTerminalOrderStatus (asciiLowercase order.status) then none else some order.orderId
          else strategy.tpOrderId,
          strategy.slStopOrderId) := by
  unfold onOrder
  rw [if_neg fun other => other.elim (fun foreign => foreign ours.1) fun foreign => foreign ours.2]
  refine ⟨_, rfl, ?_⟩
  unfold slots trackOrder
  by_cases role : hasRole .tp order.comment
  · unfold noteTakeProfit
    rw [if_pos role, if_pos role]
    dsimp only
    split <;> split <;> rfl
  · rw [if_neg role, if_neg role]
    split <;> rfl

theorem trackStopOrder_slots (strategy : HybridIntradayRuntimeStrategy Value) (orderId : BrokerStopOrderId)
    (status : String) :
    slots (strategy.trackStopOrder orderId status) =
      (strategy.workingOrders,
        if isTerminalStopOrderStatus status then strategy.workingStopOrders.filter (· ≠ orderId)
        else strategy.workingStopOrders.insert orderId,
        strategy.lastPositionQty, strategy.tpOrderId, strategy.slStopOrderId) := by
  unfold trackStopOrder
  cases isTerminalStopOrderStatus status <;> rfl

/-- A triggered stop empties the slot of the take-profit order, and names that. -/
theorem noteStopLoss_spec (strategy : HybridIntradayRuntimeStrategy Value) (nowMs : Int) (order : StopOrderEvent)
    (status : String) :
    let result := strategy.noteStopLoss nowMs order status
    result.1.workingOrders = strategy.workingOrders ∧ result.1.workingStopOrders = strategy.workingStopOrders ∧
      result.1.lastPositionQty = strategy.lastPositionQty ∧
      result.1.slStopOrderId = (if isTerminalStopOrderStatus status then none else some order.stopOrderId) ∧
      ∀ orderId ∈ strategy.tpOrderId, result.1.tpOrderId = some orderId ∨ orderId ∈ cancelledIds result.2 := by
  unfold noteStopLoss
  dsimp only
  split
  case isTrue =>
    refine ⟨rfl, rfl, rfl, rfl, ?_⟩
    intro orderId held
    rw [cancelledIds_cancelCleanup]
    exact .inr (Option.mem_toList.2 held)
  case isFalse => exact ⟨rfl, rfl, rfl, rfl, fun orderId held => .inl held⟩

/-- What an event about a stop order of the strategy does to the positions and the slots. -/
theorem onStopOrder_spec {strategy : HybridIntradayRuntimeStrategy Value} {ctx : StrategyCtx Value}
    {order : StopOrderEvent} (ours : IsOurs strategy ctx order.symbol order.comment) (nowMs : Int) :
    ∃ (next : HybridIntradayRuntimeStrategy Value) (intents : List (Intent Value)),
      strategy.onStopOrder ctx nowMs order = (next, intents) ∧
      next.workingOrders = strategy.workingOrders ∧
      next.workingStopOrders =
        (if isTerminalStopOrderStatus (asciiLowercase order.status) then
          strategy.workingStopOrders.filter (· ≠ order.stopOrderId)
        else strategy.workingStopOrders.insert order.stopOrderId) ∧
      next.lastPositionQty = strategy.lastPositionQty ∧
      (∀ orderId ∈ strategy.tpOrderId, next.tpOrderId = some orderId ∨ orderId ∈ cancelledIds intents) ∧
      next.slStopOrderId =
        if hasRole .sl order.comment then
          if isTerminalStopOrderStatus (asciiLowercase order.status) then none else some order.stopOrderId
        else strategy.slStopOrderId := by
  unfold onStopOrder
  rw [if_neg fun other => other.elim (fun foreign => foreign ours.1) fun foreign => foreign ours.2]
  dsimp only
  generalize adopts : (if isTerminalStopOrderStatus (asciiLowercase order.status) then strategy
    else strategy.ensureActiveCycleFromComment order.comment) = adopted
  have same : slots adopted = slots strategy := by
    rw [← adopts]
    split <;> rfl
  unfold slots at same
  simp only [Prod.mk.injEq] at same
  obtain ⟨sameOrders, sameStopOrders, sameQty, sameTakeProfit, sameStopLoss⟩ := same
  by_cases role : hasRole .sl order.comment
  · have noted := noteStopLoss_spec adopted nowMs order (asciiLowercase order.status)
    dsimp only at noted
    obtain ⟨orders, stopOrders, qty, stopLoss, takeProfit⟩ := noted
    refine ⟨_, _, rfl, ?_⟩
    simp only [if_pos role]
    have tracked := trackStopOrder_slots (adopted.noteStopLoss nowMs order (asciiLowercase order.status)).1
      order.stopOrderId (asciiLowercase order.status)
    unfold slots at tracked
    simp only [Prod.mk.injEq] at tracked
    obtain ⟨trackedOrders, trackedStopOrders, trackedQty, trackedTakeProfit, trackedStopLoss⟩ := tracked
    rw [trackedOrders, trackedStopOrders, trackedQty, trackedTakeProfit, trackedStopLoss, orders, stopOrders, qty,
      stopLoss, sameOrders, sameStopOrders, sameQty, ← sameTakeProfit]
    exact ⟨rfl, rfl, rfl, takeProfit, rfl⟩
  · refine ⟨_, _, rfl, ?_⟩
    simp only [if_neg role]
    have tracked := trackStopOrder_slots adopted order.stopOrderId (asciiLowercase order.status)
    unfold slots at tracked
    simp only [Prod.mk.injEq] at tracked
    obtain ⟨trackedOrders, trackedStopOrders, trackedQty, trackedTakeProfit, trackedStopLoss⟩ := tracked
    rw [trackedOrders, trackedStopOrders, trackedQty, trackedTakeProfit, trackedStopLoss, sameOrders, sameStopOrders,
      sameQty, sameTakeProfit, sameStopLoss]
    exact ⟨rfl, rfl, rfl, fun orderId held => .inl held, rfl⟩

def Protection.report (protection : Protection) (strategy : HybridIntradayRuntimeStrategy Value) :
    Callback Value → Protection
  | .order ctx _ order =>
      if IsOurs strategy ctx order.symbol order.comment then protection.reportOrder order else protection
  | .stopOrder ctx _ order =>
      if IsOurs strategy ctx order.symbol order.comment then protection.reportStopOrder order else protection
  | _ => protection

def Protection.name (protection : Protection) (intents : List (Intent Value)) : Protection :=
  { protection with
    cancelled := protection.cancelled ++ (cancelledIds intents).filter (· ∈ protection.takeProfits)
    deleted := protection.deleted ++ (deletedIds intents).filter (· ∈ protection.stopLosses) }

variable [F64 Value] (ids : RequestIds) (watched : Watched Value)

def Watched.after (callback : Callback Value) : Watched Value :=
  { strategy := watched.strategy.after ids callback
    protection := (watched.protection.report watched.strategy callback).name (watched.strategy.returned ids callback) }

def Watched.fresh (config : HybridIntradayRuntimeConfig Value) : Watched Value :=
  { strategy := new config
    protection := { takeProfits := [], cancelled := [], stopLosses := [], deleted := [] } }

/-- Without a position, every working protective order has been named in a clean-up. -/
def Protected : Prop :=
  IsFlat watched.strategy.lastPositionQty →
    (∀ orderId ∈ watched.strategy.workingOrders, orderId ∈ watched.protection.takeProfits →
      orderId ∈ watched.protection.cancelled) ∧
    ∀ orderId ∈ watched.strategy.workingStopOrders, orderId ∈ watched.protection.stopLosses →
      orderId ∈ watched.protection.deleted

instance : Decidable (Protected watched) := inferInstanceAs (Decidable (_ → _ ∧ _))

def OpenPosition (qty : Value) : Prop := IsOpen qty ∧ ¬ IsFlat qty

instance (qty : Value) : Decidable (OpenPosition qty) := inferInstanceAs (Decidable (_ ∧ _))

def TakeProfitAccounted (orderId : BrokerOrderId) : Prop :=
  AccountedFor watched.strategy.workingOrders watched.protection.takeProfits watched.protection.cancelled orderId

def StopLossAccounted (orderId : BrokerStopOrderId) : Prop :=
  AccountedFor watched.strategy.workingStopOrders watched.protection.stopLosses watched.protection.deleted orderId

instance : DecidablePred (TakeProfitAccounted watched) := fun _ => inferInstanceAs (Decidable (_ ∨ _ ∨ _))
/-- A protective order is reported working while the position is open, or has been named already; it,
and the refusal of an entry, take no other order out of a slot that is not accounted for; and
positions are numbers. -/
def LegsAccounted : Callback Value → Prop
  | .order ctx _ order =>
      IsOurs watched.strategy ctx order.symbol order.comment → hasRole .tp order.comment →
        (∀ other ∈ watched.strategy.tpOrderId, other = order.orderId ∨ TakeProfitAccounted watched other) ∧
        (isTerminalOrderStatus (asciiLowercase order.status) = false →
          OpenPosition watched.strategy.lastPositionQty ∨ order.orderId ∈ watched.protection.cancelled)
  | .stopOrder ctx _ order =>
      IsOurs watched.strategy ctx order.symbol order.comment → hasRole .sl order.comment →
        (∀ other ∈ watched.strategy.slStopOrderId, other = order.stopOrderId ∨ StopLossAccounted watched other) ∧
        (isTerminalStopOrderStatus (asciiLowercase order.status) = false →
          OpenPosition watched.strategy.lastPositionQty ∨ order.stopOrderId ∈ watched.protection.deleted)
  | .ack _ ack =>
      some ack.requestId = watched.strategy.pendingEntryRequestId → isNegative ack →
        (∀ other ∈ watched.strategy.tpOrderId, TakeProfitAccounted watched other) ∧
        ∀ other ∈ watched.strategy.slStopOrderId, StopLossAccounted watched other
  | .position _ _ pos => pos.symbol = watched.strategy.config.symbol → IsNumber pos.qty
  | _ => True

/-- Each working protective order has been named, or is in its slot while the position is open. -/
structure Covered : Prop where
  takeProfits : LegCovered (OpenPosition watched.strategy.lastPositionQty) watched.strategy.workingOrders
    watched.protection.takeProfits watched.protection.cancelled watched.strategy.tpOrderId
  stopLosses : LegCovered (OpenPosition watched.strategy.lastPositionQty) watched.strategy.workingStopOrders
    watched.protection.stopLosses watched.protection.deleted watched.strategy.slStopOrderId

variable {ids} {watched}

theorem Covered.protected (covered : Covered watched) : Protected watched := by
  intro flat
  refine ⟨?_, ?_⟩
  · intro orderId works ofLeg
    exact (covered.takeProfits orderId works ofLeg).resolve_right fun held => held.2.2 flat
  · intro orderId works ofLeg
    exact (covered.stopLosses orderId works ofLeg).resolve_right fun held => held.2.2 flat

/-! ### What one callback keeps -/

theorem Covered.settle (covered : Covered watched)
    {result : HybridIntradayRuntimeStrategy Value × List (Intent Value)} (settles : Settles watched.strategy result) :
    Covered { strategy := result.1, protection := watched.protection.name result.2 } := by
  refine ⟨?_, ?_⟩
  · dsimp only [Protection.name]
    rw [settles.workingOrders, settles.lastPositionQty]
    exact covered.takeProfits.settle settles.takeProfit
  · dsimp only [Protection.name]
    rw [settles.workingStopOrders, settles.lastPositionQty]
    exact covered.stopLosses.settle settles.stopLoss

theorem Covered.onPosition (covered : Covered watched) {ctx : StrategyCtx Value} {nowMs : Int}
    {pos : PositionEvent Value} (isNumber : IsNumber pos.qty) :
    Covered {
      strategy := (watched.strategy.explainPosition ids ctx nowMs pos).1.setPositionQty pos.qty
      protection := watched.protection.name (watched.strategy.explainPosition ids ctx nowMs pos).2 } := by
  have settles := @explainPosition_settles Value watched.strategy ctx ids _ nowMs pos
  obtain ⟨takeProfits, stopLosses⟩ := covered.settle settles
  dsimp only at takeProfits stopLosses
  rw [settles.lastPositionQty] at takeProfits stopLosses
  by_cases opens : OpenPosition pos.qty
  · exact ⟨takeProfits.weaken fun _ => opens, stopLosses.weaken fun _ => opens⟩
  · have notOpen : ¬ IsOpen pos.qty := fun opened => opens ⟨opened, isNumber.1 opened⟩
    have flat : IsFlat pos.qty := by
      by_contra notFlat
      exact notOpen (isNumber.2 notFlat)
    by_cases opened : OpenPosition watched.strategy.lastPositionQty
    · obtain ⟨noTakeProfit, noStopLoss⟩ :=
        @explainPosition_closes Value watched.strategy ctx ids _ nowMs pos opened.1 flat notOpen
      rw [noTakeProfit] at takeProfits
      rw [noStopLoss] at stopLosses
      refine ⟨?_, ?_⟩
      · dsimp only [setPositionQty]
        rw [noTakeProfit]
        exact takeProfits.empty _
      · dsimp only [setPositionQty]
        rw [noStopLoss]
        exact stopLosses.empty _
    · exact ⟨takeProfits.weaken fun impossible => absurd impossible opened,
        stopLosses.weaken fun impossible => absurd impossible opened⟩

theorem Covered.order (covered : Covered watched) {ctx : StrategyCtx Value} {nowMs : Int} {order : OrderEvent}
    (accounted : LegsAccounted watched (.order ctx nowMs order)) : Covered (watched.after ids (.order ctx nowMs order)) := by
  unfold Watched.after Protection.report HybridIntradayRuntimeStrategy.after returned call
  dsimp only
  by_cases ours : IsOurs watched.strategy ctx order.symbol order.comment
  · rw [if_pos ours]
    obtain ⟨next, returns, spec⟩ := onOrder_spec ours nowMs
    rw [returns]
    unfold slots at spec
    simp only [Prod.mk.injEq] at spec
    obtain ⟨workingOrders, workingStopOrders, lastPositionQty, takeProfit, stopLoss⟩ := spec
    have noneNamed : (watched.protection.reportOrder order).name ([] : List (Intent Value)) =
        watched.protection.reportOrder order := by
      simp [Protection.name, cancelledIds, deletedIds]
    dsimp only
    rw [noneNamed]
    refine ⟨?_, ?_⟩
    · dsimp only
      rw [workingOrders, lastPositionQty, takeProfit]
      unfold Protection.reportOrder
      by_cases role : hasRole .tp order.comment
      · obtain ⟨slotAccounted, known⟩ := accounted ours role
        cases terminal : isTerminalOrderStatus (asciiLowercase order.status) with
        | true =>
            simp only [if_true, if_pos role]
            exact covered.takeProfits.finish slotAccounted
        | false =>
            simp only [Bool.false_eq_true, if_false, if_pos role]
            exact covered.takeProfits.report slotAccounted (known terminal)
      · cases isTerminalOrderStatus (asciiLowercase order.status) with
        | true =>
            simp only [if_true, if_neg role]
            exact covered.takeProfits.finishOther order.orderId
        | false =>
            simp only [Bool.false_eq_true, if_false, if_neg role]
            exact covered.takeProfits.reportOther order.orderId
    · dsimp only
      rw [workingStopOrders, lastPositionQty, stopLoss]
      unfold Protection.reportOrder
      split
      case isTrue => exact covered.stopLosses
      case isFalse => exact covered.stopLosses
  · rw [if_neg ours]
    have unchanged : watched.strategy.onOrder ctx nowMs order = (watched.strategy, []) := by
      unfold onOrder
      rw [if_pos]
      by_contra other
      rw [not_or, not_not, not_not] at other
      exact ours other
    rw [unchanged]
    exact covered.settle (.refl _ [])

theorem Covered.stopOrder (covered : Covered watched) {ctx : StrategyCtx Value} {nowMs : Int} {order : StopOrderEvent}
    (accounted : LegsAccounted watched (.stopOrder ctx nowMs order)) :
    Covered (watched.after ids (.stopOrder ctx nowMs order)) := by
  unfold Watched.after Protection.report HybridIntradayRuntimeStrategy.after returned call
  dsimp only
  by_cases ours : IsOurs watched.strategy ctx order.symbol order.comment
  · rw [if_pos ours]
    obtain ⟨next, intents, returns, workingOrders, workingStopOrders, lastPositionQty, takeProfit, stopLoss⟩ :=
      onStopOrder_spec ours nowMs
    rw [returns]
    dsimp only
    refine ⟨?_, ?_⟩
    · dsimp only [Protection.name]
      rw [workingOrders, lastPositionQty]
      have sameReports : (watched.protection.reportStopOrder order).takeProfits = watched.protection.takeProfits ∧
          (watched.protection.reportStopOrder order).cancelled = watched.protection.cancelled := by
        unfold Protection.reportStopOrder
        split <;> exact ⟨rfl, rfl⟩
      rw [sameReports.1, sameReports.2]
      exact covered.takeProfits.settle takeProfit
    · dsimp only [Protection.name]
      rw [lastPositionQty]
      refine LegCovered.settle ?_ fun orderId held => .inl held
      rw [workingStopOrders, stopLoss]
      unfold Protection.reportStopOrder
      by_cases role : hasRole .sl order.comment
      · obtain ⟨slotAccounted, known⟩ := accounted ours role
        cases terminal : isTerminalStopOrderStatus (asciiLowercase order.status) with
        | true =>
            simp only [if_true, if_pos role]
            exact covered.stopLosses.finish slotAccounted
        | false =>
            simp only [Bool.false_eq_true, if_false, if_pos role]
            exact covered.stopLosses.report slotAccounted (known terminal)
      · cases isTerminalStopOrderStatus (asciiLowercase order.status) with
        | true =>
            simp only [if_true, if_neg role]
            exact covered.stopLosses.finishOther order.stopOrderId
        | false =>
            simp only [Bool.false_eq_true, if_false, if_neg role]
            exact covered.stopLosses.reportOther order.stopOrderId
  · rw [if_neg ours]
    have unchanged : watched.strategy.onStopOrder ctx nowMs order = (watched.strategy, []) := by
      unfold onStopOrder
      rw [if_pos]
      by_contra other
      rw [not_or, not_not, not_not] at other
      exact ours other
    rw [unchanged]
    exact covered.settle (.refl _ [])

theorem Covered.ack (covered : Covered watched) {ctx : StrategyCtx Value} {ack : CommandAck}
    (accounted : LegsAccounted watched (.ack ctx ack)) : Covered (watched.after ids (.ack ctx ack)) := by
  unfold Watched.after Protection.report HybridIntradayRuntimeStrategy.after returned call onAck
  dsimp only
  split
  case isTrue entry =>
    split
    case isTrue negative =>
      obtain ⟨takeProfits, stopLosses⟩ := accounted entry negative
      have named : watched.protection.name ([] : List (Intent Value)) = watched.protection := by
        simp [Protection.name, cancelledIds, deletedIds]
      dsimp only
      rw [named]
      unfold rejectEntry
      dsimp only
      split
      case isTrue => exact ⟨covered.takeProfits.drop takeProfits none, covered.stopLosses.drop stopLosses none⟩
      case isFalse => exact ⟨covered.takeProfits.drop takeProfits none, covered.stopLosses.drop stopLosses none⟩
    case isFalse => exact covered.settle (.refl _ [])
  case isFalse =>
    refine covered.settle ?_
    split
    case isTrue =>
      split
      case isTrue =>
        unfold rejectExit
        split
        case isTrue =>
          have numbered := @activeOrNextCycle_settles Value watched.strategy ack.processedTsUtc []
          generalize watched.strategy.activeOrNextCycle ack.processedTsUtc = answer at numbered ⊢
          obtain ⟨numberedState, cycle⟩ := answer
          exact numbered.ahead rfl
        case isFalse => exact .still rfl
      case isFalse => exact .refl _ []
    case isFalse =>
      split
      case isTrue =>
        split
        case isTrue => exact .still rfl
        case isFalse => exact .refl _ []
      case isFalse =>
        split
        case isTrue =>
          split
          case isTrue => exact .still rfl
          case isFalse => exact .refl _ []
        case isFalse =>
          unfold retrySiblingCleanup
          split
          case isTrue => exact .still rfl
          case isFalse => exact .refl _ []

theorem Covered.next (covered : Covered watched) {callback : Callback Value} (running : IsRunning callback)
    (accounted : LegsAccounted watched callback) : Covered (watched.after ids callback) := by
  cases callback with
  | bar ctx bar => exact covered.settle (onBar_settles bar)
  | ack ctx ack => exact covered.ack accounted
  | order ctx nowMs order => exact covered.order accounted
  | stopOrder ctx nowMs order => exact covered.stopOrder accounted
  | position ctx nowMs pos =>
      unfold Watched.after Protection.report HybridIntradayRuntimeStrategy.after returned call
      dsimp only
      unfold HybridIntradayRuntimeStrategy.onPosition
      dsimp only
      split
      case isTrue => exact covered.settle (.refl _ [])
      case isFalse sameSymbol => exact covered.onPosition (accounted (not_not.1 sameSymbol))
  | timer ctx nowTsUtcMs => exact covered.settle (onTimer_settles nowTsUtcMs)
  | bootstrapSnapshot ctx snapshot => exact absurd running id
  | runtimeStateRestored ctx => exact absurd running id

end Watching

/-- Over a run from the start in which legs are accounted for, no protective order outlives the
position without having been named in a clean-up. -/
theorem no_protective_order_outlives {Value : Type} [F64 Value] (ids : RequestIds)
    (config : HybridIntradayRuntimeConfig Value) (callbacks : List (Callback Value))
    (running : ∀ callback ∈ callbacks, IsRunning callback)
    (accounted : EveryStep (Watched.after ids) LegsAccounted (Watched.fresh config) callbacks) :
    EveryStep (Watched.after ids) (fun watched callback => Protected (watched.after ids callback))
      (Watched.fresh config) callbacks := by
  have start : Covered (Watched.fresh config) :=
    ⟨fun _ works => absurd works List.not_mem_nil, fun _ works => absurd works List.not_mem_nil⟩
  refine EveryStep.of_invariant ?_ start running accounted
  intro watched callback covered runs legs
  have next := @Covered.next _ _ ids watched covered callback runs legs
  exact ⟨next.protected, next⟩

/-- The comment that a limit order is placed with. -/
def placedComment {Value : Type} (intent : Intent Value) : Option String :=
  match intent.baseIntent with
  | .place _ _ _ comment => comment
  | _ => none

/-- Every order reported carries the comment of a limit order placed by an earlier callback. -/
def ReportsPlaced {Value : Type} [F64 Value] (ids : RequestIds) :
    HybridIntradayRuntimeStrategy Value → List String → List (Callback Value) → Prop
  | _, _, [] => True
  | strategy, placed, callback :: rest =>
      (match callback with
        | .order _ _ order => ∃ comment ∈ placed, order.comment = some comment
        | _ => True) ∧
      ReportsPlaced ids (strategy.after ids callback)
        (placed ++ (strategy.returned ids callback).filterMap placedComment) rest

/-- Two days of live bars, of which the last one enters by mean reversion, and the fill, which asks for a
take-profit order. -/
def enteredRun : List (Callback Float) :=
  [.bar (sampleCtx .live none 1767596400) (flatBar 100 1767596400),
    .bar (sampleCtx .live none 1767600000) (flatBar 102 1767600000),
    .bar (sampleCtx .live none 1767682800) (flatBar 101.95 1767682800),
    .position (sampleCtx .live none 1767682810) 1767682810000 (positionEvent 1 1767682810)]

def enteredTakeProfit (status : String) : OrderEvent :=
  { takeProfitEvent status with comment := some "HYB|sid=hyb-test|c=695cb2f000|o=MR|r=TP" }

/-- The take-profit order works while the position is open, and is cancelled when that is closed. -/
def closedRun : List (Callback Float) :=
  enteredRun ++
    [.order (sampleCtx .live none 1767682820) 1767682820000 (enteredTakeProfit "working"),
      .position (sampleCtx .live none 1767682830) 1767682830000 (positionEvent 0 1767682830),
      .order (sampleCtx .live none 1767682840) 1767682840000 (enteredTakeProfit "canceled")]

theorem no_protective_order_outlives_closed :
    (∀ callback ∈ closedRun, IsRunning callback) ∧
      EveryStep (Watched.after sampleIds) (fun watched callback => Protected (watched.after sampleIds callback))
        (Watched.fresh (sampleConfig Float)) closedRun := by
  have running : ∀ callback ∈ closedRun, IsRunning callback := by
    intro callback member
    simp only [closedRun, enteredRun, List.cons_append, List.nil_append, List.mem_cons, List.not_mem_nil,
      or_false] at member
    rcases member with rfl | rfl | rfl | rfl | rfl | rfl | rfl <;> trivial
  have accounted : EveryStep (Watched.after sampleIds) LegsAccounted (Watched.fresh (sampleConfig Float)) closedRun :=
    ⟨trivial, trivial, trivial, fun _ => by decide, fun _ _ => by decide, fun _ => by decide,
      fun _ _ => by decide, trivial⟩
  exact ⟨running, no_protective_order_outlives sampleIds (sampleConfig Float) closedRun running accounted⟩

/-- The take-profit order is reported working only once the position is closed. -/
def lateReportRun : List (Callback Float) :=
  enteredRun ++
    [.position (sampleCtx .live none 1767682830) 1767682830000 (positionEvent 0 1767682830),
      .order (sampleCtx .live none 1767682840) 1767682840000 (enteredTakeProfit "working")]

/-- A take-profit order that is reported late is never cancelled. -/
theorem late_take_profit_outlives :
    ¬ ∀ (config : HybridIntradayRuntimeConfig Float) (callbacks : List (Callback Float)),
      (∀ callback ∈ callbacks, IsRunning callback) → ReportsPlaced sampleIds (new config) [] callbacks →
        EveryStep (Watched.after sampleIds) (fun watched callback => Protected (watched.after sampleIds callback))
          (Watched.fresh config) callbacks := by
  intro all
  have running : ∀ callback ∈ lateReportRun, IsRunning callback := by
    intro callback member
    simp only [lateReportRun, enteredRun, List.cons_append, List.nil_append, List.mem_cons, List.not_mem_nil,
      or_false] at member
    rcases member with rfl | rfl | rfl | rfl | rfl | rfl <;> trivial
  have placed : ReportsPlaced sampleIds (new (sampleConfig Float)) [] lateReportRun :=
    ⟨trivial, trivial, trivial, trivial, trivial, by decide, trivial⟩
  have outlives : ¬ EveryStep (Watched.after sampleIds)
      (fun watched callback => Protected (watched.after sampleIds callback)) (Watched.fresh (sampleConfig Float))
      lateReportRun := by
    decide +kernel
  exact outlives (all (sampleConfig Float) lateReportRun running placed)

end TradingGateway.HybridIntraday
