import TradingGateway.HybridIntraday.BracketState
import TradingGateway.HybridIntraday.ProtectiveOrders
import TradingGateway.HybridIntraday.SampleStrategy

/-! The orchestrator and the strategy track one entry: the orchestrator waits for it only while
the strategy still holds it. -/

set_option autoImplicit false

namespace TradingGateway.HybridIntraday

open BrokerCore.Identifiers BrokerCore.Orders Foundation.MachineNumbers Foundation.Runs
open HybridIntradayRuntimeStrategy

section Proposals

variable {Value : Type}

/-- The guard against an overnight position adds an exit at most. -/
theorem appendBreakoutNoOvernightGuard_exits {strategy : HybridIntradayRuntimeStrategy Value}
    (actions : List (Action Value)) (dt : NaiveDateTime) (previousDayLocal : Option NaiveDate)
    (hasOpenPosition : Bool) :
    ∃ exits : List (Action Value), (∀ signal, Action.submitEntry signal ∉ exits) ∧
      strategy.appendBreakoutNoOvernightGuard actions dt previousDayLocal hasOpenPosition = actions ++ exits := by
  unfold appendBreakoutNoOvernightGuard
  split
  case isTrue => exact ⟨[], (fun _ => List.not_mem_nil), (List.append_nil _).symm⟩
  case isFalse =>
    split
    case isTrue => exact ⟨[], (fun _ => List.not_mem_nil), (List.append_nil _).symm⟩
    case isFalse => exact ⟨_, fun _ member => by simp at member, rfl⟩

variable [F64 Value]

/-- What the orchestrator answers: it leaves its state alone and proposes no entry, or it proposes
one and waits for it, from a flat state without live orders. -/
inductive Proposal (orchestrator : HybridOrchestrator Value) (bar : BarInput Value) :
    HybridOrchestrator Value × List (Action Value) → Prop where
  | none (next : HybridOrchestrator Value) (actions : List (Action Value)) (same : next.state = orchestrator.state)
      (noEntry : ∀ signal, Action.submitEntry signal ∉ actions) : Proposal orchestrator bar (next, actions)
  | entry (next : HybridOrchestrator Value) (signal : EntrySignal Value) (waits : next.state = .pending)
      (flat : bar.hasOpenPosition = false) (idle : bar.hasLiveOrders = false)
      (notPending : orchestrator.state ≠ .pending) : Proposal orchestrator bar (next, [.submitEntry signal])

variable {orchestrator : HybridOrchestrator Value}

theorem onBarEntry_proposal (bar : BarInput Value) (mrEntrySignal : Option (EntrySignal Value)) :
    Proposal orchestrator bar (orchestrator.onBarEntry bar mrEntrySignal) := by
  unfold HybridOrchestrator.onBarEntry
  split
  case isTrue => exact .none _ _ rfl fun _ member => by cases member
  case isFalse free =>
    simp only [not_or, Bool.not_eq_true] at free
    split
    case isTrue => exact .none _ _ rfl fun _ member => by cases member
    case isFalse =>
      split
      case h_1 signal _ => exact .entry _ signal rfl free.1 free.2.1 free.2.2
      case h_2 => exact .none _ _ rfl fun _ member => by cases member

theorem onBarWithMrOverride_proposal (bar : BarInput Value) (mrEntrySignal : Option (EntrySignal Value))
    (mrExitReason : Option ReasonCode) :
    Proposal orchestrator bar (orchestrator.onBarWithMrOverride bar mrEntrySignal mrExitReason) := by
  have entry := @onBarEntry_proposal Value _ (orchestrator.warmBar bar) bar mrEntrySignal
  have warmed : Proposal orchestrator bar ((orchestrator.warmBar bar).onBarEntry bar mrEntrySignal) := by
    generalize (orchestrator.warmBar bar).onBarEntry bar mrEntrySignal = answer at entry ⊢
    cases entry with
    | none next actions same noEntry => exact .none next actions same noEntry
    | entry next signal waits flat idle notPending => exact .entry next signal waits flat idle notPending
  unfold HybridOrchestrator.onBarWithMrOverride
  dsimp only
  split
  case isTrue => exact .none _ _ rfl fun _ member => by simp at member
  case isFalse =>
    split
    case isTrue =>
      cases mrExitReason with
      | none => exact .none _ _ rfl fun _ member => by cases member
      | some reason => exact .none _ _ rfl fun _ member => by simp at member
    case isFalse =>
      split
      case isTrue =>
        split
        case h_1 =>
          unfold HybridOrchestrator.onBreakoutExit
          split <;> exact .none _ _ rfl fun _ member => by simp at member
        case h_2 => exact warmed
      case isFalse => exact warmed

theorem orchestratorActions_proposal {strategy : HybridIntradayRuntimeStrategy Value} (dt : NaiveDateTime)
    (bar : BarEvent Value) (closePrev dayRangePrev : Value) (input : BarInput Value) :
    Proposal strategy.orchestrator input (strategy.orchestratorActions dt bar closePrev dayRangePrev input) := by
  unfold orchestratorActions
  split
  case isTrue => exact onBarWithMrOverride_proposal _ _ _
  case isFalse =>
    split
    case isTrue => exact onBarWithMrOverride_proposal _ _ _
    case isFalse => exact onBarWithMrOverride_proposal _ _ _

end Proposals

section Tracking

variable {Value : Type}

def entryState (strategy : HybridIntradayRuntimeStrategy Value) :
    HybridState × Option (PendingEntry Value) × Option StrategyRequestId × Value :=
  (strategy.orchestrator.state, strategy.pendingEntry, strategy.pendingEntryRequestId, strategy.lastPositionQty)

section Events

variable {strategy : HybridIntradayRuntimeStrategy Value} {ctx : StrategyCtx Value}

theorem onOrder_entryState (nowMs : Int) (order : OrderEvent) :
    entryState (strategy.onOrder ctx nowMs order).1 = entryState strategy := by
  have same := congrArg entryState (@onOrder_orderless Value strategy ctx nowMs order)
  exact same

theorem onStopOrder_entryState (nowMs : Int) (order : StopOrderEvent) :
    entryState (strategy.onStopOrder ctx nowMs order).1 = entryState strategy := by
  have same := congrArg entryState (@onStopOrder_orderless Value strategy ctx nowMs order)
  exact same

end Events

variable [F64 Value]

/-- The entry that the orchestrator waits for is held by the strategy, or a position is open. -/
def Tracks (strategy : HybridIntradayRuntimeStrategy Value) : Prop :=
  strategy.orchestrator.state = .pending →
    strategy.pendingEntry.isSome = true ∨ strategy.pendingEntryRequestId.isSome = true ∨
      ¬ IsFlat strategy.lastPositionQty

variable {before after strategy : HybridIntradayRuntimeStrategy Value} {ctx : StrategyCtx Value} {ids : RequestIds}

theorem Tracks.of_same (tracks : Tracks before) (same : entryState after = entryState before) : Tracks after := by
  unfold entryState at same
  simp only [Prod.mk.injEq] at same
  unfold Tracks
  rw [same.1, same.2.1, same.2.2.1, same.2.2.2]
  exact tracks

theorem Tracks.of_spares {result : HybridIntradayRuntimeStrategy Value × List (Intent Value)} (tracks : Tracks before)
    (spares : SparesEntries before result) : Tracks result.1 := by
  have same := congrArg entryState spares.2
  exact tracks.of_same same

theorem tracks_of_notPending (notPending : strategy.orchestrator.state ≠ .pending) : Tracks strategy :=
  fun pending => absurd pending notPending

/-- An entry that is dropped is given back, and one that is executed is held. -/
theorem submitEntry_tracks {createdTsUtc : Int} {canEmit canExecute : Bool} {referencePrice : Value}
    {entry : EntrySignal Value}
    (held : strategy.entryReady = false ∨ strategy.safeModeCloseOnly = true ∨ (canEmit = true → canExecute = true)) :
    Tracks (strategy.submitEntry ids ctx createdTsUtc canEmit canExecute referencePrice entry).1 := by
  unfold submitEntry
  split
  case isTrue => exact tracks_of_notPending fun pending => by cases pending
  case isFalse kept =>
    simp only [not_or, Bool.not_eq_false, Bool.not_eq_true] at kept
    have executes : canExecute = true := by
      rcases held with notReady | safe | executes
      · rw [kept.1] at notReady
        cases notReady
      · rw [kept.2.1] at safe
        cases safe
      · exact executes kept.2.2
    subst executes
    exact fun _ => .inl rfl

theorem mapActions_tracks (createdTsUtc : Int) (canEmit canExecute : Bool) {actions : List (Action Value)}
    (noEntry : ∀ signal, Action.submitEntry signal ∉ actions) (tracks : Tracks strategy) :
    Tracks (mapActions ids ctx createdTsUtc canEmit canExecute strategy actions).1 :=
  tracks.of_spares (mapActions_spares _ _ _ noEntry)

theorem mapActions_entry_tracks (createdTsUtc : Int) (canEmit canExecute : Bool) {signal : EntrySignal Value}
    {exits : List (Action Value)} (noEntry : ∀ other, Action.submitEntry other ∉ exits)
    (held : strategy.entryReady = false ∨ strategy.safeModeCloseOnly = true ∨ (canEmit = true → canExecute = true)) :
    Tracks (mapActions ids ctx createdTsUtc canEmit canExecute strategy (.submitEntry signal :: exits)).1 := by
  unfold mapActions
  exact mapActions_tracks _ _ _ noEntry (submitEntry_tracks held)

/-! ### Bars -/

/-- An entry that the orchestrator may propose on the bar is executed or dropped. -/
def HoldsEntry (strategy : HybridIntradayRuntimeStrategy Value) (ctx : StrategyCtx Value) (bar : BarEvent Value) :
    Prop :=
  strategy.entryReady = false ∨ strategy.safeModeCloseOnly = true ∨
    (ctx.canEmitNow (decide (bar.origin = .live)) = true → ctx.canExecuteNow (decide (bar.origin = .live)) = true) ∨
      IsOpen (ctx.positionQty.getD F64.zero) ∨ strategy.hasLiveOrders = true ∨ strategy.orchestrator.state = .pending

theorem actOnBar_tracks {dt : NaiveDateTime} {bar : BarEvent Value} {closePrev dayRangePrev : Value}
    {previousDayLocal : Option NaiveDate} {input : BarInput Value} (tracks : Tracks strategy)
    (holds : strategy.entryReady = false ∨ strategy.safeModeCloseOnly = true ∨
      (ctx.canEmitNow (decide (bar.origin = .live)) = true → ctx.canExecuteNow (decide (bar.origin = .live)) = true) ∨
        input.hasOpenPosition = true ∨ input.hasLiveOrders = true ∨ strategy.orchestrator.state = .pending) :
    Tracks (strategy.actOnBar ids ctx dt bar closePrev dayRangePrev previousDayLocal input).1 := by
  unfold actOnBar
  dsimp only
  have proposal := @orchestratorActions_proposal Value _ strategy dt bar closePrev dayRangePrev input
  generalize strategy.orchestratorActions dt bar closePrev dayRangePrev input = answer at proposal ⊢
  obtain ⟨exits, noEntry, guarded⟩ := @appendBreakoutNoOvernightGuard_exits Value
    { strategy with orchestrator := answer.1 } answer.2 dt previousDayLocal input.hasOpenPosition
  rw [guarded]
  have repaired := @maybeEmitRepairIntents_spares Value { strategy with orchestrator := answer.1 } ctx ids _
    (ctx.effectiveCreatedTsUtc bar.closeTimeUtc)
  cases proposal with
  | none next actions same others =>
      refine mapActions_tracks _ _ _ ?_ ?_
      · intro signal member
        exact (List.mem_append.1 member).elim (others signal) (noEntry signal)
      · refine Tracks.of_spares (Tracks.of_same tracks ?_) repaired
        unfold entryState
        dsimp only
        rw [same]
  | entry next signal waits flat idle notPending =>
      refine mapActions_entry_tracks _ _ _ noEntry ?_
      rcases holds with notReady | safe | executes | opened | live | pending
      · have sameReady := congrArg entryReady repaired.2
        exact .inl (sameReady.trans notReady)
      · exact .inr (.inl (maybeEmitRepairIntents_safeMode _ safe))
      · exact .inr (.inr executes)
      · rw [flat] at opened
        cases opened
      · rw [idle] at live
        cases live
      · exact absurd pending notPending

theorem maybeReissueDeferredEntry_tracks {createdTsUtc : Int} {dt : NaiveDateTime} {canEmit canExecute : Bool}
    {referencePrice : Value} {deferred : DeferredEntry Value} (tracks : Tracks strategy) :
    Tracks (strategy.maybeReissueDeferredEntry ids ctx createdTsUtc dt canEmit canExecute referencePrice deferred).1 := by
  unfold maybeReissueDeferredEntry
  split
  case isTrue => exact tracks
  case isFalse =>
    split
    case isTrue => exact tracks
    case isFalse permitted =>
      simp only [not_or, Bool.not_eq_false, Bool.not_eq_true] at permitted
      have held := @submitEntry_tracks Value _ { strategy with activeCycleId := some deferred.cycleId } ctx ids
        createdTsUtc canEmit canExecute referencePrice deferred.signal (.inr (.inr fun _ => permitted.2.2.2.1))
      dsimp only
      split
      case isTrue => exact held
      case isFalse => exact held

theorem maybeReissueDeferredExit_tracks {createdTsUtc : Int} {canEmit canExecute : Bool} {referencePrice : Value}
    {deferred : DeferredExit} (tracks : Tracks strategy) :
    Tracks (strategy.maybeReissueDeferredExit ids ctx createdTsUtc canEmit canExecute referencePrice deferred).1 := by
  unfold maybeReissueDeferredExit
  split
  case isTrue => exact tracks
  case isFalse =>
    split
    case isTrue => exact tracks
    case isFalse =>
      have spares := @submitExit_spares Value { strategy with
          activeCycleId := some deferred.cycleId
          currentOwner := some deferred.owner } ctx ids _ createdTsUtc canEmit canExecute referencePrice
        deferred.owner deferred.reason
      have sent := Tracks.of_spares (tracks : Tracks { strategy with
          activeCycleId := some deferred.cycleId
          currentOwner := some deferred.owner }) spares
      dsimp only
      split
      case isTrue => exact sent
      case isFalse => exact sent

theorem onBarAfterExit_tracks {dt : NaiveDateTime} {bar : BarEvent Value} {closePrev dayRangePrev : Value}
    {previousDayLocal : Option NaiveDate} {referencePrice : Value} {input : BarInput Value} (tracks : Tracks strategy)
    (holds : strategy.entryReady = false ∨ strategy.safeModeCloseOnly = true ∨
      (ctx.canEmitNow (decide (bar.origin = .live)) = true → ctx.canExecuteNow (decide (bar.origin = .live)) = true) ∨
        input.hasOpenPosition = true ∨ input.hasLiveOrders = true ∨ strategy.orchestrator.state = .pending) :
    Tracks (strategy.onBarAfterExit ids ctx dt bar closePrev dayRangePrev previousDayLocal referencePrice input).1 := by
  unfold onBarAfterExit
  cases strategy.deferredEntry with
  | none => exact actOnBar_tracks tracks holds
  | some deferred =>
      dsimp only
      have warmed : Tracks (strategy.warmBar input) := tracks
      have reissued := @maybeReissueDeferredEntry_tracks Value _ (strategy.warmBar input) ctx ids
        (ctx.effectiveCreatedTsUtc bar.closeTimeUtc) dt (ctx.canEmitNow (decide (bar.origin = .live)))
        (ctx.canExecuteNow (decide (bar.origin = .live))) referencePrice deferred warmed
      have gone := @maybeReissueDeferredEntry_none Value (strategy.warmBar input) ctx ids _
        (ctx.effectiveCreatedTsUtc bar.closeTimeUtc) dt (ctx.canEmitNow (decide (bar.origin = .live)))
        (ctx.canExecuteNow (decide (bar.origin = .live))) referencePrice deferred
      generalize (strategy.warmBar input).maybeReissueDeferredEntry ids ctx _ dt _ _ referencePrice deferred = answer
        at reissued gone ⊢
      obtain ⟨state, intents⟩ := answer
      cases intents with
      | none =>
          dsimp only at gone ⊢
          rw [gone rfl] at reissued ⊢
          exact actOnBar_tracks reissued holds
      | some intents => exact reissued

theorem processBar_tracks {dt : NaiveDateTime} {bar : BarEvent Value} {closePrev dayRangePrev : Value}
    {previousDayLocal : Option NaiveDate} (tracks : Tracks strategy) (holds : HoldsEntry strategy ctx bar) :
    Tracks (strategy.processBar ids ctx dt bar closePrev dayRangePrev previousDayLocal
      (decide (IsOpen (ctx.positionQty.getD F64.zero)))).1 := by
  have held : strategy.entryReady = false ∨ strategy.safeModeCloseOnly = true ∨
      (ctx.canEmitNow (decide (bar.origin = .live)) = true → ctx.canExecuteNow (decide (bar.origin = .live)) = true) ∨
        decide (IsOpen (ctx.positionQty.getD F64.zero)) = true ∨ strategy.hasLiveOrders = true ∨
          strategy.orchestrator.state = .pending := by
    rw [decide_eq_true_eq]
    exact holds
  unfold processBar
  dsimp only
  cases strategy.deferredExit with
  | none => exact onBarAfterExit_tracks tracks held
  | some deferred =>
      dsimp only
      have warmed : Tracks (strategy.warmBar (strategy.barInput dt bar closePrev dayRangePrev
          (decide (IsOpen (ctx.positionQty.getD F64.zero))))) := tracks
      have reissued := @maybeReissueDeferredExit_tracks Value _ _ ctx ids
        (ctx.effectiveCreatedTsUtc bar.closeTimeUtc) (ctx.canEmitNow (decide (bar.origin = .live)))
        (ctx.canExecuteNow (decide (bar.origin = .live))) strategy.liveReferencePrice deferred warmed
      have gone := @maybeReissueDeferredExit_none Value (strategy.warmBar (strategy.barInput dt bar closePrev
          dayRangePrev (decide (IsOpen (ctx.positionQty.getD F64.zero))))) ctx ids _
        (ctx.effectiveCreatedTsUtc bar.closeTimeUtc) (ctx.canEmitNow (decide (bar.origin = .live)))
        (ctx.canExecuteNow (decide (bar.origin = .live))) strategy.liveReferencePrice deferred
      generalize maybeReissueDeferredExit ids _ ctx _ _ _ strategy.liveReferencePrice deferred = answer
        at reissued gone ⊢
      obtain ⟨state, intents⟩ := answer
      cases intents with
      | none =>
          dsimp only at gone ⊢
          rw [gone rfl] at reissued ⊢
          exact onBarAfterExit_tracks reissued held
      | some intents => exact reissued

theorem clearStalePendingTail_tracks {nowTs : Int} {positionQty : Value} (tracks : Tracks strategy) :
    Tracks (strategy.clearStalePendingTail nowTs positionQty) := by
  have entry : Tracks (strategy.clearStaleEntry nowTs) := by
    unfold clearStaleEntry
    split
    case isTrue => exact tracks_of_notPending fun pending => by cases pending
    case isFalse => exact tracks
  have exit : ∀ state : HybridIntradayRuntimeStrategy Value, entryState (state.clearStaleExit nowTs) = entryState state := by
    intro state
    unfold clearStaleExit
    split <;> rfl
  have tp : ∀ state : HybridIntradayRuntimeStrategy Value, entryState (state.clearStaleTp nowTs) = entryState state := by
    intro state
    unfold clearStaleTp
    split <;> rfl
  have sl : ∀ state : HybridIntradayRuntimeStrategy Value, entryState (state.clearStaleSl nowTs) = entryState state := by
    intro state
    unfold clearStaleSl
    split <;> rfl
  unfold clearStalePendingTail
  split
  case isTrue => exact tracks
  case isFalse => exact entry.of_same (((sl _).trans (tp _)).trans (exit _))

/-- An accepted bar that is not a replayed one meets the condition on entries. -/
def BarHoldsEntry (strategy : HybridIntradayRuntimeStrategy Value) (ctx : StrategyCtx Value) (bar : BarEvent Value) :
    Prop :=
  ∀ dt, strategy.AcceptsBar bar dt → strategy.startupReplayBoundary ctx bar = none →
    HoldsEntry (strategy.stateForBar ctx dt bar) ctx bar

theorem onBar_tracks {bar : BarEvent Value} (tracks : Tracks strategy) (holds : BarHoldsEntry strategy ctx bar) :
    Tracks (strategy.onBar ids ctx bar).1 := by
  have course := strategy.onBar_course ids ctx bar
  generalize strategy.onBar ids ctx bar = result at course ⊢
  cases course with
  | passedOver idle same =>
      have still := congrArg entryState same
      exact tracks.of_same still
  | replayed dt input sameTime accepts replay =>
      have learnt := congrArg entryState (strategy.learnFromBar_tradeState dt bar)
      exact clearStalePendingTail_tracks (tracks.of_same learnt)
  | actedOn dt accepts current =>
      have same := congrArg entryState (strategy.stateForBar_tradeState ctx dt bar)
      exact processBar_tracks ((clearStalePendingTail_tracks tracks).of_same same) (holds dt accepts current)

/-! ### The other callbacks -/

theorem onAck_tracks (ack : CommandAck) (tracks : Tracks strategy) : Tracks (strategy.onAck ack).1 := by
  have cycled : entryState (strategy.activeOrNextCycle ack.processedTsUtc).1 = entryState strategy := by
    unfold activeOrNextCycle
    cases strategy.activeCycleId <;> rfl
  unfold onAck
  split
  case isTrue =>
    split
    case isTrue =>
      unfold rejectEntry
      dsimp only
      split <;> exact tracks_of_notPending fun pending => by cases pending
    case isFalse => exact tracks
  case isFalse =>
    split
    case isTrue =>
      split
      case isTrue =>
        unfold rejectExit
        split
        case isTrue => exact tracks.of_same cycled
        case isFalse => exact tracks
      case isFalse => exact tracks
    case isFalse =>
      split
      case isTrue =>
        split
        case isTrue => exact tracks
        case isFalse => exact tracks
      case isFalse =>
        split
        case isTrue =>
          split
          case isTrue => exact tracks
          case isFalse => exact tracks
        case isFalse =>
          unfold retrySiblingCleanup
          split
          case isTrue => exact tracks
          case isFalse => exact tracks

theorem onPosition_tracks {nowMs : Int} {pos : PositionEvent Value} (tracks : Tracks strategy)
    (wasNumber : IsNumber strategy.lastPositionQty) (isNumber : IsNumber pos.qty) :
    Tracks ((strategy.explainPosition ids ctx nowMs pos).1.setPositionQty pos.qty) := by
  by_cases flat : IsFlat pos.qty
  · have notOpen : ¬ IsOpen pos.qty := fun opened => isNumber.1 opened flat
    have noEntry : (strategy.pendingEntry.filter fun _ => decide (IsOpen pos.qty)) = none := by
      rw [decide_eq_false notOpen]
      cases strategy.pendingEntry <;> rfl
    unfold explainPosition
    dsimp only
    rw [noEntry]
    dsimp only
    rw [if_neg fun resized => notOpen resized.2.1]
    unfold settlePosition
    rw [if_neg fun opening => notOpen opening.2]
    by_cases opened : IsOpen strategy.lastPositionQty
    · rw [if_pos ⟨opened, flat⟩]
      exact tracks_of_notPending fun pending => by cases pending
    · rw [if_neg fun closing => opened closing.1]
      have wasFlat : IsFlat strategy.lastPositionQty := by
        by_contra notFlat
        exact opened (wasNumber.2 notFlat)
      intro pending
      rcases tracks pending with entry | request | notFlat
      · exact .inl entry
      · exact .inr (.inl request)
      · exact absurd wasFlat notFlat
  · exact fun _ => .inr (.inr flat)

theorem onTimer_tracks (nowTsUtcMs : Int) (tracks : Tracks strategy) : Tracks (strategy.onTimer ids ctx nowTsUtcMs).1 := by
  unfold onTimer
  dsimp only
  have reconciled := tracks.of_spares (@emitBracketReconcileTimeoutExit_spares Value strategy ctx ids _ nowTsUtcMs)
  unfold emitPartialEntryTimeoutExit
  split
  case h_1 => exact reconciled
  case h_2 entry timedOut =>
    have due := Option.mem_filter_iff.1 timedOut
    have waits := due.2
    simp only [Bool.and_eq_true, Bool.not_eq_true', decide_eq_false_iff_not] at waits
    exact fun _ => .inr (.inr waits.1.2)

theorem onAck_lastPositionQty (ack : CommandAck) :
    (strategy.onAck ack).1.lastPositionQty = strategy.lastPositionQty := by
  have cycled : (strategy.activeOrNextCycle ack.processedTsUtc).1.lastPositionQty = strategy.lastPositionQty := by
    unfold activeOrNextCycle
    cases strategy.activeCycleId <;> rfl
  unfold onAck
  split
  case isTrue =>
    split
    case isTrue =>
      unfold rejectEntry
      dsimp only
      split <;> rfl
    case isFalse => rfl
  case isFalse =>
    split
    case isTrue =>
      split
      case isTrue =>
        unfold rejectExit
        split
        case isTrue => exact cycled
        case isFalse => rfl
      case isFalse => rfl
    case isFalse =>
      split
      case isTrue => split <;> rfl
      case isFalse =>
        split
        case isTrue => split <;> rfl
        case isFalse =>
          unfold retrySiblingCleanup
          split <;> rfl

def HandsEntryOver (strategy : HybridIntradayRuntimeStrategy Value) : Callback Value → Prop
  | .bar ctx bar => BarHoldsEntry strategy ctx bar
  | .position _ _ pos => pos.symbol = strategy.config.symbol → IsNumber pos.qty
  | _ => True

/-- The orchestrator waits for no entry that the strategy does not hold, and the position is a number. -/
structure TracksEntry (strategy : HybridIntradayRuntimeStrategy Value) : Prop where
  tracks : Tracks strategy
  isNumber : IsNumber strategy.lastPositionQty

theorem TracksEntry.of_same (tracked : TracksEntry before) (same : entryState after = entryState before) :
    TracksEntry after := by
  have sameQty := congrArg (fun state => state.2.2.2) same
  refine ⟨tracked.tracks.of_same same, ?_⟩
  unfold entryState at sameQty
  dsimp only at sameQty
  rw [sameQty]
  exact tracked.isNumber

/-- Every callback that hands its entry over keeps both machines in step. -/
theorem TracksEntry.next (tracked : TracksEntry strategy) {callback : Callback Value} (running : IsRunning callback)
    (hands : HandsEntryOver strategy callback) : TracksEntry (strategy.after ids callback) := by
  obtain ⟨tracks, isNumber⟩ := tracked
  cases callback with
  | bar ctx bar =>
      refine ⟨onBar_tracks tracks hands, ?_⟩
      have same := (@onBar_settles Value strategy ctx ids _ bar).lastPositionQty
      exact same.symm ▸ isNumber
  | ack ctx ack =>
      refine ⟨onAck_tracks ack tracks, ?_⟩
      have same := @onAck_lastPositionQty Value _ strategy ack
      exact same.symm ▸ isNumber
  | order ctx nowMs order => exact TracksEntry.of_same ⟨tracks, isNumber⟩ (onOrder_entryState nowMs order)
  | stopOrder ctx nowMs order => exact TracksEntry.of_same ⟨tracks, isNumber⟩ (onStopOrder_entryState nowMs order)
  | position ctx nowMs pos =>
      unfold HybridIntradayRuntimeStrategy.after call onPosition
      dsimp only
      split
      case isTrue => exact ⟨tracks, isNumber⟩
      case isFalse ours =>
        have nextNumber := hands (not_not.1 ours)
        exact ⟨onPosition_tracks tracks isNumber nextNumber, nextNumber⟩
  | timer ctx nowTsUtcMs =>
      refine ⟨onTimer_tracks nowTsUtcMs tracks, ?_⟩
      have same := (@onTimer_settles Value strategy ctx ids _ nowTsUtcMs).lastPositionQty
      exact same.symm ▸ isNumber
  | bootstrapSnapshot ctx snapshot => exact absurd running id
  | runtimeStateRestored ctx => exact absurd running id

/-- Where the orchestrator waits for an entry, the strategy holds it, as pending or as deferred, or
the position is not zero. -/
def EntryIsTracked (strategy : HybridIntradayRuntimeStrategy Value) : Prop :=
  strategy.orchestrator.state = .pending →
    strategy.pendingEntry.isSome = true ∨ strategy.pendingEntryRequestId.isSome = true ∨
      strategy.deferredEntry.isSome = true ∨ ¬ IsFlat strategy.lastPositionQty

instance (strategy : HybridIntradayRuntimeStrategy Value) : Decidable (EntryIsTracked strategy) :=
  inferInstanceAs (Decidable (_ → _))

theorem TracksEntry.isTracked (tracked : TracksEntry strategy) : EntryIsTracked strategy := by
  intro pending
  rcases tracked.tracks pending with entry | request | opened
  · exact .inl entry
  · exact .inr (.inl request)
  · exact .inr (.inr (.inr opened))

end Tracking

/-- Over a run from the start whose bars execute the entries that they emit, the orchestrator never
waits for an entry that nobody tracks. -/
theorem pending_entry_is_tracked (ids : RequestIds) (config : HybridIntradayRuntimeConfig Float)
    (callbacks : List (Callback Float)) (running : ∀ callback ∈ callbacks, IsRunning callback)
    (hands : EveryStep (after ids) HandsEntryOver (new config) callbacks) :
    EveryStep (after ids) (fun strategy callback => EntryIsTracked (strategy.after ids callback)) (new config)
      callbacks := by
  have zero : IsNumber (F64.zero : Float) := by decide
  have start : TracksEntry (new config) := ⟨tracks_of_notPending HybridState.noConfusion, zero⟩
  refine EveryStep.of_invariant ?_ start running hands
  intro strategy callback tracked runs handsOver
  have next := @TracksEntry.next _ _ strategy ids tracked callback runs handsOver
  exact ⟨next.isTracked, next⟩

/-- Two days of bars in paper mode, of which the last one breaks out of the range of the first day. -/
def breakoutRun (origin : DataOrigin) : List (Callback Float) :=
  [.bar (sampleCtx .paper none 1767596400) { flatBar 100 1767596400 with origin := origin },
    .bar (sampleCtx .paper none 1767600000) { flatBar 110 1767600000 with origin := origin },
    .bar (sampleCtx .paper none 1767682800) { flatBar 110 1767682800 with origin := origin },
    .bar (sampleCtx .paper none 1767697200) { flatBar 120 1767697200 with origin := origin }]

theorem breakoutRun_running (origin : DataOrigin) : ∀ callback ∈ breakoutRun origin, IsRunning callback := by
  intro callback member
  simp only [breakoutRun, List.mem_cons, List.not_mem_nil, or_false] at member
  rcases member with rfl | rfl | rfl | rfl <;> trivial

/-- A live bar in paper mode is executed, so the entry of the breakout is pending. -/
theorem pending_entry_is_tracked_live :
    (∀ callback ∈ breakoutRun .live, IsRunning callback) ∧
      EveryStep (after sampleIds) (fun strategy callback => EntryIsTracked (strategy.after sampleIds callback))
        (new (sampleConfig Float)) (breakoutRun .live) := by
  have executes : ∀ (strategy : HybridIntradayRuntimeStrategy Float) (ctx : StrategyCtx Float) (bar : BarEvent Float),
      (ctx.canEmitNow (decide (bar.origin = .live)) = true → ctx.canExecuteNow (decide (bar.origin = .live)) = true) →
      HandsEntryOver strategy (.bar ctx bar) :=
    fun _ _ _ executed _ _ _ => .inr (.inr (.inl executed))
  refine ⟨breakoutRun_running .live, pending_entry_is_tracked sampleIds (sampleConfig Float) (breakoutRun .live)
    (breakoutRun_running .live) ⟨?_, ?_, ?_, ?_, trivial⟩⟩
  · exact executes _ _ _ fun _ => rfl
  · exact executes _ _ _ fun _ => rfl
  · exact executes _ _ _ fun _ => rfl
  · exact executes _ _ _ fun _ => rfl

/-- A bar of the history is not executed in paper mode: its entry is returned, and the orchestrator
waits for it without anybody tracking it. -/
theorem history_entry_is_untracked :
    ¬ ∀ (config : HybridIntradayRuntimeConfig Float) (callbacks : List (Callback Float)),
      (∀ callback ∈ callbacks, IsRunning callback) →
        EveryStep (after sampleIds) (fun strategy callback => EntryIsTracked (strategy.after sampleIds callback))
          (new config) callbacks := by
  intro all
  have untracked : ¬ EveryStep (after sampleIds)
      (fun strategy callback => EntryIsTracked (strategy.after sampleIds callback)) (new (sampleConfig Float))
      (breakoutRun .history) := by
    decide
  exact untracked (all (sampleConfig Float) (breakoutRun .history) (breakoutRun_running .history))

end TradingGateway.HybridIntraday
