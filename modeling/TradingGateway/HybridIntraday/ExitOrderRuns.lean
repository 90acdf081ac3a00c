import TradingGateway.HybridIntraday.ExitOrders
import TradingGateway.HybridIntraday.SampleStrategy
import TradingGateway.HybridIntraday.TradeState

/-! How many flattening orders the strategy has in flight, over whole runs. -/

set_option autoImplicit false

namespace TradingGateway.HybridIntraday

open BrokerCore.Orders Foundation.MachineNumbers Foundation.Runs
open HybridIntradayRuntimeStrategy

section Actions

variable {Value : Type} {orchestrator : HybridOrchestrator Value}

/-- What the orchestrator asks for on one bar is one thing at most, and no exit of the mean
reversion unless that owns the position. -/
def OneAction (currentOwner : Option Owner) (actions : List (Action Value)) : Prop :=
  actions.length ≤ 1 ∧
    (currentOwner ≠ some .meanReversion →
      ∀ reason, Action.submitExit .meanReversion reason ∉ actions)

theorem onBreakoutExit_oneAction (currentOwner : Option Owner) (bar : BarInput Value) (reason : ReasonCode) :
    OneAction currentOwner (orchestrator.onBreakoutExit bar reason).2 := by
  unfold HybridOrchestrator.onBreakoutExit
  split <;> exact ⟨le_refl _, fun _ _ member => by simp at member⟩

section Orchestrated

variable [F64 Value]

theorem onBarEntry_oneAction (currentOwner : Option Owner) (bar : BarInput Value)
    (mrEntrySignal : Option (EntrySignal Value)) :
    OneAction currentOwner (orchestrator.onBarEntry bar mrEntrySignal).2 := by
  unfold HybridOrchestrator.onBarEntry
  split
  case isTrue => exact ⟨Nat.zero_le _, fun _ _ member => by cases member⟩
  case isFalse =>
    split
    case isTrue => exact ⟨Nat.zero_le _, fun _ _ member => by cases member⟩
    case isFalse =>
      split
      case h_1 => exact ⟨le_refl _, fun _ _ member => by simp [HybridOrchestrator.emitEntryAction] at member⟩
      case h_2 => exact ⟨Nat.zero_le _, fun _ _ member => by cases member⟩

theorem onBarWithMrOverride_oneAction (bar : BarInput Value) (mrEntrySignal : Option (EntrySignal Value))
    (mrExitReason : Option ReasonCode) :
    OneAction orchestrator.currentOwner
      (orchestrator.onBarWithMrOverride bar mrEntrySignal mrExitReason).2 := by
  unfold HybridOrchestrator.onBarWithMrOverride
  dsimp only
  split
  case isTrue => exact ⟨le_refl _, fun _ _ member => by simp at member⟩
  case isFalse =>
    split
    case isTrue owned =>
      cases mrExitReason with
      | none => exact ⟨Nat.zero_le _, fun _ _ member => by cases member⟩
      | some reason => exact ⟨le_refl _, fun other => absurd owned.2 other⟩
    case isFalse =>
      split
      case isTrue =>
        split
        case h_1 => exact onBreakoutExit_oneAction _ _ _
        case h_2 => exact onBarEntry_oneAction _ _ _
      case isFalse => exact onBarEntry_oneAction _ _ _

theorem orchestratorActions_oneAction {strategy : HybridIntradayRuntimeStrategy Value} (dt : NaiveDateTime) (bar : BarEvent Value) (closePrev dayRangePrev : Value)
    (input : BarInput Value) :
    OneAction strategy.orchestrator.currentOwner
      (strategy.orchestratorActions dt bar closePrev dayRangePrev input).2 := by
  unfold orchestratorActions
  split
  case isTrue => exact onBarWithMrOverride_oneAction _ _ _
  case isFalse =>
    split
    case isTrue => exact onBarWithMrOverride_oneAction _ _ _
    case isFalse => exact onBarWithMrOverride_oneAction _ _ _

end Orchestrated

variable {strategy : HybridIntradayRuntimeStrategy Value}

/-- One exit at most is asked for on a bar, unless the owners that the strategy and its
orchestrator remember differ. -/
theorem guardedExits_le_one {actions : List (Action Value)} (one : OneAction orchestrator.currentOwner actions)
    (agree : strategy.currentOwner ≠ some .intradayBreakout ∨ orchestrator.currentOwner ≠ some .meanReversion)
    (dt : NaiveDateTime) (previousDayLocal : Option NaiveDate) (hasOpenPosition : Bool) :
    ((strategy.appendBreakoutNoOvernightGuard actions dt previousDayLocal hasOpenPosition).countP
      fun action => decide action.IsExit) ≤ 1 := by
  have alone : (actions.countP fun action => decide action.IsExit) ≤ 1 := le_trans List.countP_le_length one.1
  unfold appendBreakoutNoOvernightGuard
  split
  case isTrue => exact alone
  case isFalse guarded =>
    split
    case isTrue => exact alone
    case isFalse =>
      simp only [not_or, not_not] at guarded
      obtain ⟨-, owned, -, -, -, noBreakout⟩ := guarded
      have others := agree.resolve_left fun other => other owned
      have none : (actions.countP fun action => decide action.IsExit) = 0 := by
        rw [List.countP_eq_zero]
        intro action member isExit
        cases action with
        | submitExit owner reason =>
            cases owner with
            | meanReversion => exact one.2 others reason member
            | intradayBreakout => exact noBreakout (List.any_eq_true.2 ⟨_, member, by simp⟩)
        | submitEntry entry => exact absurd (of_decide_eq_true isExit) id
        | armOvernightExit owner reason armedDate exitTime => exact absurd (of_decide_eq_true isExit) id
      rw [List.countP_append, none, Nat.zero_add]
      exact List.countP_le_length

end Actions

section Bars

variable {Value : Type} [F64 Value] {ids : RequestIds} {strategy : HybridIntradayRuntimeStrategy Value}
  {ctx : StrategyCtx Value}

theorem actOnBar_single (dt : NaiveDateTime) (bar : BarEvent Value) (closePrev dayRangePrev : Value)
    (previousDayLocal : Option NaiveDate) (input : BarInput Value)
    (unforced : strategy.pendingExitRequestId.isSome = true →
      ¬ FlattensByForce strategy (ctx.effectiveCreatedTsUtc bar.closeTimeUtc) (ctx.positionQty.getD F64.zero))
    (once : (ctx.canEmitNow (decide (bar.origin = .live)) = true →
        ctx.canExecuteNow (decide (bar.origin = .live)) = true) ∨
      strategy.currentOwner ≠ some .intradayBreakout ∨ strategy.orchestrator.currentOwner ≠ some .meanReversion) :
    SingleExit strategy (strategy.actOnBar ids ctx dt bar closePrev dayRangePrev previousDayLocal input).2 := by
  unfold actOnBar
  dsimp only
  have one := @orchestratorActions_oneAction Value _ strategy dt bar closePrev dayRangePrev input
  generalize strategy.orchestratorActions dt bar closePrev dayRangePrev input = answer at one ⊢
  obtain ⟨orchestrator, actions⟩ := answer
  dsimp only
  generalize asked_eq : ({ strategy with orchestrator := orchestrator } : HybridIntradayRuntimeStrategy Value) = asked
  have samePending : asked.pendingExitRequestId = strategy.pendingExitRequestId := by rw [← asked_eq]
  have forced_iff : ∀ nowTs posQty, FlattensByForce asked nowTs posQty ↔ FlattensByForce strategy nowTs posQty := by
    intro nowTs posQty
    rw [← asked_eq]
    exact Iff.rfl
  have sameOwner : asked.currentOwner = strategy.currentOwner := by rw [← asked_eq]
  suffices single : SingleExit asked _ by
    unfold SingleExit at single ⊢
    rw [← samePending]
    exact single
  rcases @maybeEmitRepairIntents_cases Value _ asked ids ctx
    (ctx.effectiveCreatedTsUtc bar.closeTimeUtc) with ⟨forced, arms⟩ | ⟨-, keeps⟩
  · have notPending : asked.pendingExitRequestId = none := by
      rw [samePending]
      exact Option.not_isSome_iff_eq_none.1 fun pending => unforced pending ((forced_iff _ _).1 forced)
    refine GuardsExit.andSingle (.inr ⟨notPending, arms⟩) ⟨?_, ?_⟩
    · rw [mapActions_none _ _ _ _ arms.2]
      exact Nat.zero_le 1
    · exact mapActions_none _ _ _ _
  · refine GuardsExit.andSingle (.inl keeps) ?_
    rcases once with executes | agree
    · exact (mapActions_guards _ executes _).single
    · refine ⟨le_trans (mapActions_le_one _ _ _ _) ?_, mapActions_none _ _ _ _⟩
      rw [← sameOwner] at agree
      exact guardedExits_le_one one agree _ _ _

/-- A bar that tries a deferred exit again ends with that. -/
theorem maybeReissueDeferredExit_cases (createdTsUtc : Int) (canEmit canExecute : Bool) (referencePrice : Value)
    (deferred : DeferredExit) :
    (∃ intents, (strategy.maybeReissueDeferredExit ids ctx createdTsUtc canEmit canExecute referencePrice
        deferred).2 = some intents ∧ SingleExit strategy intents) ∨
      (IsFlat (ctx.positionQty.getD F64.zero) ∧
        strategy.maybeReissueDeferredExit ids ctx createdTsUtc canEmit canExecute referencePrice deferred =
          ({ strategy with deferredExit := none }, none)) := by
  unfold maybeReissueDeferredExit
  by_cases flat : IsFlat (ctx.positionQty.getD F64.zero)
  · rw [if_pos flat]
    exact .inr ⟨flat, rfl⟩
  · rw [if_neg flat]
    refine .inl ?_
    split
    case isTrue => exact ⟨[], rfl, Nat.zero_le 1, fun _ => rfl⟩
    case isFalse open_ =>
      simp only [not_or, Bool.not_eq_false] at open_
      refine ⟨_, rfl, ?_⟩
      exact (@mapAction_guards Value _ ids { strategy with
        activeCycleId := some deferred.cycleId
        currentOwner := some deferred.owner } ctx (.submitExit deferred.owner deferred.reason) createdTsUtc
        _ _ (fun _ => open_.2.1) referencePrice).single

/-- A bar that tries a deferred entry again emits no exit. -/
theorem maybeReissueDeferredEntry_cases (createdTsUtc : Int) (dt : NaiveDateTime) (canEmit canExecute : Bool)
    (referencePrice : Value) (deferred : DeferredEntry Value) :
    (∃ intents, (strategy.maybeReissueDeferredEntry ids ctx createdTsUtc dt canEmit canExecute referencePrice
        deferred).2 = some intents ∧ exitCount intents = 0) ∨
      strategy.maybeReissueDeferredEntry ids ctx createdTsUtc dt canEmit canExecute referencePrice deferred =
        ({ strategy with deferredEntry := none }, none) := by
  unfold maybeReissueDeferredEntry
  split
  case isTrue => exact .inr rfl
  case isFalse =>
    refine .inl ?_
    split
    case isTrue => exact ⟨[], rfl, rfl⟩
    case isFalse => exact ⟨_, rfl, (submitEntry_keeps _ _ _ _ _).1⟩

/-- Behind a pending exit nothing is given up by force, and one exit at most is asked for. -/
def SafeBar (strategy : HybridIntradayRuntimeStrategy Value) (ctx : StrategyCtx Value) (bar : BarEvent Value) : Prop :=
  (strategy.pendingExitRequestId.isSome = true → strategy.deferredExit.isNone = true →
      ¬ FlattensByForce strategy (ctx.effectiveCreatedTsUtc bar.closeTimeUtc) (ctx.positionQty.getD F64.zero)) ∧
    ((ctx.canEmitNow (decide (bar.origin = .live)) = true →
        ctx.canExecuteNow (decide (bar.origin = .live)) = true) ∨
      strategy.currentOwner ≠ some .intradayBreakout ∨ strategy.orchestrator.currentOwner ≠ some .meanReversion)

instance (strategy : HybridIntradayRuntimeStrategy Value) (ctx : StrategyCtx Value) (bar : BarEvent Value) :
    Decidable (SafeBar strategy ctx bar) :=
  inferInstanceAs (Decidable (_ ∧ _))

theorem onBarAfterExit_single {bar : BarEvent Value} (safe : SafeBar strategy ctx bar) (dt : NaiveDateTime)
    (closePrev dayRangePrev : Value) (previousDayLocal : Option NaiveDate) (referencePrice : Value)
    (input : BarInput Value)
    (unforced : strategy.pendingExitRequestId.isSome = true →
      ¬ FlattensByForce strategy (ctx.effectiveCreatedTsUtc bar.closeTimeUtc) (ctx.positionQty.getD F64.zero)) :
    SingleExit strategy
      (strategy.onBarAfterExit ids ctx dt bar closePrev dayRangePrev previousDayLocal referencePrice input).2 := by
  unfold onBarAfterExit
  cases strategy.deferredEntry with
  | none => exact actOnBar_single dt bar _ _ _ _ unforced safe.2
  | some deferred =>
      dsimp only
      rcases @maybeReissueDeferredEntry_cases Value _ ids (strategy.warmBar input) ctx
        (ctx.effectiveCreatedTsUtc bar.closeTimeUtc) dt (ctx.canEmitNow (decide (bar.origin = .live)))
        (ctx.canExecuteNow (decide (bar.origin = .live))) referencePrice deferred with
        ⟨intents, reissued, none⟩ | cleared
      · generalize (strategy.warmBar input).maybeReissueDeferredEntry ids ctx _ dt _ _ referencePrice deferred = answer
          at reissued ⊢
        obtain ⟨state, emitted⟩ := answer
        subst reissued
        exact ⟨le_of_eq_of_le none (Nat.zero_le 1), fun _ => none⟩
      · rw [cleared]
        exact @actOnBar_single Value _ ids { strategy.warmBar input with deferredEntry := none } ctx dt bar _ _ _ _
          unforced safe.2

theorem processBar_single {bar : BarEvent Value} (safe : SafeBar strategy ctx bar) (dt : NaiveDateTime)
    (closePrev dayRangePrev : Value) (previousDayLocal : Option NaiveDate) (hasOpenPosition : Bool) :
    SingleExit strategy
      (strategy.processBar ids ctx dt bar closePrev dayRangePrev previousDayLocal hasOpenPosition).2 := by
  unfold processBar
  dsimp only
  generalize strategy.barInput dt bar closePrev dayRangePrev hasOpenPosition = input
  cases exit : strategy.deferredExit with
  | none => exact onBarAfterExit_single safe dt _ _ _ _ _ fun pending => safe.1 pending (by rw [exit]; rfl)
  | some deferred =>
      dsimp only
      rcases @maybeReissueDeferredExit_cases Value _ ids (strategy.warmBar input) ctx
        (ctx.effectiveCreatedTsUtc bar.closeTimeUtc) (ctx.canEmitNow (decide (bar.origin = .live)))
        (ctx.canExecuteNow (decide (bar.origin = .live))) strategy.liveReferencePrice deferred with
        ⟨intents, reissued, single⟩ | ⟨flat, cleared⟩
      · generalize (strategy.warmBar input).maybeReissueDeferredExit ids ctx _ _ _ strategy.liveReferencePrice deferred =
          answer at reissued ⊢
        obtain ⟨state, emitted⟩ := answer
        subst reissued
        exact single
      · rw [cleared]
        exact @onBarAfterExit_single Value _ ids { strategy.warmBar input with deferredExit := none } ctx bar
          ⟨fun _ _ forced => forced.1 flat, safe.2⟩ dt _ _ _ _ _ fun _ forced => forced.1 flat

end Bars

section Callbacks

variable {Value : Type} [F64 Value] {ids : RequestIds} {strategy : HybridIntradayRuntimeStrategy Value}
  {ctx : StrategyCtx Value}

theorem clearStalePendingTail_pendingExit {nowTs : Int} {positionQty : Value}
    (kept : ¬ (¬ IsOpen positionQty ∧ strategy.workingOrders = [] ∧ strategy.workingStopOrders = [] ∧
      strategy.isStale nowTs strategy.pendingExitRequestId strategy.pendingExitCreatedTsUtc)) :
    (strategy.clearStalePendingTail nowTs positionQty).pendingExitRequestId = strategy.pendingExitRequestId := by
  have entry : ∀ state : HybridIntradayRuntimeStrategy Value,
      (state.clearStaleEntry nowTs).pendingExitRequestId = state.pendingExitRequestId ∧
        (state.clearStaleEntry nowTs).pendingExitCreatedTsUtc = state.pendingExitCreatedTsUtc ∧
        (state.clearStaleEntry nowTs).config = state.config := by
    intro state
    unfold clearStaleEntry
    split <;> exact ⟨rfl, rfl, rfl⟩
  have tp : ∀ state : HybridIntradayRuntimeStrategy Value,
      (state.clearStaleTp nowTs).pendingExitRequestId = state.pendingExitRequestId := by
    intro state
    unfold clearStaleTp
    split <;> rfl
  have sl : ∀ state : HybridIntradayRuntimeStrategy Value,
      (state.clearStaleSl nowTs).pendingExitRequestId = state.pendingExitRequestId := by
    intro state
    unfold clearStaleSl
    split <;> rfl
  unfold clearStalePendingTail
  split
  case isTrue => rfl
  case isFalse idle =>
    simp only [not_or, not_not] at idle
    obtain ⟨sameId, sameTime, sameConfig⟩ := entry strategy
    rw [sl, tp]
    unfold clearStaleExit
    rw [if_neg]
    · exact sameId
    · rw [sameId, sameTime]
      intro stale
      refine kept ⟨idle.1, idle.2.1, idle.2.2, stale.1, ?_⟩
      have late := stale.2
      unfold pendingTimeoutSec at late
      rw [sameConfig] at late
      exact late

theorem recoverPosition_guards (pos : PositionEvent Value) :
    GuardsExit strategy (strategy.recoverPosition ids ctx pos) := by
  unfold recoverPosition
  have same := @activeOrNextCycle_pendingExit Value strategy pos.tsUtc
  generalize strategy.activeOrNextCycle pos.tsUtc = numbered at same ⊢
  obtain ⟨numbered, cycle⟩ := numbered
  dsimp only at same ⊢
  split
  case isTrue => exact .inl ⟨rfl, same⟩
  case isFalse => exact (emitBrokerResidualEmergencyExit_guards _ _).of_same same

theorem fillEntry_noExit (pos : PositionEvent Value) (entry : PendingEntry Value) :
    exitCount (strategy.fillEntry ids ctx pos entry).2 = 0 := by
  unfold fillEntry
  exact (emitMrBracketIntents_keeps pos entry).1

theorem settlePosition_single (pos : PositionEvent Value) (completesPendingEntry : Bool) :
    SingleExit strategy (strategy.settlePosition ids ctx pos completesPendingEntry).2 := by
  unfold settlePosition
  split
  case isTrue =>
    cases strategy.pendingEntry with
    | none => exact (recoverPosition_guards pos).single
    | some entry =>
        have none := @fillEntry_noExit Value _ ids strategy ctx pos entry
        exact ⟨le_of_eq_of_le none (Nat.zero_le 1), fun _ => none⟩
  case isFalse =>
    split
    case isTrue =>
      have none := @closePosition_classCount Value strategy .exit (by decide)
      exact ⟨le_of_eq_of_le none (Nat.zero_le 1), fun _ => none⟩
    case isFalse => exact ⟨Nat.zero_le 1, fun _ => rfl⟩

theorem onPosition_single (nowMs : Int) (pos : PositionEvent Value) :
    SingleExit strategy (strategy.onPosition ids ctx nowMs pos).2 := by
  unfold onPosition
  split
  case isTrue => exact ⟨Nat.zero_le 1, fun _ => rfl⟩
  case isFalse =>
    unfold explainPosition
    dsimp only
    split
    case h_1 entry _ =>
      split
      case isTrue => exact (emitBrokerResidualEmergencyExit_guards _ _).single
      case isFalse =>
        split
        case isTrue => exact ⟨Nat.zero_le 1, fun _ => rfl⟩
        case isFalse => exact settlePosition_single pos true
    case h_2 =>
      split
      case isTrue =>
        unfold onPositionResized
        split
        case isTrue => exact ⟨Nat.zero_le 1, fun _ => rfl⟩
        case isFalse => exact (emitBrokerResidualEmergencyExit_guards _ _).single
      case isFalse => exact settlePosition_single pos false

/-- The bracket has not settled in time, and the position is open. -/
def ReconcileTimedOut (strategy : HybridIntradayRuntimeStrategy Value) (ctx : StrategyCtx Value) (nowTsUtcMs : Int) :
    Prop :=
  (∃ started ∈ strategy.bracketTerminalReconcileStartedMs,
      bracketTerminalReconcileGraceMs ≤ saturatingSub nowTsUtcMs started) ∧
    ¬ IsFlat (ctx.positionQty.getD strategy.lastPositionQty)

/-- Where the bracket has not timed out, a timer changes neither the exit nor the entry that is pending. -/
theorem emitBracketReconcileTimeoutExit_keeps {nowTsUtcMs : Int} (inTime : ¬ ReconcileTimedOut strategy ctx nowTsUtcMs) :
    KeepsExit strategy (strategy.emitBracketReconcileTimeoutExit ids ctx nowTsUtcMs) := by
  unfold emitBracketReconcileTimeoutExit
  split
  case h_1 => exact ⟨rfl, rfl⟩
  case h_2 started running =>
    split
    case isTrue => exact ⟨rfl, rfl⟩
    case isFalse late =>
      dsimp only
      rw [if_pos]
      · exact ⟨rfl, rfl⟩
      · by_contra busy
        rw [not_or] at busy
        exact inTime ⟨⟨started, running, not_lt.1 late⟩, busy.1⟩

theorem emitBracketReconcileTimeoutExit_timedOut (nowTsUtcMs : Int) :
    (strategy.emitBracketReconcileTimeoutExit ids ctx nowTsUtcMs).1.timedOutPartialEntry nowTsUtcMs =
      strategy.timedOutPartialEntry nowTsUtcMs := by
  have cycled : ∀ (state : HybridIntradayRuntimeStrategy Value) (tsUtc : Int),
      (state.activeOrNextCycle tsUtc).1.timedOutPartialEntry nowTsUtcMs = state.timedOutPartialEntry nowTsUtcMs := by
    intro state tsUtc
    unfold activeOrNextCycle
    cases state.activeCycleId <;> rfl
  unfold emitBracketReconcileTimeoutExit
  split
  case h_1 => rfl
  case h_2 =>
    split
    case isTrue => rfl
    case isFalse =>
      dsimp only
      split
      case isTrue => rfl
      case isFalse =>
        unfold emitBrokerResidualEmergencyExit
        split
        case isTrue => rfl
        case isFalse => exact cycled strategy.clearBracketTerminalReconcile _

/-- A timer gives an entry up only where no exit is pending, and none starts before. -/
def SafeTimer (strategy : HybridIntradayRuntimeStrategy Value) (ctx : StrategyCtx Value) (nowTsUtcMs : Int) : Prop :=
  (strategy.timedOutPartialEntry nowTsUtcMs).isSome = true →
    strategy.pendingExitRequestId = none ∧ ¬ ReconcileTimedOut strategy ctx nowTsUtcMs

theorem onTimer_single {nowTsUtcMs : Int} (safe : SafeTimer strategy ctx nowTsUtcMs) :
    SingleExit strategy (strategy.onTimer ids ctx nowTsUtcMs).2 := by
  unfold onTimer
  dsimp only
  have timedOut := @emitBracketReconcileTimeoutExit_timedOut Value _ ids strategy ctx nowTsUtcMs
  cases partialEntry : strategy.timedOutPartialEntry nowTsUtcMs with
  | none =>
      rw [partialEntry] at timedOut
      refine (emitBracketReconcileTimeoutExit_guards nowTsUtcMs).andSingle ?_
      have keeps := @emitPartialEntryTimeoutExit_keeps Value _ ids
        (strategy.emitBracketReconcileTimeoutExit ids ctx nowTsUtcMs).1 ctx nowTsUtcMs timedOut
      exact ⟨le_of_eq_of_le keeps.1 (Nat.zero_le 1), fun _ => keeps.1⟩
  | some entry =>
      rw [partialEntry] at timedOut
      obtain ⟨notPending, inTime⟩ := safe (by rw [partialEntry]; rfl)
      have keeps := @emitBracketReconcileTimeoutExit_keeps Value _ ids strategy ctx nowTsUtcMs inTime
      refine GuardsExit.andSingle (.inl keeps) ?_
      have arms := @emitPartialEntryTimeoutExit_arms Value _ ids
        (strategy.emitBracketReconcileTimeoutExit ids ctx nowTsUtcMs).1 ctx nowTsUtcMs entry timedOut
      refine ⟨le_of_eq arms.1, ?_⟩
      intro pending
      rw [keeps.2, notPending] at pending
      cases pending

end Callbacks

section Steps

variable {Value : Type} [F64 Value] (ids : RequestIds) (strategy : HybridIntradayRuntimeStrategy Value)

/-- The pending exit is given up by a bar, for it has been pending for too long. -/
def TimesOutExit : Callback Value → Prop
  | .bar ctx bar =>
      ¬ IsOpen (ctx.positionQty.getD F64.zero) ∧ strategy.workingOrders = [] ∧ strategy.workingStopOrders = [] ∧
        strategy.isStale bar.closeTimeUtc strategy.pendingExitRequestId strategy.pendingExitCreatedTsUtc
  | _ => False

instance : DecidablePred (TimesOutExit strategy)
  | .bar _ _ => inferInstanceAs (Decidable (_ ∧ _))
  | .ack _ _ | .order _ _ _ | .stopOrder _ _ _ | .position _ _ _ | .timer _ _ | .bootstrapSnapshot _ _
  | .runtimeStateRestored _ => inferInstanceAs (Decidable False)

/-- One exit at most is returned, and none while another one is pending and not given up. -/
def OneExit (callback : Callback Value) : Prop :=
  exitCount (strategy.returned ids callback) ≤ 1 ∧
    (strategy.pendingExitRequestId.isSome = true → ¬ TimesOutExit strategy callback →
      exitCount (strategy.returned ids callback) = 0)

instance (callback : Callback Value) : Decidable (OneExit ids strategy callback) :=
  inferInstanceAs (Decidable (_ ∧ _))

def FlattensOnce : Callback Value → Prop
  | .bar ctx bar =>
      (∀ dt, strategy.AcceptsBar bar dt → strategy.startupReplayBoundary ctx bar = none →
        SafeBar (strategy.clearStalePendingTail bar.closeTimeUtc (ctx.positionQty.getD F64.zero)) ctx bar)
  | .timer ctx nowTsUtcMs => SafeTimer strategy ctx nowTsUtcMs
  | _ => True

variable {ids} {strategy}

theorem onBar_oneExit {ctx : StrategyCtx Value} {bar : BarEvent Value} (safe : FlattensOnce strategy (.bar ctx bar)) :
    OneExit ids strategy (.bar ctx bar) := by
  have course := strategy.onBar_course ids ctx bar
  unfold OneExit returned call
  dsimp only
  generalize strategy.onBar ids ctx bar = result at course ⊢
  cases course with
  | passedOver idle same => exact ⟨Nat.zero_le 1, fun _ _ => rfl⟩
  | replayed dt input sameTime accepts replay => exact ⟨Nat.zero_le 1, fun _ _ => rfl⟩
  | actedOn dt accepts current =>
      have same := strategy.stateForBar_tradeState ctx dt bar
      have kept : SafeBar (strategy.stateForBar ctx dt bar) ctx bar := by
        have moved := congrArg (fun state => SafeBar state ctx bar) same
        exact moved.mpr (safe dt accepts current)
      have single := @processBar_single Value _ ids _ ctx bar kept dt
        ((strategy.learnFromBar dt bar).prevDayClose.getD bar.close)
        ((strategy.learnFromBar dt bar).prevDayRange.getD F64.zero) strategy.lastDayLocal
        (decide (IsOpen (ctx.positionQty.getD F64.zero)))
      refine ⟨single.1, ?_⟩
      intro pending notTimedOut
      refine single.2 ?_
      have samePending := congrArg pendingExitRequestId same
      have keptPending : (strategy.stateForBar ctx dt bar).pendingExitRequestId = strategy.pendingExitRequestId :=
        samePending.trans (clearStalePendingTail_pendingExit notTimedOut)
      rw [keptPending]
      exact pending

theorem oneExit_of_flattensOnce {callback : Callback Value} (safe : FlattensOnce strategy callback) :
    OneExit ids strategy callback := by
  have ofSingle : SingleExit strategy (strategy.returned ids callback) → OneExit ids strategy callback :=
    fun single => ⟨single.1, fun pending _ => single.2 pending⟩
  have ofNone : exitCount (strategy.returned ids callback) = 0 → OneExit ids strategy callback :=
    fun none => ⟨le_of_eq_of_le none (Nat.zero_le 1), fun _ _ => none⟩
  cases callback with
  | bar ctx bar => exact onBar_oneExit safe
  | ack ctx ack => exact ofNone (onAck_classCount (by decide) ack)
  | order ctx nowMs order => exact ofNone (onOrder_classCount .exit nowMs order)
  | stopOrder ctx nowMs order => exact ofNone (onStopOrder_classCount (by decide) nowMs order)
  | position ctx nowMs pos => exact ofSingle (onPosition_single nowMs pos)
  | timer ctx nowTsUtcMs => exact ofSingle (onTimer_single safe)
  | bootstrapSnapshot ctx snapshot =>
      refine ofNone ?_
      unfold returned call onBootstrapSnapshot
      dsimp only
      split <;> rfl
  | runtimeStateRestored ctx => exact ofNone rfl

end Steps

/-- Over a run in which bars and timers flatten once, one exit order at most is in flight. -/
theorem one_exit_in_flight {Value : Type} [F64 Value] (ids : RequestIds)
    (strategy : HybridIntradayRuntimeStrategy Value) (callbacks : List (Callback Value))
    (all : EveryStep (after ids) FlattensOnce strategy callbacks) :
    EveryStep (after ids) (OneExit ids) strategy callbacks :=
  all.imp fun _ _ safe => oneExit_of_flattensOnce safe

/-- A residual that nobody explains is flattened, and a bar behind that returns nothing. -/
def residualRun : List (Callback Float) :=
  [.position (sampleCtx .live none 1767607000) 1767607000000 (positionEvent 1 1767607000),
    .bar (sampleCtx .live (some 1) 1767607200) (flatBar 100 1767607200)]

theorem one_exit_in_flight_residual :
    EveryStep (after sampleIds) FlattensOnce (new (sampleConfig Float)) residualRun ∧
      EveryStep (after sampleIds) (OneExit sampleIds) (new (sampleConfig Float)) residualRun := by
  have once : EveryStep (after sampleIds) FlattensOnce (new (sampleConfig Float)) residualRun :=
    ⟨trivial, fun _ _ _ => by decide, trivial⟩
  exact ⟨once, one_exit_in_flight sampleIds (new (sampleConfig Float)) residualRun once⟩

def ExecutesLive {Value : Type} : Callback Value → Prop
  | .bar ctx bar => ctx.canExecuteNow (decide (bar.origin = .live)) = true → bar.origin = .live
  | _ => True

def triggeredStopRun : List (Callback Float) :=
  [.bootstrapSnapshot (sampleCtx .live none 1767606000)
      { positionsStrategy := [("IMOEXF", positionEvent 1 1767606000)]
        workingOrdersStrategy := []
        workingStopOrdersStrategy := [(⟨"S-1", sampleStopLossId_nonEmpty⟩, stopLossEvent "working" 1767606000)] },
    .position (sampleCtx .live none 1767606900) 1767606900000 (positionEvent 2 1767606900),
    .stopOrder (sampleCtx .live none 1767607000) 1767607000000 (stopLossEvent "triggered" 1767607000),
    .bar (sampleCtx .live (some 2) 1767607200) (flatBar 100 1767607200)]

/-- The escalation of a triggered stop flattens a position that is being flattened already. -/
theorem triggered_stop_flattens_twice :
    ¬ ∀ (config : HybridIntradayRuntimeConfig Float) (callbacks : List (Callback Float)),
      (∀ callback ∈ callbacks, ExecutesLive callback) →
        EveryStep (after sampleIds) (OneExit sampleIds) (new config) callbacks := by
  intro all
  have live : ∀ callback ∈ triggeredStopRun, ExecutesLive callback := by
    intro callback member
    simp only [triggeredStopRun, List.mem_cons, List.not_mem_nil, or_false] at member
    rcases member with rfl | rfl | rfl | rfl
    · trivial
    · trivial
    · trivial
    · exact fun _ => rfl
  have twice : ¬ EveryStep (after sampleIds) (OneExit sampleIds) (new (sampleConfig Float)) triggeredStopRun := by
    decide
  exact twice (all (sampleConfig Float) triggeredStopRun live)

end TradingGateway.HybridIntraday
