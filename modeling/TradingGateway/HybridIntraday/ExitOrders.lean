import TradingGateway.HybridIntraday.IntentCounts

/-! Flattening orders: how many a callback returns, and which emitters look at the pending one first. -/

set_option autoImplicit false

namespace TradingGateway.HybridIntraday

open BrokerCore.Orders Foundation.MachineNumbers
open HybridIntradayRuntimeStrategy

section Counting

variable {Value : Type}

/-- An emission that leaves the pending exit alone, and emits none. -/
def KeepsExit (before : HybridIntradayRuntimeStrategy Value)
    (result : HybridIntradayRuntimeStrategy Value × List (Intent Value)) : Prop :=
  exitCount result.2 = 0 ∧ result.1.pendingExitRequestId = before.pendingExitRequestId

def ArmsExit (result : HybridIntradayRuntimeStrategy Value × List (Intent Value)) : Prop :=
  exitCount result.2 = 1 ∧ result.1.pendingExitRequestId.isSome = true

def GuardsExit (before : HybridIntradayRuntimeStrategy Value)
    (result : HybridIntradayRuntimeStrategy Value × List (Intent Value)) : Prop :=
  KeepsExit before result ∨ (before.pendingExitRequestId = none ∧ ArmsExit result)

def SingleExit (before : HybridIntradayRuntimeStrategy Value) (intents : List (Intent Value)) : Prop :=
  exitCount intents ≤ 1 ∧ (before.pendingExitRequestId.isSome = true → exitCount intents = 0)

variable {before : HybridIntradayRuntimeStrategy Value}
  {first second : HybridIntradayRuntimeStrategy Value × List (Intent Value)} {intents : List (Intent Value)}

theorem GuardsExit.single (guards : GuardsExit before first) : SingleExit before first.2 := by
  rcases guards with ⟨none, -⟩ | ⟨notPending, once, -⟩
  · exact ⟨by omega, fun _ => none⟩
  · refine ⟨by omega, ?_⟩
    intro pending
    rw [notPending] at pending
    cases pending

theorem GuardsExit.of_same {earlier : HybridIntradayRuntimeStrategy Value} (guards : GuardsExit before first)
    (same : before.pendingExitRequestId = earlier.pendingExitRequestId) : GuardsExit earlier first := by
  unfold GuardsExit KeepsExit at guards ⊢
  rw [← same]
  exact guards

/-- Behind a guarded emission, a single exit is still a single one. -/
theorem GuardsExit.andSingle (guards : GuardsExit before first) (single : SingleExit first.1 intents) :
    SingleExit before (first.2 ++ intents) := by
  unfold SingleExit
  rw [exitCount_append]
  rcases guards with ⟨none, same⟩ | ⟨notPending, once, armed⟩
  · rw [none, Nat.zero_add, ← same]
    exact single
  · rw [single.2 armed, once]
    refine ⟨le_refl _, ?_⟩
    intro pending
    rw [notPending] at pending
    cases pending

theorem GuardsExit.andGuards (guards : GuardsExit before first) (next : GuardsExit first.1 second) :
    GuardsExit before (second.1, first.2 ++ second.2) := by
  unfold GuardsExit KeepsExit ArmsExit at *
  rw [exitCount_append]
  rcases guards with ⟨none, same⟩ | ⟨notPending, once, armed⟩
  · rw [none, Nat.zero_add, ← same]
    exact next
  · rcases next with ⟨none, same⟩ | ⟨notPendingAgain, -⟩
    · exact .inr ⟨notPending, by rw [once, none], by rw [same]; exact armed⟩
    · rw [notPendingAgain] at armed
      cases armed

variable {strategy : HybridIntradayRuntimeStrategy Value}

@[simp] theorem activeOrNextCycle_pendingExit (tsUtc : Int) :
    (strategy.activeOrNextCycle tsUtc).1.pendingExitRequestId = strategy.pendingExitRequestId := by
  unfold activeOrNextCycle
  cases strategy.activeCycleId <;> rfl

end Counting

section Emitters

variable {Value : Type} [F64 Value] {ids : RequestIds} {strategy : HybridIntradayRuntimeStrategy Value}
  {ctx : StrategyCtx Value}

@[simp] theorem exitCount_exitIntent (side : OrderSide) (qty referencePrice : Value) (comment : String) :
    exitCount [strategy.exitIntent ctx side qty referencePrice comment] = 1 := by
  simp [exitIntent]

theorem emitMrBracketIntents_keeps (pos : PositionEvent Value) (entry : PendingEntry Value) :
    KeepsExit strategy (strategy.emitMrBracketIntents ids ctx pos entry) := by
  unfold KeepsExit emitMrBracketIntents
  split
  case isTrue => exact ⟨rfl, rfl⟩
  case isFalse =>
    cases entry.takePrice <;> cases entry.stopPrice <;> simp [emitTakeProfit, emitStopLoss]

theorem emitBrokerResidualEmergencyExit_guards (pos : PositionEvent Value) (reason : String) :
    GuardsExit strategy (strategy.emitBrokerResidualEmergencyExit ids ctx pos reason) := by
  unfold emitBrokerResidualEmergencyExit
  split
  case isTrue => exact .inl ⟨rfl, rfl⟩
  case isFalse notPending =>
    refine .inr ⟨Option.not_isSome_iff_eq_none.1 fun pending => notPending (.inl pending), ?_⟩
    exact ⟨by simp [emitCancelAllProtection], rfl⟩

theorem emitBracketReconcileTimeoutExit_guards (nowTsUtcMs : Int) :
    GuardsExit strategy (strategy.emitBracketReconcileTimeoutExit ids ctx nowTsUtcMs) := by
  unfold emitBracketReconcileTimeoutExit
  split
  case h_1 => exact .inl ⟨rfl, rfl⟩
  case h_2 =>
    split
    case isTrue => exact .inl ⟨rfl, rfl⟩
    case isFalse =>
      dsimp only
      split
      case isTrue => exact .inl ⟨rfl, rfl⟩
      case isFalse =>
        exact (emitBrokerResidualEmergencyExit_guards _ _ :
          GuardsExit strategy.clearBracketTerminalReconcile _)

/-- The exit of a partial entry that has timed out does not look at the pending one. -/
theorem emitPartialEntryTimeoutExit_arms {nowTsUtcMs : Int} {entry : PendingEntry Value}
    (timedOut : strategy.timedOutPartialEntry nowTsUtcMs = some entry) :
    ArmsExit (strategy.emitPartialEntryTimeoutExit ids ctx nowTsUtcMs) := by
  unfold emitPartialEntryTimeoutExit
  rw [timedOut]
  exact ⟨by simp, rfl⟩

theorem emitPartialEntryTimeoutExit_keeps {nowTsUtcMs : Int}
    (notTimedOut : strategy.timedOutPartialEntry nowTsUtcMs = none) :
    KeepsExit strategy (strategy.emitPartialEntryTimeoutExit ids ctx nowTsUtcMs) := by
  unfold emitPartialEntryTimeoutExit
  rw [notTimedOut]
  exact ⟨rfl, rfl⟩

theorem submitEntry_keeps (createdTsUtc : Int) (canEmit canExecute : Bool) (referencePrice : Value)
    (entry : EntrySignal Value) :
    KeepsExit strategy (strategy.submitEntry ids ctx createdTsUtc canEmit canExecute referencePrice entry) := by
  unfold KeepsExit submitEntry
  split
  case isTrue => exact ⟨rfl, rfl⟩
  case isFalse => cases canExecute <;> simp

/-- An exit that the orchestrator asks for is suppressed behind a pending one; it is pending
itself only where it can be executed. -/
theorem submitExit_cases (createdTsUtc : Int) (canEmit canExecute : Bool) (referencePrice : Value) (owner : Owner)
    (reason : ReasonCode) :
    KeepsExit strategy (strategy.submitExit ids ctx createdTsUtc canEmit canExecute referencePrice owner reason) ∨
      (strategy.pendingExitRequestId = none ∧ canEmit = true ∧
        exitCount (strategy.submitExit ids ctx createdTsUtc canEmit canExecute referencePrice owner reason).2 = 1 ∧
        (canExecute = true →
          (strategy.submitExit ids ctx createdTsUtc canEmit canExecute referencePrice owner
            reason).1.pendingExitRequestId.isSome = true)) := by
  unfold submitExit
  split
  case isTrue => exact .inl ⟨rfl, rfl⟩
  case isFalse open_ =>
    rw [not_or] at open_
    split
    case h_1 => exact .inl ⟨rfl, rfl⟩
    case h_2 posQty _ =>
      split
      case isTrue => exact .inl ⟨rfl, rfl⟩
      case isFalse =>
        refine .inr ⟨Option.not_isSome_iff_eq_none.1 open_.2, Bool.eq_true_of_not_eq_false open_.1, by simp, ?_⟩
        intro executes
        subst executes
        rfl

def Action.IsExit : Action Value → Prop
  | .submitExit _ _ => True
  | _ => False

instance : DecidablePred (@Action.IsExit Value)
  | .submitEntry _ => inferInstanceAs (Decidable False)
  | .submitExit _ _ => inferInstanceAs (Decidable True)
  | .armOvernightExit _ _ _ _ => inferInstanceAs (Decidable False)

theorem mapAction_keeps {action : Action Value} (notExit : ¬ action.IsExit) (createdTsUtc : Int)
    (canEmit canExecute : Bool) (referencePrice : Value) :
    KeepsExit strategy (strategy.mapActionToIntentsWithReference ids ctx createdTsUtc canEmit canExecute referencePrice
      action) := by
  cases action with
  | submitEntry entry => exact submitEntry_keeps _ _ _ _ _
  | submitExit owner reason => exact absurd trivial notExit
  | armOvernightExit owner reason armedDate exitTime => exact ⟨rfl, rfl⟩

theorem mapAction_guards (action : Action Value) (createdTsUtc : Int) {canEmit canExecute : Bool}
    (executes : canEmit = true → canExecute = true) (referencePrice : Value) :
    GuardsExit strategy (strategy.mapActionToIntentsWithReference ids ctx createdTsUtc canEmit canExecute referencePrice
      action) := by
  by_cases isExit : action.IsExit
  · cases action with
    | submitExit owner reason =>
        rcases submitExit_cases createdTsUtc canEmit canExecute
          referencePrice owner reason with keeps | ⟨notPending, emits, once, armed⟩
        · exact .inl keeps
        · exact .inr ⟨notPending, once, armed (executes emits)⟩
    | submitEntry entry => exact absurd isExit id
    | armOvernightExit owner reason armedDate exitTime => exact absurd isExit id
  · exact .inl (mapAction_keeps isExit _ _ _ _)

theorem mapActions_none (createdTsUtc : Int) (canEmit canExecute : Bool) (actions : List (Action Value))
    (pending : strategy.pendingExitRequestId.isSome = true) :
    exitCount (mapActions ids ctx createdTsUtc canEmit canExecute strategy actions).2 = 0 := by
  induction actions generalizing strategy with
  | nil => rfl
  | cons action rest ih =>
      have keeps : KeepsExit strategy (strategy.mapActionToIntentsWithReference ids ctx createdTsUtc canEmit canExecute
          strategy.liveReferencePrice action) := by
        by_cases isExit : action.IsExit
        · cases action with
          | submitExit owner reason =>
              rcases submitExit_cases createdTsUtc canEmit canExecute
                strategy.liveReferencePrice owner reason with keeps | ⟨notPending, -⟩
              · exact keeps
              · rw [notPending] at pending
                cases pending
          | submitEntry entry => exact absurd isExit id
          | armOvernightExit owner reason armedDate exitTime => exact absurd isExit id
        · exact mapAction_keeps isExit _ _ _ _
      unfold mapActions
      dsimp only
      rw [exitCount_append, keeps.1, ih (by rw [keeps.2]; exact pending)]

/-- Actions that can be executed arm what they emit. -/
theorem mapActions_guards (createdTsUtc : Int) {canEmit canExecute : Bool}
    (executes : canEmit = true → canExecute = true) (actions : List (Action Value)) :
    GuardsExit strategy (mapActions ids ctx createdTsUtc canEmit canExecute strategy actions) := by
  induction actions generalizing strategy with
  | nil => exact .inl ⟨rfl, rfl⟩
  | cons action rest ih =>
      unfold mapActions
      exact (mapAction_guards action createdTsUtc executes strategy.liveReferencePrice).andGuards ih

/-- Actions that ask for one exit at most emit one at most. -/
theorem mapActions_le_one (createdTsUtc : Int) (canEmit canExecute : Bool) (actions : List (Action Value)) :
    exitCount (mapActions ids ctx createdTsUtc canEmit canExecute strategy actions).2 ≤
      actions.countP fun action => decide action.IsExit := by
  induction actions generalizing strategy with
  | nil => exact le_refl _
  | cons action rest ih =>
      unfold mapActions
      dsimp only
      rw [exitCount_append, List.countP_cons, Nat.add_comm]
      refine Nat.add_le_add ih ?_
      by_cases isExit : action.IsExit
      · rw [if_pos (decide_eq_true isExit)]
        cases action with
        | submitExit owner reason =>
            rcases submitExit_cases createdTsUtc canEmit canExecute
              strategy.liveReferencePrice owner reason with ⟨none, -⟩ | ⟨-, -, once, -⟩
            · exact Nat.le_succ_of_le (le_of_eq none)
            · exact le_of_eq once
        | submitEntry entry => exact absurd isExit id
        | armOvernightExit owner reason armedDate exitTime => exact absurd isExit id
      · rw [(mapAction_keeps isExit _ _ _ _).1]
        exact Nat.zero_le _

/-! ### Repair of the bracket -/

theorem emitStopEscalation_arms (nowTs : Int) (posQty : Value) :
    ArmsExit (strategy.emitStopEscalation ids ctx nowTs posQty) := by
  unfold ArmsExit emitStopEscalation
  exact ⟨by simp, rfl⟩

theorem emitRepairDeadlineExit_arms (nowTs : Int) (posQty : Value) (cycle : CycleId) :
    ArmsExit (strategy.emitRepairDeadlineExit ids ctx nowTs posQty cycle) := by
  unfold ArmsExit emitRepairDeadlineExit
  exact ⟨by simp, rfl⟩

theorem emitMissingBracket_keeps (nowTs : Int) (posQty takePrice stopPrice : Value) (cycle : CycleId) :
    KeepsExit strategy (strategy.emitMissingBracket ids ctx nowTs posQty takePrice stopPrice cycle) := by
  unfold KeepsExit emitMissingBracket
  cases strategy.hasTp <;> cases strategy.hasSl <;> simp [emitTakeProfit, emitStopLoss, scheduleNextRepair]

end Emitters

section Repair

variable {Value : Type} [F64 Value] (strategy : HybridIntradayRuntimeStrategy Value)

def RepairDeadlinePassed (nowTs : Int) : Prop :=
  (strategy.hasTp && strategy.hasSl) = false ∧ strategy.activeCycleId.isSome = true ∧
    strategy.mrTakePrice.isSome = true ∧ strategy.mrStopPrice.isSome = true ∧
      ∃ deadline ∈ strategy.repairDeadlineTs, deadline ≤ nowTs

instance (nowTs : Int) : Decidable (RepairDeadlinePassed strategy nowTs) :=
  inferInstanceAs (Decidable (_ ∧ _))

/-- The repair of a bar gives the position up: its stop was triggered too long ago, or its bracket
is not complete at the deadline. -/
def FlattensByForce (nowTs : Int) (posQty : Value) : Prop :=
  ¬ IsFlat posQty ∧ strategy.currentOwner = some .meanReversion ∧
    match strategy.slTriggeredTs with
    | some triggeredTs => saturatingAdd triggeredTs (asI64 strategy.config.slEscalateTimeoutSec) ≤ nowTs
    | none => RepairDeadlinePassed strategy nowTs

instance (nowTs : Int) (posQty : Value) : Decidable (FlattensByForce strategy nowTs posQty) := by
  unfold FlattensByForce
  cases strategy.slTriggeredTs <;> infer_instance

variable {strategy} {ids : RequestIds} {ctx : StrategyCtx Value}

theorem repairBracket_cases (nowTs : Int) (posQty takePrice stopPrice : Value) (cycle : CycleId) :
    ((∃ deadline ∈ strategy.repairDeadlineTs, deadline ≤ nowTs) ∧
        ArmsExit (strategy.repairBracket ids ctx nowTs posQty takePrice stopPrice cycle)) ∨
      ((¬ ∃ deadline ∈ strategy.repairDeadlineTs, deadline ≤ nowTs) ∧
        KeepsExit strategy (strategy.repairBracket ids ctx nowTs posQty takePrice stopPrice cycle)) := by
  unfold repairBracket
  by_cases late : ∃ deadline ∈ strategy.repairDeadlineTs, deadline ≤ nowTs
  · rw [if_pos late]
    exact .inl ⟨late, emitRepairDeadlineExit_arms nowTs posQty cycle⟩
  · rw [if_neg late]
    refine .inr ⟨late, ?_⟩
    split
    case isTrue => exact ⟨rfl, rfl⟩
    case isFalse =>
      split
      case isTrue => exact ⟨rfl, rfl⟩
      case isFalse =>
        split
        case isTrue => exact ⟨rfl, rfl⟩
        case isFalse => exact emitMissingBracket_keeps nowTs posQty takePrice stopPrice cycle

/-- The repair of a bar emits an exit exactly where it gives the position up, and does not look
at the pending one. -/
theorem maybeEmitRepairIntents_cases (nowTs : Int) :
    (FlattensByForce strategy nowTs (ctx.positionQty.getD F64.zero) ∧
        ArmsExit (strategy.maybeEmitRepairIntents ids ctx nowTs)) ∨
      (¬ FlattensByForce strategy nowTs (ctx.positionQty.getD F64.zero) ∧
        KeepsExit strategy (strategy.maybeEmitRepairIntents ids ctx nowTs)) := by
  unfold maybeEmitRepairIntents
  dsimp only
  by_cases idle : IsFlat (ctx.positionQty.getD F64.zero) ∨ strategy.currentOwner ≠ some .meanReversion
  · rw [if_pos idle]
    refine .inr ⟨?_, rfl, rfl⟩
    intro forced
    exact idle.elim forced.1 fun other => other forced.2.1
  · rw [if_neg idle]
    rw [not_or, not_not] at idle
    cases triggered : strategy.slTriggeredTs with
    | some triggeredTs =>
        dsimp only
        by_cases early : nowTs < saturatingAdd triggeredTs (asI64 strategy.config.slEscalateTimeoutSec)
        · rw [if_pos early]
          refine .inr ⟨?_, rfl, rfl⟩
          intro forced
          have due := forced.2.2
          rw [triggered] at due
          exact absurd early (not_lt.2 due)
        · rw [if_neg early]
          refine .inl ⟨⟨idle.1, idle.2, ?_⟩, emitStopEscalation_arms nowTs _⟩
          rw [triggered]
          exact not_lt.1 early
    | none =>
        have forced_iff : FlattensByForce strategy nowTs (ctx.positionQty.getD F64.zero) ↔
            RepairDeadlinePassed strategy nowTs := by
          unfold FlattensByForce
          rw [triggered]
          exact ⟨fun forced => forced.2.2, fun passed => ⟨idle.1, idle.2, passed⟩⟩
        rw [forced_iff]
        dsimp only
        by_cases complete : strategy.hasTp = true ∧ strategy.hasSl = true
        · rw [if_pos complete]
          refine .inr ⟨?_, rfl, rfl⟩
          rintro ⟨incomplete, -⟩
          rw [complete.1, complete.2] at incomplete
          cases incomplete
        · rw [if_neg complete]
          have incomplete : (strategy.hasTp && strategy.hasSl) = false := by
            rw [← Bool.not_eq_true, Bool.and_eq_true]
            exact complete
          cases cycle : strategy.activeCycleId with
          | none => exact .inr ⟨fun passed => Option.not_isSome_iff_eq_none.2 cycle passed.2.1, rfl, rfl⟩
          | some active =>
              cases take : strategy.mrTakePrice with
              | none => exact .inr ⟨fun passed => Option.not_isSome_iff_eq_none.2 take passed.2.2.1, rfl, rfl⟩
              | some takePrice =>
                  cases stop : strategy.mrStopPrice with
                  | none => exact .inr ⟨fun passed => Option.not_isSome_iff_eq_none.2 stop passed.2.2.2.1, rfl, rfl⟩
                  | some stopPrice =>
                      rcases repairBracket_cases nowTs
                        (ctx.positionQty.getD F64.zero) takePrice stopPrice active with
                        ⟨late, arms⟩ | ⟨early, keeps⟩
                      · exact .inl ⟨⟨incomplete, by simp [cycle], by simp [take], by simp [stop], late⟩, arms⟩
                      · exact .inr ⟨fun passed => early passed.2.2.2.2, keeps⟩

end Repair

end TradingGateway.HybridIntraday
