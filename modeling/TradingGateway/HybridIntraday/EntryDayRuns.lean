import TradingGateway.HybridIntraday.EntryDays

/-! Runs of a strategy that its host restarts. A restart sets a new strategy to the published state, tells it what
the broker reports, and warms it up from the bars received so far. -/

set_option autoImplicit false

namespace TradingGateway.HybridIntraday

open BrokerCore.Identifiers BrokerCore.Orders Foundation.MachineNumbers Foundation.Runs
open HybridIntradayRuntimeStrategy IntradayBreakoutEngine

/-- A strategy under its host: what it has published, the bars that it has received, and the entries of the
breakout that position events have filled, by local day and side. -/
structure HostedStrategy (Value : Type) where
  strategy : HybridIntradayRuntimeStrategy Value
  published : StrategyState Value
  received : List (BarEvent Value)
  filled : List (NaiveDate × Side)

inductive HostStep (Value : Type) where
  | callback (event : Callback Value)
  | restart (bootstrapCtx : StrategyCtx Value) (snapshot : BootstrapSnapshot Value) (restoredCtx : StrategyCtx Value)

namespace HostedStrategy

variable {Value : Type} [F64 Value]

def start (config : HybridIntradayRuntimeConfig Value) : HostedStrategy Value :=
  { strategy := new config, published := .idle, received := [], filled := [] }

def receivedBy : Callback Value → List (BarEvent Value)
  | .bar _ bar => [bar]
  | _ => []

def filledBy (strategy : HybridIntradayRuntimeStrategy Value) : Callback Value → List (NaiveDate × Side)
  | .position _ _ pos =>
      match entryFilledBy strategy pos, strategy.utcToLocalNaive pos.tsUtc with
      | some (.intradayBreakout, side), some dt => [(dt.date, side)]
      | _, _ => []
  | _ => []

def restarted (hosted : HostedStrategy Value) (bootstrapCtx : StrategyCtx Value) (snapshot : BootstrapSnapshot Value)
    (restoredCtx : StrategyCtx Value) : HybridIntradayRuntimeStrategy Value :=
  let restored := (new hosted.strategy.config).setState hosted.published
  let booted := (restored.onBootstrapSnapshot bootstrapCtx snapshot).1
  let resumed := (booted.onRuntimeStateRestored restoredCtx).1
  (resumed.warmupFromHistory hosted.received).1

def advance (ids : RequestIds) (hosted : HostedStrategy Value) : HostStep Value → HostedStrategy Value
  | .callback event =>
      { strategy := hosted.strategy.after ids event
        published := hosted.strategy.publishedAfter ids hosted.published event
        received := hosted.received ++ receivedBy event
        filled := filledBy hosted.strategy event ++ hosted.filled }
  | .restart bootstrapCtx snapshot restoredCtx =>
      let strategy := hosted.restarted bootstrapCtx snapshot restoredCtx
      { hosted with strategy := strategy, published := strategy.syncState }

end HostedStrategy

open HostedStrategy

/-- At most one entry of the breakout was filled for each side on each local day. -/
def OneEntryPerSide (filled : List (NaiveDate × Side)) : Prop :=
  ∀ day side, filled.count (day, side) ≤ 1

section Steps

variable {Value : Type} [F64 Value] {strategy : HybridIntradayRuntimeStrategy Value} {ctx : StrategyCtx Value}
variable {ids : RequestIds} {filled : List (NaiveDate × Side)}

def daily (strategy : HybridIntradayRuntimeStrategy Value) :
    HybridIntradayRuntimeConfig Value × Option NaiveDate × EntryDay :=
  (strategy.config, strategy.lastDayLocal, entryDay strategy)

/-- The state without what the broker reports at the start. -/
def unreported (strategy : HybridIntradayRuntimeStrategy Value) : HybridIntradayRuntimeStrategy Value :=
  { orderless strategy with lastPositionQty := F64.zero }

omit [F64 Value] in
theorem onOrder_daily (nowMs : Int) (order : OrderEvent) :
    daily (strategy.onOrder ctx nowMs order).1 = daily strategy := by
  have same := congrArg daily (@onOrder_orderless Value strategy ctx nowMs order)
  exact same

omit [F64 Value] in
theorem onStopOrder_daily (nowMs : Int) (order : StopOrderEvent) :
    daily (strategy.onStopOrder ctx nowMs order).1 = daily strategy := by
  have same := congrArg daily (@onStopOrder_orderless Value strategy ctx nowMs order)
  exact same

/-- The start is told of orders and of the position, and nothing else changes. -/
theorem onBootstrapSnapshot_unreported (snapshot : BootstrapSnapshot Value) :
    unreported (strategy.onBootstrapSnapshot ctx snapshot).1 = unreported strategy := by
  have noted (state : HybridIntradayRuntimeStrategy Value) (owner : Option Owner) (tag : HybridTag) :
      unreported (state.noteTagOwner owner tag).1 = unreported state := by
    unfold noteTagOwner
    cases owner with
    | none => rfl
    | some owner =>
        dsimp only
        split <;> rfl
  have order (state : HybridIntradayRuntimeStrategy Value × Option Owner) (row : BrokerOrderId × OrderEvent) :
      unreported (adoptOrder ctx state row).1 = unreported state.1 := by
    unfold adoptOrder
    dsimp only
    split
    case isTrue => rfl
    case isFalse =>
      split
      case h_1 => rfl
      case h_2 tag _ =>
        have kept := noted ({ state.1 with
          workingOrders := state.1.workingOrders.insert row.1 }.ensureActiveCycleFromComment row.2.comment) state.2 tag
        dsimp only
        split
        case isTrue => exact kept
        case isFalse => exact kept
  have stopOrder (state : HybridIntradayRuntimeStrategy Value × Option Owner)
      (row : BrokerStopOrderId × StopOrderEvent) : unreported (adoptStopOrder ctx state row).1 = unreported state.1 := by
    unfold adoptStopOrder
    dsimp only
    split
    case isTrue => rfl
    case isFalse =>
      split
      case h_1 => rfl
      case h_2 tag _ =>
        have kept := noted ({ state.1 with
          workingStopOrders := state.1.workingStopOrders.insert row.1 }.ensureActiveCycleFromComment row.2.comment)
          state.2 tag
        dsimp only
        split
        case isTrue => exact kept
        case isFalse => exact kept
  have orders (rows : List (BrokerOrderId × OrderEvent)) (state : HybridIntradayRuntimeStrategy Value × Option Owner) :
      unreported (rows.foldl (adoptOrder ctx) state).1 = unreported state.1 := by
    induction rows generalizing state with
    | nil => rfl
    | cons row rest ih => exact (ih _).trans (order state row)
  have stopOrders (rows : List (BrokerStopOrderId × StopOrderEvent))
      (state : HybridIntradayRuntimeStrategy Value × Option Owner) :
      unreported (rows.foldl (adoptStopOrder ctx) state).1 = unreported state.1 := by
    induction rows generalizing state with
    | nil => rfl
    | cons row rest ih => exact (ih _).trans (stopOrder state row)
  unfold onBootstrapSnapshot
  dsimp only
  have adopted := (stopOrders snapshot.workingStopOrdersStrategy _).trans
    (orders snapshot.workingOrdersStrategy ({ strategy with
      workingOrders := []
      workingStopOrders := []
      tpOrderId := none
      slStopOrderId := none
      slExchangeOrderId := none }, none))
  split
  case h_1 position _ =>
    unfold adoptPosition
    dsimp only
    split
    case isTrue => exact adopted
    case isFalse => exact adopted
  case h_2 => exact adopted

theorem onBootstrapSnapshot_daily (snapshot : BootstrapSnapshot Value) :
    daily (strategy.onBootstrapSnapshot ctx snapshot).1 = daily strategy := by
  have same := congrArg daily (@onBootstrapSnapshot_unreported Value _ strategy ctx snapshot)
  exact same

theorem onRuntimeStateRestored_guards (guards : GuardsDay filled strategy) :
    GuardsDay filled (strategy.onRuntimeStateRestored ctx).1 := by
  have armed (state : HybridIntradayRuntimeStrategy Value) : entryDay (state.armStartupReplayGuard ctx) = entryDay state := by
    unfold armStartupReplayGuard
    split <;> rfl
  refine GuardsDay.of_same ?_ (armed _)
  unfold clearBootStalePendingTail
  dsimp only
  split
  case isTrue => exact guards
  case isFalse => exact guards.drop rfl (.inl rfl) (.inl rfl)

theorem onRuntimeStateRestored_taught : (strategy.onRuntimeStateRestored ctx).1.taught = strategy.taught := by
  have armed (state : HybridIntradayRuntimeStrategy Value) : (state.armStartupReplayGuard ctx).taught = state.taught := by
    unfold armStartupReplayGuard
    split <;> rfl
  refine Eq.trans (armed _) ?_
  unfold clearBootStalePendingTail
  dsimp only
  split <;> rfl

theorem onAck_taught (ack : CommandAck) : (strategy.onAck ack).1.taught = strategy.taught := by
  have cycled : (strategy.activeOrNextCycle ack.processedTsUtc).1.taught = strategy.taught := by
    have same := congrArg taught (@activeOrNextCycle_bracketless Value strategy ack.processedTsUtc)
    exact same
  unfold onAck
  split
  case isTrue =>
    split
    case isTrue =>
      unfold rejectEntry
      dsimp only
      split <;> rfl
    case isFalse => rfl
  case isFalse =>
    split
    case isTrue =>
      split
      case isTrue =>
        unfold rejectExit
        split
        case isTrue => exact cycled
        case isFalse => rfl
      case isFalse => rfl
    case isFalse =>
      split
      case isTrue => split <;> rfl
      case isFalse =>
        split
        case isTrue => split <;> rfl
        case isFalse =>
          unfold retrySiblingCleanup
          split <;> rfl

theorem explainPosition_taught (nowMs : Int) (pos : PositionEvent Value) :
    (strategy.explainPosition ids ctx nowMs pos).1.taught = strategy.taught := by
  have flattened (state : HybridIntradayRuntimeStrategy Value) (reason : String) :
      (state.emitBrokerResidualEmergencyExit ids ctx pos reason).1.taught = state.taught :=
    (emitBrokerResidualEmergencyExit_spares pos reason).taught
  have settled (completes : Bool) : (strategy.settlePosition ids ctx pos completes).1.taught = strategy.taught := by
    unfold settlePosition
    split
    case isTrue =>
      cases strategy.pendingEntry with
      | some entry => exact (emitMrBracketIntents_spares pos entry).taught
      | none =>
          have cycled := congrArg taught (@activeOrNextCycle_bracketless Value strategy pos.tsUtc)
          unfold recoverPosition
          dsimp only
          split
          case isTrue => exact cycled
          case isFalse => exact (flattened _ _).trans cycled
    case isFalse =>
      split
      case isTrue => rfl
      case isFalse => rfl
  unfold explainPosition
  dsimp only
  split
  case h_1 entry _ =>
    split
    case isTrue => exact flattened strategy _
    case isFalse =>
      split
      case isTrue => rfl
      case isFalse => exact settled true
  case h_2 =>
    split
    case isTrue =>
      unfold onPositionResized
      split
      case isTrue => rfl
      case isFalse => exact flattened strategy _
    case isFalse => exact settled false

/-- Callbacks that deliver no bar teach nothing about days. -/
theorem after_daily_of_no_bar (callback : Callback Value) (noBar : receivedBy callback = []) :
    (strategy.after ids callback).config = strategy.config ∧
      (strategy.after ids callback).lastDayLocal = strategy.lastDayLocal := by
  have of_taught {state : HybridIntradayRuntimeStrategy Value} (same : state.taught = strategy.taught) :
      state.config = strategy.config ∧ state.lastDayLocal = strategy.lastDayLocal :=
    ⟨congrArg (·.config) same, congrArg (·.lastDayLocal) same⟩
  have of_daily {state : HybridIntradayRuntimeStrategy Value} (same : daily state = daily strategy) :
      state.config = strategy.config ∧ state.lastDayLocal = strategy.lastDayLocal :=
    ⟨congrArg Prod.fst same, congrArg (fun view => view.2.1) same⟩
  cases callback with
  | bar ctx bar => cases noBar
  | ack ctx ack => exact of_taught (onAck_taught ack)
  | order ctx nowMs order => exact of_daily (onOrder_daily nowMs order)
  | stopOrder ctx nowMs order => exact of_daily (onStopOrder_daily nowMs order)
  | position ctx nowMs pos =>
      change (strategy.onPosition ids ctx nowMs pos).1.config = _ ∧ (strategy.onPosition ids ctx nowMs pos).1.lastDayLocal = _
      unfold onPosition
      split
      case isTrue => exact ⟨rfl, rfl⟩
      case isFalse =>
        have explained := @explainPosition_taught Value _ strategy ctx ids nowMs pos
        exact of_taught explained
  | timer ctx nowTsUtcMs =>
      have reconciled := (@emitBracketReconcileTimeoutExit_spares Value strategy ctx ids _ nowTsUtcMs).taught
      refine of_taught (Eq.trans ?_ reconciled)
      change (emitPartialEntryTimeoutExit ids _ ctx nowTsUtcMs).1.taught = _
      unfold emitPartialEntryTimeoutExit
      split <;> rfl
  | bootstrapSnapshot ctx snapshot => exact of_daily (onBootstrapSnapshot_daily snapshot)
  | runtimeStateRestored ctx => exact of_taught onRuntimeStateRestored_taught

theorem onBar_daily (bar : BarEvent Value) :
    (strategy.onBar ids ctx bar).1.config = strategy.config ∧
      ((strategy.onBar ids ctx bar).1.lastDayLocal ≠ none → strategy.lastDayLocal ≠ none ∨
        historyBar strategy.config bar ≠ none) := by
  cases accepted : strategy.acceptsBar bar with
  | false =>
      obtain ⟨lastTs, same⟩ := @onBar_of_not_accepted _ _ strategy ctx ids bar accepted
      rw [same]
      exact ⟨rfl, .inl⟩
  | true =>
      obtain ⟨dt, accepts⟩ := acceptsBar_iff.1 accepted
      have taughtBy := strategy.onBar_taught ids ctx accepts
      have learnt := strategy.taught.learnFromBar_marketless dt bar
      refine ⟨(congrArg (·.config) taughtBy).trans (congrArg (·.config) learnt), ?_⟩
      intro _
      right
      obtain ⟨symbol, -, localTime, working, inSession⟩ := accepts
      have known : historyBar strategy.config bar = some { dt := dt, bar := bar } := by
        have sameTime : (new strategy.config).utcToLocalNaive bar.closeTimeUtc = some dt :=
          (utcToLocalNaive_congr rfl _).trans localTime
        unfold historyBar sessionBar
        rw [if_neg (not_not.2 symbol), sameTime]
        refine if_neg ?_
        rintro (weekend | outside)
        · exact absurd (working.symm.trans weekend) Bool.false_ne_true
        · exact absurd (inSession.symm.trans outside) Bool.false_ne_true
      rw [known]
      exact Option.some_ne_none _

end Steps

section Restarts

variable {Value : Type} [F64 Value] {hosted : HostedStrategy Value} {bootstrapCtx restoredCtx : StrategyCtx Value}
variable {snapshot : BootstrapSnapshot Value}

/-- The entries that are on their way are read back as they were published. -/
theorem setState_entryDay {fresh strategy : HybridIntradayRuntimeStrategy Value} :
    entryDay (fresh.setState strategy.syncState) =
      { entryDay strategy with day := strategy.lastDayLocal } := by
  have pending : (fresh.setState strategy.syncState).pendingEntry.map (fun entry => (entry.owner, entry.side)) =
      strategy.pendingEntry.map fun entry => (entry.owner, entry.side) := by
    unfold setState syncState restoredPendingEntry
    cases strategy.pendingEntry with
    | none => rfl
    | some entry => simp [CycleId.parse_toText]
  have deferred : (fresh.setState strategy.syncState).deferredEntry.map
      (fun deferred => (deferred.signal.owner, deferred.signal.side)) =
        strategy.deferredEntry.map fun deferred => (deferred.signal.owner, deferred.signal.side) := by
    unfold setState syncState restoredDeferredEntry
    cases strategy.deferredEntry with
    | none => rfl
    | some deferred => simp [CycleId.parse_toText]
  have entered : (fresh.setState strategy.syncState).orchestrator.intradayBreakout.wasEntered =
      strategy.orchestrator.intradayBreakout.wasEntered := by
    funext side
    cases side <;> rfl
  unfold entryDay
  rw [pending, deferred, entered]
  rfl

/-- What holds behind every step: the entries of the day are guarded, no two filled ones are alike, the
published state is current, and a day that is known has a bar behind it. -/
structure HostKeeps (hosted : HostedStrategy Value) : Prop where
  guards : GuardsDay hosted.filled hosted.strategy
  distinct : hosted.filled.Nodup
  current : hosted.published = .idle ∨ hosted.published = hosted.strategy.syncState
  learnt : hosted.strategy.lastDayLocal ≠ none →
    hosted.received.filterMap (historyBar hosted.strategy.config) ≠ []

/-- A history that is learnt from puts the breakout on its last day with neither side entered; another one
leaves the strategy as it was. -/
theorem warmupFromHistory_cases (strategy : HybridIntradayRuntimeStrategy Value) (bars : List (BarEvent Value)) :
    (bars.filterMap (historyBar strategy.config) = [] ∧ (strategy.warmupFromHistory bars).1 = strategy) ∨
      (bars.filterMap (historyBar strategy.config) ≠ [] ∧
        (entryDay (strategy.warmupFromHistory bars).1).day = breakoutDayBehind strategy.config bars ∧
        (∀ side, (entryDay (strategy.warmupFromHistory bars).1).entered side = false) ∧
        (strategy.warmupFromHistory bars).1.config = strategy.config) := by
  have warmed := @warmedBy_foldl Value _ strategy.config bars
  unfold warmupFromHistory
  generalize bars.foldl warmUpBar (new strategy.config, 0) = learnt at warmed ⊢
  obtain ⟨warmup, processed⟩ := learnt
  obtain ⟨-, counted, -, onDay, unentered⟩ := warmed
  dsimp only at counted onDay unentered ⊢
  split
  case isTrue none =>
    rw [none] at counted
    exact .inl ⟨List.length_eq_zero_iff.1 counted.symm, rfl⟩
  case isFalse some =>
    refine .inr ⟨?_, onDay, ?_, rfl⟩
    · intro empty
      rw [empty] at counted
      exact some counted
    · intro side
      refine Eq.trans ?_ (unentered side)
      cases side <;> rfl

theorem HostKeeps.restart (keeps : HostKeeps hosted)
    (freshDay : ∀ day ∈ breakoutDayBehind hosted.strategy.config hosted.received,
      ∀ entry ∈ hosted.filled, entry.1 ≠ day) :
    HostKeeps { hosted with
      strategy := hosted.restarted bootstrapCtx snapshot restoredCtx
      published := (hosted.restarted bootstrapCtx snapshot restoredCtx).syncState } := by
  let restored := (new hosted.strategy.config).setState hosted.published
  let booted := (restored.onBootstrapSnapshot bootstrapCtx snapshot).1
  let resumed := (booted.onRuntimeStateRestored restoredCtx).1
  have restoredConfig : restored.config = hosted.strategy.config := by
    change ((new hosted.strategy.config).setState hosted.published).config = _
    cases hosted.published <;> rfl
  have bootedDaily : daily booted = daily restored := onBootstrapSnapshot_daily snapshot
  have resumedTaught : resumed.taught = booted.taught := onRuntimeStateRestored_taught
  have config : resumed.config = hosted.strategy.config :=
    (congrArg (·.config) resumedTaught).trans ((congrArg Prod.fst bootedDaily).trans restoredConfig)
  have lastDay : resumed.lastDayLocal = restored.lastDayLocal :=
    (congrArg (·.lastDayLocal) resumedTaught).trans (congrArg (fun view => view.2.1) bootedDaily)
  have course := warmupFromHistory_cases resumed hosted.received
  rw [config] at course
  rcases course with ⟨nothing, unchanged⟩ | ⟨something, onDay, unentered, sameConfig⟩
  · have noDay : hosted.strategy.lastDayLocal = none := by
      by_contra known
      exact keeps.learnt known nothing
    have restoredDay : restored.lastDayLocal = none := by
      rcases keeps.current with idle | current
      · change ((new hosted.strategy.config).setState hosted.published).lastDayLocal = none
        rw [idle]
        rfl
      · change ((new hosted.strategy.config).setState hosted.published).lastDayLocal = none
        rw [current]
        exact noDay
    have restoredGuards : GuardsDay hosted.filled restored := by
      rcases keeps.current with idle | current
      · refine EntryDay.guards_of_unentered ?_ ?_
        · intro side
          change (entryDay ((new hosted.strategy.config).setState hosted.published)).entered side = false
          rw [idle]
          cases side <;> rfl
        · intro day present
          change (entryDay ((new hosted.strategy.config).setState hosted.published)).day = some day at present
          rw [idle] at present
          cases present
      · change (entryDay ((new hosted.strategy.config).setState hosted.published)).Guards hosted.filled
        rw [current, setState_entryDay, noDay]
        refine ⟨?_, keeps.guards.pendingFree, keeps.guards.deferredFree⟩
        intro day side _ onDay
        cases onDay
    have bootedGuards : GuardsDay hosted.filled booted :=
      restoredGuards.of_same (congrArg (fun view => view.2.2) bootedDaily)
    have resumedGuards : GuardsDay hosted.filled resumed := onRuntimeStateRestored_guards bootedGuards
    have same : hosted.restarted bootstrapCtx snapshot restoredCtx = resumed := unchanged
    rw [same]
    refine ⟨resumedGuards, keeps.distinct, .inr rfl, ?_⟩
    intro known
    exact absurd (lastDay.trans restoredDay) known
  · refine ⟨EntryDay.guards_of_unentered unentered ?_, keeps.distinct, .inr rfl, ?_⟩
    · intro day present
      exact freshDay day (onDay ▸ present)
    · intro _
      have warmedConfig : (hosted.restarted bootstrapCtx snapshot restoredCtx).config = hosted.strategy.config :=
        sameConfig
      dsimp only
      rw [warmedConfig]
      exact something

end Restarts

section Runs

variable {Value : Type} [F64 Value]

def KeepsDays (hosted : HostedStrategy Value) : HostStep Value → Prop
  | .callback (.bar _ bar) =>
      hosted.strategy.acceptsBar bar = true → ∀ dt ∈ hosted.strategy.utcToLocalNaive bar.closeTimeUtc,
        FreshDay hosted.filled hosted.strategy.orchestrator.intradayBreakout dt.date
  | .callback (.position _ _ pos) =>
      ∀ entry ∈ entryFilledBy hosted.strategy pos, entry.1 = .intradayBreakout →
        ∀ dt ∈ hosted.strategy.utcToLocalNaive pos.tsUtc,
          hosted.strategy.orchestrator.intradayBreakout.curDayDate = some dt.date
  | .callback _ => True
  | .restart _ _ _ =>
      ∀ day ∈ breakoutDayBehind hosted.strategy.config hosted.received, ∀ entry ∈ hosted.filled, entry.1 ≠ day

instance (hosted : HostedStrategy Value) : (step : HostStep Value) → Decidable (KeepsDays hosted step)
  | .callback (.bar _ _) => inferInstanceAs (Decidable (_ → _))
  | .callback (.position _ _ _) => inferInstanceAs (Decidable (∀ _ ∈ _, _))
  | .callback (.ack _ _) | .callback (.order _ _ _) | .callback (.stopOrder _ _ _) | .callback (.timer _ _)
  | .callback (.bootstrapSnapshot _ _) | .callback (.runtimeStateRestored _) => .isTrue trivial
  | .restart _ _ _ => inferInstanceAs (Decidable (∀ _ ∈ _, _))

variable {hosted : HostedStrategy Value} {ids : RequestIds}

omit [F64 Value] in
theorem markEntry_wasEntered (engine : IntradayBreakoutEngine Value) (side : Side) :
    (engine.markEntry side).wasEntered side = true ∧
      ∀ other, engine.wasEntered other = true → (engine.markEntry side).wasEntered other = true := by
  refine ⟨by cases side <;> rfl, ?_⟩
  intro other entered
  cases side with
  | long =>
      cases other with
      | long => rfl
      | short => exact entered
  | short =>
      cases other with
      | long => exact entered
      | short => rfl

/-- A position event that keeps its day fills a new entry, or none. -/
theorem onPosition_keeps {ctx : StrategyCtx Value} {nowMs : Int} {pos : PositionEvent Value}
    (guards : GuardsDay hosted.filled hosted.strategy) (distinct : hosted.filled.Nodup)
    (onDay : KeepsDays hosted (.callback (.position ctx nowMs pos))) :
    GuardsDay (filledBy hosted.strategy (.position ctx nowMs pos) ++ hosted.filled)
        (hosted.strategy.onPosition ids ctx nowMs pos).1 ∧
      (filledBy hosted.strategy (.position ctx nowMs pos) ++ hosted.filled).Nodup := by
  unfold filledBy
  dsimp only
  cases fills : entryFilledBy hosted.strategy pos with
  | none => exact ⟨onPosition_guards guards fills, distinct⟩
  | some entry =>
      obtain ⟨owner, side⟩ := entry
      obtain ⟨pending, behind⟩ := @onPosition_fills Value hosted.strategy _ ctx ids nowMs pos owner side fills
      have gone : (entryDay (hosted.strategy.onPosition ids ctx nowMs pos).1).pending = none := by rw [behind]
      have goneDeferred : (entryDay (hosted.strategy.onPosition ids ctx nowMs pos).1).deferred = none := by rw [behind]
      cases owner with
      | meanReversion =>
          refine ⟨?_, distinct⟩
          refine EntryDay.Guards.passOn guards ?_ ?_ ?_ ?_
          · rw [behind]
            rfl
          · rw [behind]
            rfl
          · intro entry held
            rw [gone] at held
            cases held
          · intro entry held
            rw [goneDeferred] at held
            cases held
      | intradayBreakout =>
          obtain ⟨marked, kept⟩ := markEntry_wasEntered hosted.strategy.orchestrator.intradayBreakout side
          have sameDay : (entryDay (hosted.strategy.onPosition ids ctx nowMs pos).1).day =
              (entryDay hosted.strategy).day := by
            rw [behind]
            cases side <;> rfl
          have markedNow : (entryDay (hosted.strategy.onPosition ids ctx nowMs pos).1).entered side = true := by
            rw [behind]
            exact marked
          have keptNow : ∀ other, (entryDay hosted.strategy).entered other = true →
              (entryDay (hosted.strategy.onPosition ids ctx nowMs pos).1).entered other = true := by
            rw [behind]
            exact kept
          cases localTime : hosted.strategy.utcToLocalNaive pos.tsUtc with
          | none =>
              refine ⟨⟨?_, ?_, ?_⟩, distinct⟩
              · intro day other known current
                exact keptNow other (EntryDay.Guards.remembered guards day other known (sameDay ▸ current))
              · intro other held
                rw [gone] at held
                cases held
              · intro other held
                rw [goneDeferred] at held
                cases held
          | some dt =>
              obtain ⟨new, guarded⟩ := EntryDay.Guards.fill guards pending (onDay _ fills rfl dt localTime) sameDay markedNow
                keptNow gone goneDeferred
              exact ⟨guarded, List.nodup_cons.2 ⟨new, distinct⟩⟩

theorem HostKeeps.callback (keeps : HostKeeps hosted) {event : Callback Value}
    (onDay : KeepsDays hosted (.callback event)) : HostKeeps (hosted.advance ids (.callback event)) := by
  obtain ⟨guards, distinct, current, learnt⟩ := keeps
  have published : (hosted.advance ids (.callback event)).published = .idle ∨
      (hosted.advance ids (.callback event)).published = (hosted.advance ids (.callback event)).strategy.syncState := by
    rcases current with idle | current
    · change (if hosted.strategy.publishes event then _ else hosted.published) = _ ∨
        (if hosted.strategy.publishes event then _ else hosted.published) = _
      split
      case isTrue => exact .inr rfl
      case isFalse => exact .inl idle
    · exact .inr (publishedAfter_eq event current)
  have stillLearnt (noBar : receivedBy event = []) :
      (hosted.advance ids (.callback event)).strategy.lastDayLocal ≠ none →
        (hosted.advance ids (.callback event)).received.filterMap
          (historyBar (hosted.advance ids (.callback event)).strategy.config) ≠ [] := by
    obtain ⟨sameConfig, sameDay⟩ := @after_daily_of_no_bar Value _ hosted.strategy ids event noBar
    change (hosted.strategy.after ids event).lastDayLocal ≠ none →
      (hosted.received ++ receivedBy event).filterMap (historyBar (hosted.strategy.after ids event).config) ≠ []
    rw [sameConfig, sameDay, noBar, List.append_nil]
    exact learnt
  cases event with
  | bar ctx bar =>
      have fresh : ∀ dt, hosted.strategy.AcceptsBar bar dt →
          FreshDay hosted.filled hosted.strategy.orchestrator.intradayBreakout dt.date :=
        fun dt accepts => onDay (acceptsBar_iff.2 ⟨dt, accepts⟩) dt accepts.2.2.1
      refine ⟨onBar_guards guards fresh, distinct, published, ?_⟩
      obtain ⟨sameConfig, knows⟩ := @onBar_daily Value _ hosted.strategy ctx ids bar
      change (hosted.strategy.onBar ids ctx bar).1.lastDayLocal ≠ none →
        (hosted.received ++ [bar]).filterMap (historyBar (hosted.strategy.onBar ids ctx bar).1.config) ≠ []
      rw [sameConfig, List.filterMap_append]
      intro known empty
      obtain ⟨before, last⟩ := List.append_eq_nil_iff.1 empty
      rcases knows known with knew | counted
      · exact learnt knew before
      · obtain ⟨row, counts⟩ := Option.ne_none_iff_exists'.1 counted
        rw [List.filterMap_cons_some counts] at last
        cases last
  | ack ctx ack => exact ⟨onAck_guards ack guards, distinct, published, stillLearnt rfl⟩
  | order ctx nowMs order =>
      have same := congrArg (fun view => view.2.2) (@onOrder_daily Value hosted.strategy ctx nowMs order)
      exact ⟨guards.of_same same, distinct, published, stillLearnt rfl⟩
  | stopOrder ctx nowMs order =>
      have same := congrArg (fun view => view.2.2) (@onStopOrder_daily Value hosted.strategy ctx nowMs order)
      exact ⟨guards.of_same same, distinct, published, stillLearnt rfl⟩
  | position ctx nowMs pos =>
      obtain ⟨guarded, stillDistinct⟩ := @onPosition_keeps _ _ hosted ids ctx nowMs pos guards distinct onDay
      exact ⟨guarded, stillDistinct, published, stillLearnt rfl⟩
  | timer ctx nowTsUtcMs => exact ⟨onTimer_guards nowTsUtcMs guards, distinct, published, stillLearnt rfl⟩
  | bootstrapSnapshot ctx snapshot =>
      have same := congrArg (fun view => view.2.2) (@onBootstrapSnapshot_daily Value _ hosted.strategy ctx snapshot)
      exact ⟨guards.of_same same, distinct, published, stillLearnt rfl⟩
  | runtimeStateRestored ctx =>
      exact ⟨onRuntimeStateRestored_guards guards, distinct, published, stillLearnt rfl⟩

theorem hostKeeps_start (config : HybridIntradayRuntimeConfig Value) : HostKeeps (start config) := by
  refine ⟨EntryDay.guards_of_unentered ?_ ?_, List.nodup_nil, .inl rfl, fun known => absurd rfl known⟩
  · intro side
    cases side <;> rfl
  · intro day present
    cases present

/-- In every run whose bars and restarts open no day on which an entry was filled, and whose entries are filled
on the day that the breakout is on, each side is entered once a day at most. -/
theorem breakout_enters_once_a_day (ids : RequestIds) (config : HybridIntradayRuntimeConfig Value)
    (steps : List (HostStep Value)) (keepsDays : EveryStep (advance ids) KeepsDays (start config) steps) :
    OneEntryPerSide (steps.foldl (advance ids) (start config)).filled := by
  have keeps : HostKeeps (steps.foldl (advance ids) (start config)) := by
    have begun := hostKeeps_start config
    generalize start config = hosted at begun keepsDays ⊢
    induction steps generalizing hosted with
    | nil => exact begun
    | cons step rest ih =>
        obtain ⟨first, others⟩ := keepsDays
        refine ih _ ?_ others
        cases step with
        | callback event => exact begun.callback first
        | restart bootstrapCtx snapshot restoredCtx => exact begun.restart first
  intro day side
  exact List.nodup_iff_count_le_one.1 keeps.distinct (day, side)

end Runs

/-- Only the breakout enters, in the sample configuration without entries of the mean reversion. -/
def breakoutOnlyConfig : HybridIntradayRuntimeConfig Float :=
  { sampleConfig Float with liveMrEntriesEnabled := false }

def emptySnapshot : BootstrapSnapshot Float :=
  { positionsStrategy := [], workingOrdersStrategy := [], workingStopOrdersStrategy := [] }

def restartStep (tsUtc : Int) : HostStep Float :=
  .restart (sampleCtx .paper none tsUtc) emptySnapshot (sampleCtx .paper none tsUtc)

/-- The breakout buys on the second day, and the position is closed again. -/
def enteredAndClosed : List (HostStep Float) :=
  (breakoutRun .live).map .callback ++
    [.callback (.position (sampleCtx .paper none 1767697260) 0 (positionEvent 1 1767697260)),
      .callback (.position (sampleCtx .paper none 1767697500) 0 (positionEvent 0 1767697500))]

/-- A restart on the next day is warmed up behind a bar of that day. -/
theorem breakout_enters_once_a_day_over_night :
    EveryStep (advance sampleIds) KeepsDays (start breakoutOnlyConfig) (enteredAndClosed ++
        [.callback (.bar (sampleCtx .paper none 1767769200) (flatBar 120 1767769200)), restartStep 1767769300]) ∧
      OneEntryPerSide ((enteredAndClosed ++
        [.callback (.bar (sampleCtx .paper none 1767769200) (flatBar 120 1767769200)),
          restartStep 1767769300]).foldl (advance sampleIds) (start breakoutOnlyConfig)).filled := by
  have keepsDays : EveryStep (advance sampleIds) KeepsDays (start breakoutOnlyConfig) (enteredAndClosed ++
      [.callback (.bar (sampleCtx .paper none 1767769200) (flatBar 120 1767769200)), restartStep 1767769300]) := by
    decide +kernel
  exact ⟨keepsDays, breakout_enters_once_a_day sampleIds breakoutOnlyConfig _ keepsDays⟩

/-- A restart on the same day forgets the entry: the breakout buys once more. -/
theorem breakout_enters_twice_behind_restart :
    ¬ ∀ (config : HybridIntradayRuntimeConfig Float) (steps : List (HostStep Float)),
      (new config).boOnlyRiskgateDisabled = true →
        OneEntryPerSide (steps.foldl (advance sampleIds) (start config)).filled := by
  intro all
  have breakoutOnly : (new breakoutOnlyConfig).boOnlyRiskgateDisabled = true := by decide
  have once := all breakoutOnlyConfig (enteredAndClosed ++ [restartStep 1767697600,
    .callback (.bar (sampleCtx .paper none 1767697800) (flatBar 120 1767697800)),
    .callback (.position (sampleCtx .paper none 1767697860) 0 (positionEvent 1 1767697860))]) breakoutOnly
    { day := 20459 } .long
  have twice : ((enteredAndClosed ++ [restartStep 1767697600,
      .callback (.bar (sampleCtx .paper none 1767697800) (flatBar 120 1767697800)),
      .callback (.position (sampleCtx .paper none 1767697860) 0
        (positionEvent 1 1767697860))]).foldl (advance sampleIds) (start breakoutOnlyConfig)).filled.count
          ({ day := 20459 }, .long) = 2 := by
    decide +kernel
  rw [twice] at once
  exact absurd once (by decide)

end TradingGateway.HybridIntraday
