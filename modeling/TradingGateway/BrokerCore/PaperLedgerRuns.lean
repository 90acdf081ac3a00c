import TradingGateway.BrokerCore.PaperLedgerProperties

/-! Runs of the paper adapter from its start: when every fill is made once and reported once. -/

set_option autoImplicit false

namespace TradingGateway.BrokerCore.PaperLedgerRuns

open Orders PaperLedger PaperLedgerProperties
open Foundation.ExceptRun Foundation.Runs Foundation.Triples.Action

structure BarCall where
  input : RuntimeBarInput
  intents : List PaperIntent

structure PaperRun where
  adapter : PaperRuntimeAdapter
  plans : List (List PaperRuntimePublishRecord)

section Calls

variable (clock : PaperClock) (run : PaperRun) (call : BarCall)

def PaperRun.result : Except PaperRuntimeAdapterError PaperRuntimeAdapterOutcome × PaperRuntimeAdapter :=
  (PaperRuntimeAdapter.observeRuntimeBar clock call.input call.intents).outcome run.adapter

def PaperRun.after : PaperRun :=
  { adapter := (run.result clock call).2
    plans := match (run.result clock call).1 with
      | .ok outcome => run.plans ++ [outcome.publishPlan]
      | .error _ => run.plans }

def Executable (adapter : PaperRuntimeAdapter) (input : RuntimeBarInput) (intent : PaperIntent) : Prop :=
  Checked adapter.ledger adapter.config.ledger input intent ∧ Marketable intent

structure Accounted (run : PaperRun) : Prop where
  valid : run.adapter.ledger.validate = .ok ()
  oneOrder : ∀ intentId, (run.adapter.ledger.orders.filter (·.intentId = intentId)).length ≤ 1
  oneTrade : ∀ intentId, (run.adapter.ledger.trades.filter (·.intentId = intentId)).length ≤ 1
  orderReported : ∀ order ∈ run.adapter.ledger.orders,
    (run.plans.filter fun plan => plan.any fun record => record.payload = .order order).length = 1
  tradeReported : ∀ trade ∈ run.adapter.ledger.trades,
    (run.plans.filter fun plan => plan.any fun record => record.payload = .trade trade).length = 1
  position : run.adapter.ledger.targetPositionQty =
    (run.adapter.ledger.trades.map fun trade => signedQty trade.side trade.qty).sum

/-- A call that fails changes nothing, for a bar or an intent that is at fault itself, a call that
succeeds has every one of its intents filled, and the ledger stays accounted for. -/
structure Settles : Prop where
  unchanged : ∀ error, (run.result clock call).1 = .error error →
    (run.result clock call).2.ledger = run.adapter.ledger
  ownFault : ∀ error, (run.result clock call).1 = .error error →
    run.adapter.validateRuntimeInput call.input ≠ .ok () ∨
      ∃ intent ∈ call.intents, ¬ Executable run.adapter call.input intent
  filled : ∀ outcome, (run.result clock call).1 = .ok outcome → ∀ intent ∈ call.intents,
    (∃ order ∈ (run.result clock call).2.ledger.orders, order.intentId = intent.intentId) ∧
      ∃ trade ∈ (run.result clock call).2.ledger.trades, trade.intentId = intent.intentId
  accounted : Accounted (run.after clock call)

/-- A call on an eligible bar is taken as a whole, or is refused at its first intent that is not known already. -/
def Whole : Prop :=
  run.adapter.validateRuntimeInput call.input = .ok () →
    TakesAll (Checked run.adapter.ledger run.adapter.config.ledger call.input) (knownIds run.adapter.ledger)
        call.intents ∨
      RefusesFirst (Checked run.adapter.ledger run.adapter.config.ledger call.input) (knownIds run.adapter.ledger)
        call.intents

end Calls

section Frame

variable {ledger after : PaperLedgerSnapshot}

structure SameRows (ledger after : PaperLedgerSnapshot) : Prop where
  strategyId : after.strategyId = ledger.strategyId
  instrument : after.instrument = ledger.instrument
  safetyBoundary : after.safetyBoundary = ledger.safetyBoundary
  intents : after.intents = ledger.intents
  orders : after.orders = ledger.orders
  trades : after.trades = ledger.trades
  positions : after.positions = ledger.positions
  acks : after.acks = ledger.acks

theorem SameRows.knownIds (same : SameRows ledger after) : knownIds after = knownIds ledger := by
  unfold PaperLedgerProperties.knownIds
  rw [same.intents]

theorem SameRows.sound (same : SameRows ledger after) (sound : Sound ledger) : Sound after := by
  constructor
  · rw [same.safetyBoundary]
    exact sound.closed
  · rw [same.knownIds]
    exact sound.apart
  · rw [same.knownIds, same.orders]
    exact sound.orderIds
  · rw [same.knownIds, same.trades]
    exact sound.tradeIds
  · rw [same.orders, same.instrument, same.strategyId]
    exact sound.orders
  · rw [same.trades, same.instrument, same.strategyId]
    exact sound.trades
  · rw [same.positions, same.instrument, same.strategyId]
    exact sound.positions
  · rw [same.acks, same.knownIds]
    exact sound.acks
  · unfold PaperLedgerSnapshot.targetPositionQty
    rw [same.positions, same.instrument, same.trades]
    exact sound.position

/-- The features of a bar are kept beside the rows. -/
theorem sameRows_features (clock : PaperClock) (ledger : PaperLedgerSnapshot) (input : RuntimeBarInput) :
    SameRows ledger (ledger.observeRuntimeBarFeatures clock input) := by
  unfold PaperLedgerSnapshot.observeRuntimeBarFeatures PaperLedgerSnapshot.rollDay
  dsimp only
  split
  · exact ⟨rfl, rfl, rfl, rfl, rfl, rfl, rfl, rfl⟩
  · split <;> exact ⟨rfl, rfl, rfl, rfl, rfl, rfl, rfl, rfl⟩

end Frame

section Runs

variable {clock : PaperClock} {run : PaperRun} {call : BarCall}

structure Reported (run : PaperRun) : Prop where
  sound : Sound run.adapter.ledger
  orders : run.adapter.ledger.orders = run.plans.flatten.filterMap orderOf
  trades : run.adapter.ledger.trades = run.plans.flatten.filterMap tradeOf

theorem length_filter_le_one {Row : Type} {idOf : Row → RuntimeDecisionId} {rows : List Row}
    (distinct : (rows.map idOf).Nodup) (intentId : RuntimeDecisionId) :
    (rows.filter (idOf · = intentId)).length ≤ 1 := by
  have once := List.nodup_iff_count_le_one.1 distinct intentId
  rw [List.count, List.countP_map, List.countP_eq_length_filter] at once
  simpa only [Function.comp_def, beq_eq_decide] using once

theorem orderOf_eq_some_iff {record : PaperRuntimePublishRecord} {order : PaperOrder} :
    orderOf record = some order ↔ record.payload = .order order := by
  unfold PaperLedgerProperties.orderOf
  cases record.payload <;> simp

theorem tradeOf_eq_some_iff {record : PaperRuntimePublishRecord} {trade : PaperTrade} :
    tradeOf record = some trade ↔ record.payload = .trade trade := by
  unfold tradeOf
  cases record.payload <;> simp

theorem Reported.accounted (reported : Reported run) : Accounted run := by
  have ids := reported.sound.idsNodup
  have orderIds : (run.adapter.ledger.orders.map (·.intentId)).Nodup := by rwa [reported.sound.orderIds]
  have tradeIds : (run.adapter.ledger.trades.map (·.intentId)).Nodup := by rwa [reported.sound.tradeIds]
  constructor
  · exact reported.sound.validates
  · exact length_filter_le_one orderIds
  · exact length_filter_le_one tradeIds
  · intro order member
    have distinct := List.Nodup.of_map _ orderIds
    rw [reported.orders] at distinct member
    simpa only [orderOf_eq_some_iff] using one_plan distinct member
  · intro trade member
    have distinct := List.Nodup.of_map _ tradeIds
    rw [reported.trades] at distinct member
    simpa only [tradeOf_eq_some_iff] using one_plan distinct member
  · exact reported.sound.position

theorem result_of_invalid {error : PaperRuntimeAdapterError}
    (invalid : run.adapter.validateRuntimeInput call.input = .error error) :
    run.result clock call = (.error error, run.adapter) := by
  unfold PaperRun.result PaperRuntimeAdapter.observeRuntimeBar
  rw [outcome_bind, outcome_get]
  dsimp only
  rw [outcome_bind, outcome_ofExcept, invalid]

def noIntents : ObservedIntents :=
  { publishPlan := [], filledCount := 0, duplicateCount := 0 }

theorem result_of_fails {error : PaperRuntimeAdapterError} {ledger : PaperLedgerSnapshot}
    (valid : run.adapter.validateRuntimeInput call.input = .ok ())
    (fails : (observeIntents run.adapter.config call.input call.intents noIntents).outcome run.adapter.ledger =
      (.error error, ledger)) :
    run.result clock call = (.error error, { run.adapter with ledger := ledger }) := by
  unfold noIntents at fails
  unfold PaperRun.result PaperRuntimeAdapter.observeRuntimeBar
  rw [outcome_bind, outcome_get]
  dsimp only
  rw [outcome_bind, outcome_ofExcept, valid]
  dsimp only
  rw [outcome_bind, outcome_within, fails]

theorem result_of_takes {final : ObservedIntents} {ledger : PaperLedgerSnapshot}
    (valid : run.adapter.validateRuntimeInput call.input = .ok ())
    (takes : (observeIntents run.adapter.config call.input call.intents noIntents).outcome run.adapter.ledger =
      (.ok final, ledger)) :
    ∃ outcome state, run.result clock call =
        (.ok outcome, { run.adapter with ledger := ledger.observeRuntimeBarFeatures clock call.input }) ∧
      outcome.publishPlan = final.publishPlan ++ [state] ∧ orderOf state = none ∧ tradeOf state = none := by
  unfold noIntents at takes
  unfold PaperRun.result PaperRuntimeAdapter.observeRuntimeBar
  rw [outcome_bind, outcome_get]
  dsimp only
  rw [outcome_bind, outcome_ofExcept, valid]
  dsimp only
  rw [outcome_bind, outcome_within, takes]
  dsimp only
  rw [outcome_bind, outcome_modify]
  exact ⟨_, _, rfl, rfl, rfl, rfl⟩

/-- A call that is taken as a whole settles, and is reported. -/
theorem Reported.takes (reported : Reported run) (valid : run.adapter.validateRuntimeInput call.input = .ok ())
    (takes : TakesAll (Checked run.adapter.ledger run.adapter.config.ledger call.input)
      (knownIds run.adapter.ledger) call.intents) :
    Settles clock run call ∧ Reported (run.after clock call) := by
  obtain ⟨final, ledger, plan, finished, published, sound, grows, all⟩ :=
    @observeIntents_takes _ run.adapter.config call.input call.intents noIntents reported.sound takes
  obtain ⟨outcome, state, ran, planned, noOrder, noTrade⟩ := @result_of_takes clock run call final ledger valid finished
  have same := sameRows_features clock ledger call.input
  have whole : outcome.publishPlan = plan ++ [state] := by
    rw [planned, published]
    rfl
  have after : Reported (run.after clock call) := by
    unfold PaperRun.after
    rw [ran]
    constructor
    · exact same.sound sound
    · dsimp only
      rw [same.orders, grows.orders, reported.orders, whole, List.flatten_append, List.filterMap_append]
      simp [noOrder]
    · dsimp only
      rw [same.trades, grows.trades, reported.trades, whole, List.flatten_append, List.filterMap_append]
      simp [noTrade]
  refine ⟨⟨?_, ?_, ?_, after.accounted⟩, after⟩
  · intro error failed
    rw [ran] at failed
    cases failed
  · intro error failed
    rw [ran] at failed
    cases failed
  · intro _ _ intent member
    have known := all intent member
    rw [ran]
    dsimp only
    rw [same.orders, same.trades]
    constructor
    · rw [← sound.orderIds] at known
      exact List.mem_map.1 known
    · rw [← sound.tradeIds] at known
      exact List.mem_map.1 known

/-- A call that fails before anything is filled settles, and leaves all as it was. -/
theorem Reported.fails (reported : Reported run) {error : PaperRuntimeAdapterError}
    (ran : run.result clock call = (.error error, run.adapter))
    (fault : run.adapter.validateRuntimeInput call.input ≠ .ok () ∨
      ∃ intent ∈ call.intents, ¬ Executable run.adapter call.input intent) :
    Settles clock run call ∧ Reported (run.after clock call) := by
  have after : run.after clock call = run := by
    unfold PaperRun.after
    rw [ran]
  have kept : Reported (run.after clock call) := by
    rw [after]
    exact reported
  refine ⟨⟨?_, ?_, ?_, kept.accounted⟩, kept⟩
  · intro _ _
    rw [ran]
  · exact fun _ _ => fault
  · intro outcome succeeded
    rw [ran] at succeeded
    cases succeeded

theorem refused_mem {checked : PaperIntent → Prop} {known : List RuntimeDecisionId} {intents : List PaperIntent}
    (refuses : RefusesFirst checked known intents) :
    ∃ intent ∈ intents, ¬ (checked intent ∧ Marketable intent) := by
  obtain ⟨taken, refused, rest, rfl, _, rejected⟩ := refuses
  exact ⟨refused, by simp, fun both => rejected ⟨both.1, .inr both.2⟩⟩

/-- In a ledger of reported fills a call settles exactly when it is whole. -/
theorem Reported.settles_iff (reported : Reported run) :
    (Settles clock run call ↔ Whole run call) ∧ (Whole run call → Reported (run.after clock call)) := by
  cases valid : run.adapter.validateRuntimeInput call.input with
  | error error =>
      have settled := @Reported.fails clock run call reported error (result_of_invalid valid) (.inl (by simp [valid]))
      exact ⟨⟨fun _ isValid => by simp [valid] at isValid, fun _ => settled.1⟩, fun _ => settled.2⟩
  | ok _ =>
      have whole : Whole run call → Settles clock run call ∧ Reported (run.after clock call) := by
        intro isWhole
        rcases isWhole valid with takes | refuses
        · exact reported.takes valid takes
        · obtain ⟨error, fails⟩ := @observeIntents_refuses _ run.adapter.config call.input call.intents noIntents refuses
          exact @Reported.fails clock run call reported error (result_of_fails valid fails) (.inr (refused_mem refuses))
      refine ⟨⟨?_, fun isWhole => (whole isWhole).1⟩, fun isWhole => (whole isWhole).2⟩
      intro settles _
      by_contra split
      rw [not_or] at split
      obtain ⟨error, ledger, fails, _, first⟩ :=
        @observeIntents_fails _ run.adapter.config call.input call.intents noIntents reported.sound split.1
      have ran := @result_of_fails clock run call error ledger valid fails
      have unchanged := settles.unchanged error (by rw [ran])
      rw [ran] at unchanged
      exact split.2 (first (congrArg (fun ledger => ledger.intents.length) unchanged))

/-- A ledger as `new` leaves it. -/
theorem reported_new {config : PaperRuntimeAdapterConfig} {receivedTs : DateTimeUtc} {adapter : PaperRuntimeAdapter}
    (started : PaperRuntimeAdapter.new config receivedTs = .ok adapter) :
    Reported { adapter := adapter, plans := [] } := by
  unfold PaperRuntimeAdapter.new validatePaperRuntimeAdapterConfig at started
  simp only [bind_ok_iff, rejectIf_ok_iff, not_or, Except.ok.injEq] at started
  obtain ⟨_, ⟨_, closed, _⟩, rfl⟩ := started
  have isClosed : config.ledger.safetyBoundary.isClosed = true := by simpa using closed.2
  refine ⟨⟨isClosed, ?_, rfl, rfl, ?_, ?_, ?_, ?_, rfl⟩, rfl, rfl⟩ <;>
    simp [PaperLedgerSnapshot.empty, knownIds]

end Runs

section Sample

def sampleClock : PaperClock where
  toRfc3339 := fun instant => toString instant.seconds
  dayText := fun instant => toString (instant.seconds / 86400)

def sampleClosed : PaperSafetyBoundary where
  liveOrdersEnabled := false
  runtimeLiveReadyEnabled := false
  commandConsumerToRealFinamEnabled := false
  externalOrderEndpointEnabled := false
  stopSltpBracketEnabled := false

def sampleInstrument : InstrumentId where
  symbol := "IMOEXF"
  venueSymbol := some "IMOEXF@RTSX"
  exchange := .moex
  market := .futures

def sampleConfig : PaperRuntimeAdapterConfig where
  ledger := {
    strategyId := "hybrid"
    instrument := sampleInstrument
    executionMode := .liveOnly
    expectedTimeframeSec := 600
    safetyBoundary := sampleClosed }
  streams := {
    runtimeStateStream := "state"
    intentsStream := "intents"
    paperAcksStream := "acks"
    ordersStream := "orders"
    tradesStream := "trades"
    positionsStream := "positions" }
  requiredProvenance := "finam"
  safetyBoundary := sampleClosed

def sampleInstant (seconds : Int) : DateTimeUtc :=
  { seconds := seconds, nanos := 0 }

def sampleBar (opened : Int) : RuntimeBarInput where
  schemaVersion := 1
  instrument := sampleInstrument
  origin := .live
  timeframeSec := 600
  openTs := sampleInstant opened
  closeTs := sampleInstant (opened + 600)
  opened := 2500
  high := 2510
  low := 2490
  close := 2505
  volume := 10
  isFinal := true
  sourceStream := "bars"
  provenance := "finam"

def sampleIntent (intentId : String) (side : OrderSide) (qty : ℚ) : PaperIntent where
  schemaVersion := 1
  intentId := { value := intentId }
  kind := .enter
  strategyId := "hybrid"
  strategyOwner := none
  strategyCycleId := none
  decisionBarKey := "bar"
  instrument := sampleInstrument
  side := some side
  orderType := some .market
  qty := qty
  limitPrice := none
  fillPolicy := .nextFinalBarOpen
  createdTs := sampleInstant 600

def sampleAdapter : PaperRuntimeAdapter where
  config := sampleConfig
  ledger := .empty sampleConfig.ledger (sampleInstant 0)

theorem sampleAdapter_new : PaperRuntimeAdapter.new sampleConfig (sampleInstant 0) = .ok sampleAdapter := by
  have valid : validatePaperRuntimeAdapterConfig sampleConfig = .ok () := by decide
  unfold PaperRuntimeAdapter.new
  rw [valid]
  rfl

end Sample

/-- Every call of a run settles exactly when every call of it is whole: no list fails behind a
fill of its own, and no two identifiers that are filled are written alike. -/
theorem paper_calls_settle {clock : PaperClock} {config : PaperRuntimeAdapterConfig} {receivedTs : DateTimeUtc}
    {adapter : PaperRuntimeAdapter} (started : PaperRuntimeAdapter.new config receivedTs = .ok adapter)
    (calls : List BarCall) :
    EveryStep (PaperRun.after clock) (Settles clock) { adapter := adapter, plans := [] } calls ↔
      EveryStep (PaperRun.after clock) Whole { adapter := adapter, plans := [] } calls := by
  have always : EveryStep (PaperRun.after clock) (fun _ _ => True) { adapter := adapter, plans := [] } calls := by
    rw [everyStep_iff_split]
    exact fun _ _ _ _ => trivial
  exact EveryStep.iff_of_step (fun _ _ reported _ => reported.settles_iff) (reported_new started) always

/-- Two intents of one call, the same again, and one of a new identifier. -/
def sampleCalls : List BarCall :=
  [{ input := sampleBar 600, intents := [sampleIntent "enter-1" .buy 2, sampleIntent "exit-1" .sell 1] },
    { input := sampleBar 1200, intents := [sampleIntent "enter-1" .buy 2, sampleIntent "exit-2" .sell 1] }]

/-- Both calls are taken as a whole, and settle. -/
theorem paper_calls_settle_taken :
    ∃ adapter, PaperRuntimeAdapter.new sampleConfig (sampleInstant 0) = .ok adapter ∧
      EveryStep (PaperRun.after sampleClock) (Settles sampleClock) { adapter := adapter, plans := [] } sampleCalls := by
  refine ⟨sampleAdapter, sampleAdapter_new,
    (@paper_calls_settle sampleClock sampleConfig (sampleInstant 0) _ sampleAdapter_new sampleCalls).2
      ⟨fun _ => .inl ?_, fun _ => .inl ?_, trivial⟩⟩
  · decide
  · with_unfolding_all decide

/-- A refused intent behind a filled one leaves the fill behind unreported, and an identifier that is written
like an earlier one is never filled. -/
theorem paper_calls_unsettled :
    (∃ adapter, PaperRuntimeAdapter.new sampleConfig (sampleInstant 0) = .ok adapter ∧
      ¬ EveryStep (PaperRun.after sampleClock) (Settles sampleClock) { adapter := adapter, plans := [] }
        [{ input := sampleBar 600, intents := [sampleIntent "enter-1" .buy 2, sampleIntent "exit-1" .sell 0] }]) ∧
    ∃ adapter, PaperRuntimeAdapter.new sampleConfig (sampleInstant 0) = .ok adapter ∧
      ¬ EveryStep (PaperRun.after sampleClock) (Settles sampleClock) { adapter := adapter, plans := [] }
        [{ input := sampleBar 600, intents := [sampleIntent "enter-1" .buy 2, sampleIntent "enter_1" .buy 2] }] := by
  constructor
  · refine ⟨sampleAdapter, sampleAdapter_new, fun all => ?_⟩
    obtain ⟨settles, _⟩ := all
    have unchanged := settles.unchanged (.executor .nonPositiveQuantity) (by with_unfolding_all decide)
    have grown := congrArg (fun ledger => ledger.intents.length) unchanged
    revert grown
    with_unfolding_all decide
  · refine ⟨sampleAdapter, sampleAdapter_new, fun all => ?_⟩
    obtain ⟨settles, _⟩ := all
    have unchanged := settles.unchanged (.executor (.invariant .duplicateOrderId)) (by with_unfolding_all decide)
    have grown := congrArg (fun ledger => ledger.intents.length) unchanged
    revert grown
    with_unfolding_all decide

end TradingGateway.BrokerCore.PaperLedgerRuns
