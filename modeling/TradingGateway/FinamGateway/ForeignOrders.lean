import TradingGateway.FinamGateway.Stage8a4ReducerProperties

/-! Orders that carry another client order id: which of them reconciliation may adopt. -/

set_option autoImplicit false

namespace TradingGateway.FinamGateway.ForeignOrders

open BrokerCore.Identifiers BrokerCore.OperationalSnapshot BrokerCore.Orders
open BrokerFinam.Mapper PlainStage8a4Codec Stage8a4Reconciliation
open Foundation.ExceptRun

/-- How a FINAM order stands in a truth: as it is mapped, with or without what the specs add. -/
inductive AppearsAs (mapper : MapperCodec) (state : OrderState) (receivedTs : DateTimeUtc) : BrokerOrderSnapshot → Prop where
  | mapped {snapshot : BrokerOrderSnapshot}
      (maps : mapOrderStateToBrokerOrderSnapshot mapper state receivedTs = .ok snapshot) :
      AppearsAs mapper state receivedTs snapshot
  | enriched {snapshot : BrokerOrderSnapshot} (instruments : List BrokerInstrumentSpec)
      (maps : mapOrderStateToBrokerOrderSnapshot mapper state receivedTs = .ok snapshot) :
      AppearsAs mapper state receivedTs (enrichOrderIdentity instruments snapshot)

/-- No order under this client order id text is adopted by a request with another one. -/
def NeverAdopted (text : String) : Prop :=
  ∀ (mapper : MapperCodec) (state : OrderState) (receivedTs : DateTimeUtc) (snapshot : BrokerOrderSnapshot)
    (codec : Stage8a4Codec) (context : Stage8a4DurableRequestContext) (policy : Stage8a4ReconciliationPolicy)
    (truth : BrokerTruthSnapshot) (evidence : Stage8a4SourceEvidence) (admission : Stage8a4FreshTruthAdmission)
    (outcome : Stage8a4AuthoritativeReconciliationOutcome),
    state.order.clientOrderId = some text → text ≠ context.clientOrderId.value →
    AppearsAs mapper state receivedTs snapshot → snapshot ∈ truth.orders →
    admitStage8a4BrokerTruth codec context policy truth evidence = .ok admission →
    DigestsDistinguish codec admission →
    reduceStage8a4Authoritative codec context admission policy = some outcome →
    outcome.outcomeKind = .exactOrderState → outcome.selectedOrder ≠ some snapshot

/-- At most twenty characters, each an ASCII letter or digit, `-` or `_`. -/
def CoreSafe (text : String) : Prop :=
  text.length ≤ clientOrderIdMaxLen ∧ ∀ character ∈ text.toList, isClientOrderIdCharacter character = true

section ClientOrderIds

variable {text : String}

theorem clientOrderId_new_ok (present : text ≠ "") (safe : CoreSafe text) :
    ClientOrderId.new text = .ok { value := text } := by
  have unsafeCharacter : text.toList.find? (fun character => !isClientOrderIdCharacter character) = none := by
    rw [List.find?_eq_none]
    intro character member
    rw [safe.2 character member]
    decide
  unfold ClientOrderId.new validateClientOrderId
  rw [if_neg present, if_neg (not_lt.2 safe.1), unsafeCharacter]
  rfl

theorem coreSafe_of_new {id : ClientOrderId} (created : ClientOrderId.new text = .ok id) : CoreSafe text := by
  unfold ClientOrderId.new validateClientOrderId at created
  split at created
  case isTrue => cases created
  case isFalse =>
    split at created
    case isTrue => cases created
    case isFalse short =>
      split at created
      case h_1 => cases created
      case h_2 allSafe =>
        refine ⟨not_lt.1 short, ?_⟩
        intro character member
        simpa using List.find?_eq_none.1 allSafe character member

theorem mapClientOrderId_none (notSafe : ¬ CoreSafe text) : mapClientOrderIdIfCoreSafe text = none := by
  unfold mapClientOrderIdIfCoreSafe
  cases created : ClientOrderId.new text with
  | ok id => exact absurd (coreSafe_of_new created) notSafe
  | error _ => rfl

theorem mapClientOrderId_some (present : text ≠ "") (safe : CoreSafe text) :
    mapClientOrderIdIfCoreSafe text = some { value := text } := by
  unfold mapClientOrderIdIfCoreSafe
  rw [clientOrderId_new_ok present safe]
  rfl

end ClientOrderIds

section Mapping

variable {mapper : MapperCodec} {state : OrderState} {receivedTs : DateTimeUtc} {snapshot : BrokerOrderSnapshot}

/-- The client order id that the mapping keeps. -/
theorem mapped_clientOrderId (maps : mapOrderStateToBrokerOrderSnapshot mapper state receivedTs = .ok snapshot) :
    snapshot.clientOrderId = state.order.clientOrderId.bind mapClientOrderIdIfCoreSafe := by
  simp only [mapOrderStateToBrokerOrderSnapshot, mapOrderState, bind_ok_iff] at maps
  obtain ⟨mapped, ⟨qty, -, executed, -, limitPrice, -, sourceTs, -, orderId, -, side, -, orderType, -, isMapped⟩,
    remainingQty, -, timeInForce, -, same⟩ := maps
  cases isMapped
  cases same
  rfl

theorem enrichOrderIdentity_clientOrderId (instruments : List BrokerInstrumentSpec) (order : BrokerOrderSnapshot) :
    (enrichOrderIdentity instruments order).clientOrderId = order.clientOrderId := by
  unfold enrichOrderIdentity
  split <;> rfl

theorem AppearsAs.clientOrderId (appears : AppearsAs mapper state receivedTs snapshot) :
    snapshot.clientOrderId = state.order.clientOrderId.bind mapClientOrderIdIfCoreSafe := by
  cases appears with
  | mapped maps => exact mapped_clientOrderId maps
  | enriched instruments maps =>
      rw [enrichOrderIdentity_clientOrderId]
      exact mapped_clientOrderId maps

/-- An id that is not kept leaves the snapshot as it is without one. -/
theorem mapped_of_dropped {text : String} (dropped : mapClientOrderIdIfCoreSafe text = none)
    (names : state.order.clientOrderId = some text) :
    mapOrderStateToBrokerOrderSnapshot mapper state receivedTs =
      mapOrderStateToBrokerOrderSnapshot mapper { state with order := { state.order with clientOrderId := none } }
        receivedTs := by
  unfold mapOrderStateToBrokerOrderSnapshot mapOrderState
  simp only [names, Option.bind_some, dropped, Option.bind_none, bind_assoc, ok_bind]

end Mapping

theorem sample_maps_without_id :
    mapOrderStateToBrokerOrderSnapshot plainMapperCodec (sampleOrderState none) (atSecond 5) = .ok sampleOrder := by
  decide

theorem sampleOrder_appears {text : String} (notSafe : ¬ CoreSafe text) :
    AppearsAs plainMapperCodec (sampleOrderState (some text)) (atSecond 5) sampleOrder := by
  refine .mapped ?_
  rw [mapped_of_dropped (mapClientOrderId_none notSafe) rfl]
  exact sample_maps_without_id

theorem sampleRequest_coreSafe (attribution : BrokerCore.HybridAttribution.HybridRuntimeAttribution) :
    CoreSafe (sampleContext attribution).clientOrderId.value := by
  have short : (ClientOrderId.fromStrategyRequest (Stage6.PlainCodec.sampleRequest 3)).value.length ≤
      clientOrderIdMaxLen := by decide
  have allowed : (ClientOrderId.fromStrategyRequest (Stage6.PlainCodec.sampleRequest 3)).value.toList.all
      isClientOrderIdCharacter = true := by decide
  exact ⟨short, List.all_eq_true.1 allowed⟩

/-- An order whose id the mapping drops is adopted by its shape. -/
theorem not_neverAdopted {text : String} (notSafe : ¬ CoreSafe text) : ¬ NeverAdopted text := by
  intro never
  obtain ⟨sample, reduces, isExact, selected⟩ := sampleReduction_of_shape
  obtain ⟨⟨attribution, isContext⟩, admits, reduced⟩ := sampleReduction_some reduces
  have other : text ≠ sample.context.clientOrderId.value := by
    intro same
    rw [isContext] at same
    exact notSafe (same ▸ sampleRequest_coreSafe attribution)
  exact never plainMapperCodec (sampleOrderState (some text)) (atSecond 5) sampleOrder plainStage8a4Codec sample.context
    samplePolicy (sampleTruth sampleOrder) (sampleEvidence sampleOrder) sample.admission sample.outcome rfl other
    (sampleOrder_appears notSafe) List.mem_cons_self admits (sample_digestsDistinguish admits) reduced isExact selected

/-- A foreign order is never adopted exactly where the core can represent its client order id. -/
theorem foreign_orders_never_adopted_iff {text : String} (present : text ≠ "") :
    NeverAdopted text ↔ CoreSafe text := by
  constructor
  · intro never
    by_contra notSafe
    exact not_neverAdopted notSafe never
  · intro safe mapper state receivedTs snapshot codec context policy truth evidence admission outcome names other appears
      _ _ distinguish reduced isExact selected
    have carries : snapshot.clientOrderId = some { value := text } := by
      rw [appears.clientOrderId, names, Option.bind_some]
      exact mapClientOrderId_some present safe
    obtain ⟨exact, reduction, -, -, -, found⟩ := reduceStage8a4Authoritative_exact reduced isExact
    rw [found, selectedByDigest_eq distinguish reduction.selects.source.mem_observed] at selected
    cases selected
    exact other (congrArg ClientOrderId.value (reduction.identity.client carries))

theorem foreign_orders_never_adopted_manual :
    NeverAdopted "manual-1" ↔ CoreSafe "manual-1" :=
  foreign_orders_never_adopted_iff (by decide)

/-- An id of more than twenty characters is dropped, and its order adopted. -/
theorem long_client_order_id_is_adopted : ¬ NeverAdopted "THIS-CLIENT-ORDER-ID-IS-TOO-LONG" := by
  refine not_neverAdopted ?_
  unfold CoreSafe
  decide

end TradingGateway.FinamGateway.ForeignOrders
