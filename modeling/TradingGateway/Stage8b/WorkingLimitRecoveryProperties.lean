import TradingGateway.Stage8b.WorkingLimitInversion
import TradingGateway.Stage8b.WorkingLimitRecovery

/-! Recovery recomputes the live transition: for every plan a builder accepts, the
evidence alone gives the same plan back. -/

set_option autoImplicit false

namespace TradingGateway.Stage8b.WorkingLimitRecovery

open BrokerCore.FixedPoint BrokerCore.HybridAttribution BrokerCore.Identifiers BrokerCore.OperationalSnapshot
open BrokerCore.Orders Stage6.JournalRecord
open WorkingLimitBook WorkingLimitBook.Stage8bP1d3WorkingBookProjectionV1 WorkingLimitBuilders
open WorkingLimitEvidence WorkingLimitInputs WorkingLimitProjections
open Foundation.ExceptRun

variable {codec : WorkingLimitCodec} {preBook : Stage8bP1d3WorkingBookProjectionV1}

/-- The sixteen bytes of a decimal can be read back. -/
def DecimalRoundTrip (codec : OutcomeEvidenceCodec) : Prop :=
  ∀ value, codec.decimalDeserialize (codec.decimalSerialize value) = value

section Decimals

variable (readable : DecimalRoundTrip codec.toOutcomeEvidenceCodec)

include readable

theorem decimal_serialize (value : Decimal) :
    Stage8bP1d3OutcomeEvidenceV1.decimal codec.toOutcomeEvidenceCodec (codec.decimalSerialize value) = .ok value := by
  unfold Stage8bP1d3OutcomeEvidenceV1.decimal
  have back : codec.decimalDeserialize (codec.decimalSerialize value) = value := readable value
  simp only [back, if_true]

theorem decimalOption_serialize (value : Option Decimal) :
    Stage8bP1d3OutcomeEvidenceV1.decimalOption codec.toOutcomeEvidenceCodec (value.map codec.decimalSerialize) =
      .ok value := by
  cases value with
  | none => rfl
  | some value =>
      show some <$> Stage8bP1d3OutcomeEvidenceV1.decimal codec.toOutcomeEvidenceCodec (codec.decimalSerialize value) = _
      rw [decimal_serialize readable]
      rfl

end Decimals

section Sealing

variable {inserted : Stage8bP1d3WorkingBookProjectionV1} {evidence : Stage8bP1d3OutcomeEvidenceV1}
variable {phase : Stage8bP1d3BookPhase} {frontier : UInt64} {ack : Option CommandAck}
variable {truth : Option BrokerTruthSnapshot} {plan : Stage8bP1d3TransitionPlan}

/-- Evidence that predicts the book it was sealed into seals it again. -/
theorem sealRecovered_of_sealed (isSealed : Sealed codec inserted evidence phase frontier ack truth plan)
    (predicts : evidence.expectedPostBookSha256 = postBookStateSha256 codec inserted)
    (reserved : evidence.reservedSeqTruth = some frontier) :
    sealRecovered codec evidence plan.evidenceBytes
      { postBook := inserted, ack := ack, truth := truth, changedBook := true, phase := phase } = .ok plan := by
  obtain ⟨rfl, encodes, digests, advances, rfl, rfl⟩ := isSealed
  simp only [sealRecovered, if_true, predicts, ne_eq, not_true_eq_false, not_false_eq_true, rejectIf_of_not, ok_bind,
    digests, reserved, orReject, advances]

end Sealing

section Scope

theorem record_scope {record : Stage8bP1d3OrderRecordV1} (valid : record.validate codec preBook = .ok ()) :
    record.accountId = preBook.accountId ∧ record.instrument = preBook.instrument ∧
      record.attribution = preBook.attribution := by
  unfold Stage8bP1d3OrderRecordV1.validate at valid
  obtain ⟨_, _, valid⟩ := bind_ok_iff.1 valid
  obtain ⟨_, _, valid⟩ := bind_ok_iff.1 valid
  obtain ⟨_, _, valid⟩ := bind_ok_iff.1 valid
  obtain ⟨_, _, valid⟩ := bind_ok_iff.1 valid
  obtain ⟨inScope, _⟩ := check_bind_ok_iff.1 valid
  simpa only [rejectIf_ok_iff, not_or, ne_eq, not_not] using inScope

structure InitialScope (preBook : Stage8bP1d3WorkingBookProjectionV1) (input : Stage8bP1d3InitialLimitInput) :
    Prop where
  identity : input.operationalIdentitySha256 = preBook.operationalIdentitySha256
  generation : input.packageGeneration = preBook.packageGeneration
  account : input.accountId = preBook.accountId
  instrument : input.instrument = preBook.instrument
  attribution : input.attribution = preBook.attribution
  client : input.durableClientOrderId = ClientOrderId.fromStrategyRequest input.requestId

theorem validateInitialInput_scope {input : Stage8bP1d3InitialLimitInput}
    (checked : validateInitialInput preBook input = .ok ()) : InitialScope preBook input := by
  unfold validateInitialInput at checked
  obtain ⟨checked, _⟩ := check_bind_ok_iff.1 checked
  simp only [rejectIf_ok_iff, not_or, ne_eq, not_not] at checked
  obtain ⟨identity, generation, account, instrument, attribution, client⟩ := checked
  exact ⟨identity, generation, account, instrument, attribution, client⟩

structure CancelScope (preBook : Stage8bP1d3WorkingBookProjectionV1) (input : Stage8bP1d3CancelInput) : Prop where
  identity : input.operationalIdentitySha256 = preBook.operationalIdentitySha256
  generation : input.packageGeneration = preBook.packageGeneration
  account : input.accountId = preBook.accountId
  instrument : input.instrument = preBook.instrument
  attribution : cancelAttribution preBook.attribution = .ok input.attribution
  client : input.durableRequestClientId = ClientOrderId.fromStrategyRequest input.requestId

theorem validateCancelInput_scope {input : Stage8bP1d3CancelInput}
    (checked : validateCancelInput preBook input = .ok ()) : CancelScope preBook input := by
  unfold validateCancelInput at checked
  obtain ⟨inScope, checked⟩ := check_bind_ok_iff.1 checked
  obtain ⟨attribution, attributed, checked⟩ := bind_ok_iff.1 checked
  obtain ⟨named, _⟩ := check_bind_ok_iff.1 checked
  simp only [rejectIf_ok_iff, not_or, ne_eq, not_not] at inScope named
  obtain ⟨identity, generation, account, instrument⟩ := inScope
  obtain ⟨same, client, _⟩ := named
  exact ⟨identity, generation, account, instrument, same ▸ attributed, client⟩

end Scope

section Steps

variable {evidence : Stage8bP1d3OutcomeEvidenceV1}

theorem checkScope_ok {attribution : HybridRuntimeAttribution}
    (expects : expectedAttribution preBook evidence.outcomeKind = .ok attribution)
    (identity : evidence.operationalIdentitySha256 = preBook.operationalIdentitySha256)
    (generation : evidence.packageGeneration = preBook.packageGeneration)
    (preGeneration : evidence.preBookGeneration = preBook.packageGeneration)
    (account : evidence.accountId = preBook.accountId) (instrument : evidence.instrument = preBook.instrument)
    (fingerprint : evidence.attributionFingerprintSha256 = attributionSha256 codec attribution)
    (digest : preBook.canonicalSha256 codec = .ok evidence.preBookSha256) :
    checkScope codec preBook evidence = .ok () := by
  unfold checkScope
  rw [expects, ok_bind, rejectIf_of_not _ (by simp [identity, generation, preGeneration, account, instrument,
    fingerprint]), ok_bind, digest, ok_bind, rejectIf_of_not _ (by simp)]

theorem recoverInputs_ok {timestamp : DateTimeUtc} {qty limit prePositionQty : Decimal}
    {fill prePositionAvg : Option Decimal} (readable : DecimalRoundTrip codec.toOutcomeEvidenceCodec)
    (timed : exactTimestamp codec evidence.transitionSourceTsUtcMs = .ok timestamp)
    (quantity : Stage8bP1d3OutcomeEvidenceV1.decimal codec.toOutcomeEvidenceCodec evidence.qtyDecimalBytes = .ok qty)
    (price : Stage8bP1d3OutcomeEvidenceV1.decimal codec.toOutcomeEvidenceCodec evidence.limitPriceDecimalBytes =
      .ok limit)
    (fills : evidence.fillPriceDecimalBytes = fill.map codec.decimalSerialize)
    (position : evidence.prePositionQtyDecimalBytes = codec.decimalSerialize prePositionQty)
    (average : evidence.prePositionAvgPriceDecimalBytes = prePositionAvg.map codec.decimalSerialize) :
    recoverInputs codec evidence = .ok {
      timestamp := timestamp
      qty := qty
      limit := limit
      fill := fill
      prePositionQty := prePositionQty
      prePositionAvg := prePositionAvg } := by
  unfold recoverInputs
  rw [timed, ok_bind, quantity, ok_bind, price, ok_bind, fills, decimalOption_serialize readable, ok_bind, position,
    decimal_serialize readable, ok_bind, average, decimalOption_serialize readable, ok_bind]

theorem exactBoundRecord_ok {record : Stage8bP1d3OrderRecordV1} {requireActive : Bool}
    (found : preBook.record evidence.brokerOrderId = some record)
    (active : requireActive = true → record.lifecycle = .active) (account : record.accountId = evidence.accountId)
    (instrument : record.instrument = evidence.instrument) (side : record.side = evidence.side)
    (quantity : record.qtyDecimalBytes = evidence.qtyDecimalBytes)
    (price : record.limitPriceDecimalBytes = evidence.limitPriceDecimalBytes)
    (client : evidence.targetPlaceClientId = some record.originalDurablePlaceClientId)
    (identity : evidence.outcomeKind.isCancelScoped = false →
      record.acceptedStage6IdentitySha256 = evidence.acceptedStage6IdentitySha256) :
    exactBoundRecord preBook evidence requireActive = .ok record := by
  unfold exactBoundRecord
  rw [orReject_bind_of_some found, orReject_bind_of_some client, rejectIf_of_not, ok_bind]
  simp only [not_or, not_and, ne_eq, not_not]
  exact ⟨active, account, instrument, side, quantity, price, trivial, identity⟩

def authenticatedOf (plan : Stage8bP1d3TransitionPlan) : Stage8bP1d3AuthenticatedOutcomeEvidence :=
  { evidence := plan.evidence, canonicalBytes := plan.evidenceBytes }

/-- Recovery goes through when each of its steps does. -/
theorem recover_of_steps {plan : Stage8bP1d3TransitionPlan} {inputs : RecoveredInputs} {effect : RecoveredEffect}
    {afterScheduleBinding : Bool} (valid : preBook.validate codec = .ok ())
    (inScope : checkScope codec preBook plan.evidence = .ok ())
    (reads : recoverInputs codec plan.evidence = .ok inputs)
    (effects : recoverEffect codec preBook plan.evidence inputs afterScheduleBinding = .ok effect)
    (seals : sealRecovered codec plan.evidence plan.evidenceBytes effect = .ok plan) :
    recoverStage8bP1d3OutcomeTransitionInner codec preBook (authenticatedOf plan) afterScheduleBinding = .ok plan := by
  unfold recoverStage8bP1d3OutcomeTransitionInner authenticatedOf
  rw [valid, ok_bind, inScope, ok_bind, reads, ok_bind, effects, ok_bind, seals]

end Steps

section Initial

variable {input : Stage8bP1d3InitialLimitInput} {candidate : Option Stage8bP1d3CanonicalM10Evidence}
variable {step : Option Stage8bP1d3ScheduleStepAuthority} {expiry : Option Stage8bP1d3DayExpiryAuthority}
variable {observed : InitialObservation}

def IsInitial (kind : Stage8bP1d3OutcomeKind) : Prop :=
  kind = .initialWorking ∨ kind = .initialFilled ∨ kind = .initialExpired

/-- A checked step names the day of its candidate. -/
theorem validateInitialStep_day {authority : Stage8bP1d3ScheduleStepAuthority} {predecessor : String}
    {bar : Stage8bP1d3CanonicalM10Evidence} (checked : validateInitialStep codec authority predecessor bar = .ok ()) :
    tradingDay codec bar.closeTsUtcMs = .ok authority.tradingDayIdentity := by
  unfold validateInitialStep validateStepOn validateStepIdentity at checked
  obtain ⟨_, checked⟩ := check_bind_ok_iff.1 checked
  obtain ⟨_, checked⟩ := check_bind_ok_iff.1 checked
  obtain ⟨day, dated, checked⟩ := bind_ok_iff.1 checked
  simp only [rejectIf_ok_iff, ne_eq, not_not] at checked
  rw [checked]
  exact dated

theorem observeInitial_shape (observes : observeInitial codec preBook input candidate step expiry = .ok observed) :
    IsInitial observed.kind ∧
      (observed.status, observed.lifecycle, observed.filled, observed.remaining) =
        initialShape observed.kind input.qty ∧
      initialTradingDay codec candidate observed = .ok observed.tradingDayIdentity := by
  unfold observeInitial at observes
  split at observes
  · unfold observeInitialCandidate at observes
    obtain ⟨_, observes⟩ := check_bind_ok_iff.1 observes
    obtain ⟨stepped, observes⟩ := check_bind_ok_iff.1 observes
    obtain ⟨_, observes⟩ := check_bind_ok_iff.1 observes
    obtain ⟨⟨decision, fill⟩, _, observes⟩ := bind_ok_iff.1 observes
    have dated := validateInitialStep_day stepped
    cases decision with
    | working =>
        cases observes
        exact ⟨.inl rfl, rfl, dated⟩
    | filled =>
        cases observes
        exact ⟨.inr (.inl rfl), rfl, dated⟩
  · unfold observeInitialExpiry at observes
    obtain ⟨_, observes⟩ := check_bind_ok_iff.1 observes
    cases observes
    exact ⟨.inr (.inr rfl), rfl, rfl⟩
  · cases observes

/-- Well-formed evidence of a first or later outcome names the trade of its bar. -/
theorem verifyTradeIdentity_ok {evidence : Stage8bP1d3OutcomeEvidenceV1} {fill : Option Decimal}
    {bar : Option Stage8bP1d3CanonicalM10Evidence}
    (valid : evidence.validate codec.toOutcomeEvidenceCodec = .ok ())
    (isOutcome : evidence.outcomeKind.isCancelScoped = false)
    (candidates : evidence.candidateM10 = candidateM10Of bar)
    (traded : evidence.brokerTradeId =
      (zip fill bar).map fun (_, bar) => deriveTradeId codec evidence.brokerOrderId bar.semanticIdSha256) :
    verifyTradeIdentity codec evidence = .ok () := by
  unfold Stage8bP1d3OutcomeEvidenceV1.validate at valid
  obtain ⟨_, valid⟩ := check_bind_ok_iff.1 valid
  obtain ⟨_, valid⟩ := check_bind_ok_iff.1 valid
  obtain ⟨_, valid⟩ := check_bind_ok_iff.1 valid
  obtain ⟨_, valid⟩ := check_bind_ok_iff.1 valid
  obtain ⟨_, valid⟩ := check_bind_ok_iff.1 valid
  obtain ⟨_, valid⟩ := check_bind_ok_iff.1 valid
  obtain ⟨_, valid⟩ := check_bind_ok_iff.1 valid
  simp only [rejectIf_ok_iff, not_or, not_and] at valid
  obtain ⟨_, filledTrades, excludes⟩ := valid
  unfold verifyTradeIdentity
  refine rejectIf_of_not _ ?_
  rw [not_or, not_and]
  refine ⟨?_, ?_⟩
  · cases kind : evidence.outcomeKind <;>
      simp_all [Stage8bP1d3OutcomeKind.isFilled, Stage8bP1d3OutcomeKind.excludesTrade,
        Stage8bP1d3OutcomeKind.isCancelScoped, Option.isSome_iff_ne_none]
  · intro isFilled
    have trades := filledTrades isFilled
    rw [traded] at trades
    rw [ne_eq, not_not, traded, candidates]
    cases fill with
    | none => exact absurd rfl trades
    | some fill =>
        cases bar with
        | none => exact absurd rfl trades
        | some bar => rfl

/-- Both ways to the truth of a first observation read the same fields. -/
theorem exactTruthFromRecord_of_input {record : Stage8bP1d3OrderRecordV1} {order : BrokerOrderSnapshot}
    {tradeId : Option BrokerTradeId} {fill : Option Decimal} {timestamp : DateTimeUtc}
    (account : record.accountId = input.accountId) (named : order.brokerOrderId = some record.brokerOrderId)
    (client : record.originalDurablePlaceClientId = input.durableClientOrderId)
    (instrument : record.instrument = input.instrument) (side : record.side = input.side)
    (quantity : record.qty codec = .ok input.qty) :
    exactTruthFromRecord codec record order tradeId fill input.prePositionQty input.prePositionAvgPrice timestamp =
      exactTruth codec input order tradeId fill timestamp := by
  unfold exactTruthFromRecord exactTruth
  cases zipped : zip tradeId fill with
  | none => simp [account]
  | some pair => simp [quantity, account, named, client, instrument, side]

def initialInputs (input : Stage8bP1d3InitialLimitInput) (observed : InitialObservation)
    (transitionTime : DateTimeUtc) : RecoveredInputs :=
  { timestamp := transitionTime
    qty := input.qty
    limit := input.limitPrice
    fill := observed.fill
    prePositionQty := input.prePositionQty
    prePositionAvg := input.prePositionAvgPrice }

def initialRow (codec : WorkingLimitCodec) (preBook : Stage8bP1d3WorkingBookProjectionV1)
    (input : Stage8bP1d3InitialLimitInput) (candidate : Option Stage8bP1d3CanonicalM10Evidence)
    (observed : InitialObservation) (transitionTime : DateTimeUtc) (seqTruth : UInt64) : Stage8bP1d3OrderRecordV1 :=
  initialRecord codec preBook input candidate observed (deriveOrderId codec input.operationalIdentitySha256
    input.requestId input.canonicalCommandSha256) (initialTradeId codec input candidate observed)
    (initialOrder codec input observed transitionTime) observed.tradingDayIdentity seqTruth

theorem recoverInitialRecord_ok {sequences : UInt64 × UInt64}
    {preBookSha256 expectedPostBookSha256 : HexText} {finalized : HexText × HexText} {order : BrokerOrderSnapshot}
    {brokerOrderId : BrokerOrderId} {brokerTradeId : Option BrokerTradeId} (inScope : InitialScope preBook input)
    (shape : (observed.status, observed.lifecycle, observed.filled, observed.remaining) =
      initialShape observed.kind input.qty) :
    recoverInitialRecord codec preBook (initialEvidence codec preBook input candidate observed brokerOrderId
        brokerTradeId sequences preBookSha256 expectedPostBookSha256 finalized) input.requestId
      input.durableClientOrderId input.canonicalCommandSha256 (initialShape observed.kind input.qty) order =
    .ok (initialRecord codec preBook input candidate observed brokerOrderId brokerTradeId order
      observed.tradingDayIdentity sequences.2) := by
  rw [← shape]
  simp [recoverInitialRecord, initialEvidence, initialRecord, orReject, candidateM10Of, inScope.attribution]

theorem recoverInitial_ok {transitionTime : DateTimeUtc} {sequences : UInt64 × UInt64}
    {truth : BrokerTruthSnapshot} {tradingDayIdentity : String} {finalized : HexText × HexText}
    {inserted : Stage8bP1d3WorkingBookProjectionV1} {preBookSha256 : HexText} {plan : Stage8bP1d3TransitionPlan}
    (readable : DecimalRoundTrip codec.toOutcomeEvidenceCodec)
    (observes : observeInitial codec preBook input candidate step expiry = .ok observed)
    (facts : InitialBuilt codec preBook input candidate observed transitionTime sequences truth tradingDayIdentity
      finalized inserted preBookSha256 plan)
    (fresh : preBook.record (deriveOrderId codec input.operationalIdentitySha256 input.requestId
      input.canonicalCommandSha256) = none) :
    recoverInitial codec preBook plan.evidence (initialInputs input observed transitionTime) = .ok {
      postBook := inserted
      ack := plan.ack
      truth := plan.truth
      changedBook := true
      phase := if observed.lifecycle = .active then .working else .terminal } := by
  obtain ⟨isInitial, shape, dated⟩ := observeInitial_shape observes
  have inScope := validateInitialInput_scope facts.checked
  have isSealed := facts.isSealed
  have evidenceIs := isSealed.evidenceIs
  have valid := (validate_of_encodeCanonical isSealed.encodes).1
  have sameDay : tradingDayIdentity = observed.tradingDayIdentity :=
    Except.ok.inj (facts.dated.symm.trans dated)
  have inserts : preBook.insertOrReplace (initialRow codec preBook input candidate observed transitionTime
      sequences.2) = .ok inserted := by
    have inserts := facts.inserts
    rw [sameDay] at inserts
    exact inserts
  have placed : ¬ (preBook.activeRecord.isSome = true ∨ (preBook.record plan.evidence.brokerOrderId).isSome = true ∨
      plan.evidence.transitionOrdinal ≠ preBook.transitionOrdinal + 1) := by
    rw [evidenceIs]
    simp [initialEvidence, facts.noActive, fresh]
  have requested : plan.evidence.requestId = some input.requestId := by
    rw [evidenceIs]
    rfl
  have client : plan.evidence.durableRequestClientId = some input.durableClientOrderId := by
    rw [evidenceIs]
    rfl
  have command : plan.evidence.canonicalCommandSha256 = some input.canonicalCommandSha256 := by
    rw [evidenceIs]
    rfl
  have named : ¬ (input.durableClientOrderId ≠ ClientOrderId.fromStrategyRequest input.requestId ∨
      plan.evidence.targetPlaceClientId ≠ some input.durableClientOrderId ∨
      deriveOrderId codec plan.evidence.operationalIdentitySha256 input.requestId input.canonicalCommandSha256 ≠
        plan.evidence.brokerOrderId) := by
    rw [evidenceIs]
    simp [initialEvidence, inScope.client]
  have traded : verifyTradeIdentity codec plan.evidence = .ok () := by
    rw [evidenceIs]
    refine verifyTradeIdentity_ok valid ?_ rfl rfl
    rcases isInitial with kind | kind | kind <;> simp [initialEvidence, kind, Stage8bP1d3OutcomeKind.isCancelScoped]
  have kind : plan.evidence.outcomeKind = observed.kind := by
    rw [evidenceIs]
    rfl
  have sameOrder : recoveredInitialOrder plan.evidence input.durableClientOrderId (initialInputs input observed transitionTime) =
      initialOrder codec input observed transitionTime := by
    rw [evidenceIs]
    simp [recoveredInitialOrder, initialOrder, initialEvidence, initialInputs, ← shape]
  have recorded : recoverInitialRecord codec preBook plan.evidence input.requestId input.durableClientOrderId
      input.canonicalCommandSha256 (initialShape plan.evidence.outcomeKind input.qty)
      (initialOrder codec input observed transitionTime) =
        .ok (initialRow codec preBook input candidate observed transitionTime sequences.2) := by
    rw [kind, evidenceIs]
    exact recoverInitialRecord_ok inScope shape
  have truthful : exactTruthFromRecord codec (initialRow codec preBook input candidate observed transitionTime
      sequences.2) (initialOrder codec input observed transitionTime)
      plan.evidence.brokerTradeId observed.fill input.prePositionQty input.prePositionAvgPrice transitionTime =
        .ok truth := by
    have quantity : (initialRow codec preBook input candidate observed transitionTime sequences.2).qty codec =
        .ok input.qty := decimal_serialize readable input.qty
    rw [exactTruthFromRecord_of_input rfl rfl rfl rfl rfl quantity, evidenceIs]
    exact facts.projects
  have lifecycle : (initialShape observed.kind input.qty).2.1 = observed.lifecycle := by
    rw [← shape]
  have order : plan.evidence.brokerOrderId = deriveOrderId codec input.operationalIdentitySha256 input.requestId
      input.canonicalCommandSha256 := by
    rw [evidenceIs]
    rfl
  unfold recoverInitial
  rw [rejectIf_of_not _ placed, ok_bind, orReject_bind_of_some requested, orReject_bind_of_some client,
    orReject_bind_of_some command, rejectIf_of_not _ named, ok_bind]
  simp only [initialInputs] at sameOrder ⊢
  rw [traded, ok_bind, sameOrder, recorded, ok_bind, truthful, ok_bind, inserts, ok_bind, kind, isSealed.ackIs,
    isSealed.truthIs, order]
  simp only [lifecycle]

theorem recover_initial {plan : Stage8bP1d3TransitionPlan}
    (readable : DecimalRoundTrip codec.toOutcomeEvidenceCodec)
    (built : buildInitialLimitTransition codec preBook input candidate step expiry = .ok plan)
    (fresh : preBook.record (deriveOrderId codec input.operationalIdentitySha256 input.requestId
      input.canonicalCommandSha256) = none) (afterScheduleBinding : Bool) :
    recoverStage8bP1d3OutcomeTransitionInner codec preBook (authenticatedOf plan) afterScheduleBinding = .ok plan := by
  obtain ⟨observed, transitionTime, sequences, truth, day, finalized, inserted, preBookSha256, observes, facts⟩ :=
    buildInitialLimitTransition_ok built
  obtain ⟨isInitial, _, _⟩ := observeInitial_shape observes
  have inScope := validateInitialInput_scope facts.checked
  have isSealed := facts.isSealed
  have evidenceIs := isSealed.evidenceIs
  have kind : plan.evidence.outcomeKind = observed.kind := by
    rw [evidenceIs]
    rfl
  have expects : expectedAttribution preBook plan.evidence.outcomeKind = .ok preBook.attribution := by
    unfold expectedAttribution
    rcases isInitial with same | same | same <;> rw [kind, same] <;> rfl
  have effects : recoverEffect codec preBook plan.evidence (initialInputs input observed transitionTime)
      afterScheduleBinding = recoverInitial codec preBook plan.evidence
        (initialInputs input observed transitionTime) := by
    unfold recoverEffect
    rcases isInitial with same | same | same <;> rw [kind, same]
  refine recover_of_steps facts.valid (checkScope_ok expects ?_ ?_ ?_ ?_ ?_ ?_ ?_)
    (recoverInputs_ok readable ?_ ?_ ?_ ?_ ?_ ?_) (effects.trans (recoverInitial_ok readable observes facts fresh)) ?_
  · rw [evidenceIs]
    exact inScope.identity
  · rw [evidenceIs]
    exact inScope.generation
  · rw [evidenceIs]
    rfl
  · rw [evidenceIs]
    exact inScope.account
  · rw [evidenceIs]
    exact inScope.instrument
  · rw [evidenceIs, ← inScope.attribution]
    rfl
  · rw [evidenceIs]
    exact facts.preBookDigest
  · rw [evidenceIs]
    exact facts.timed
  · rw [evidenceIs]
    exact decimal_serialize readable input.qty
  · rw [evidenceIs]
    exact decimal_serialize readable input.limitPrice
  · rw [evidenceIs]
    rfl
  · rw [evidenceIs]
    rfl
  · rw [evidenceIs]
    rfl
  · rw [isSealed.ackIs, isSealed.truthIs, evidenceIs]
    exact sealRecovered_of_sealed isSealed rfl rfl

end Initial

section Later

variable {input : Stage8bP1d3AutonomousInput} {record : Stage8bP1d3OrderRecordV1} {cause : AutonomousCause}
variable {ended : AutonomousEnd} {seqTruth : UInt64} {timestamp receiptTimestamp : DateTimeUtc}
variable {qty limit : Decimal} {truth : BrokerTruthSnapshot} {inserted : Stage8bP1d3WorkingBookProjectionV1}
variable {preBookSha256 : HexText} {plan : Stage8bP1d3TransitionPlan}

theorem autonomousEnd_shape (ends : autonomousEnd codec record cause = .ok ended) (quantity : record.qty codec = .ok qty) :
    (ended.kind = .laterFilled ∨ ended.kind = .laterExpired) ∧
      (ended.status, ended.filled, ended.remaining) = laterShape ended.kind qty := by
  cases cause with
  | filled bar step fillPrice =>
      unfold autonomousEnd at ends
      obtain ⟨_, _, ends⟩ := bind_ok_iff.1 ends
      obtain ⟨_, ends⟩ := check_bind_ok_iff.1 ends
      obtain ⟨recorded, reads, ends⟩ := bind_ok_iff.1 ends
      cases reads.symm.trans quantity
      cases ends
      exact ⟨.inl rfl, rfl⟩
  | expired expiry =>
      unfold autonomousEnd at ends
      obtain ⟨recorded, reads, ends⟩ := bind_ok_iff.1 ends
      cases reads.symm.trans quantity
      cases ends
      exact ⟨.inr rfl, rfl⟩

/-- The truth of a fill reads only fields that an outcome does not change. -/
theorem exactTruthFromRecord_congr {other : Stage8bP1d3OrderRecordV1} {order : BrokerOrderSnapshot}
    {tradeId : Option BrokerTradeId} {fill average : Option Decimal} {position : Decimal} {time : DateTimeUtc}
    (account : other.accountId = record.accountId) (named : other.brokerOrderId = record.brokerOrderId)
    (client : other.originalDurablePlaceClientId = record.originalDurablePlaceClientId)
    (instrument : other.instrument = record.instrument) (side : other.side = record.side)
    (quantity : other.qtyDecimalBytes = record.qtyDecimalBytes) :
    exactTruthFromRecord codec other order tradeId fill position average time =
      exactTruthFromRecord codec record order tradeId fill position average time := by
  have sameQty : other.qty codec = record.qty codec := by
    unfold Stage8bP1d3OrderRecordV1.qty
    rw [quantity]
  unfold exactTruthFromRecord
  rw [account, named, client, instrument, side, sameQty]

def autonomousRow (codec : WorkingLimitCodec) (preBook : Stage8bP1d3WorkingBookProjectionV1)
    (record : Stage8bP1d3OrderRecordV1) (cause : AutonomousCause) (ended : AutonomousEnd) (qty limit : Decimal)
    (receiptTimestamp : DateTimeUtc) (seqTruth : UInt64) : Stage8bP1d3OrderRecordV1 :=
  autonomousRecord codec preBook record cause.candidate ended (autonomousTradeId codec record cause)
    (autonomousOrder record ended qty limit receiptTimestamp) seqTruth

def laterInputs (input : Stage8bP1d3AutonomousInput) (cause : AutonomousCause) (timestamp : DateTimeUtc)
    (qty limit : Decimal) : RecoveredInputs :=
  { timestamp := timestamp
    qty := qty
    limit := limit
    fill := cause.fillPrice
    prePositionQty := input.prePositionQty
    prePositionAvg := input.prePositionAvgPrice }

theorem recoverLater_ok
    (facts : AutonomousBuilt codec preBook input record cause ended seqTruth timestamp receiptTimestamp qty limit
      truth inserted preBookSha256 plan)
    (found : preBook.record record.brokerOrderId = some record) (isActive : record.lifecycle = .active)
    (valid : record.validate codec preBook = .ok ()) :
    recoverLater codec preBook plan.evidence (laterInputs input cause timestamp qty limit)
        (cause.expiry.any (·.hasV4Proof)) = .ok {
      postBook := inserted
      ack := plan.ack
      truth := plan.truth
      changedBook := true
      phase := .terminal } := by
  have isSealed := facts.isSealed
  have evidenceIs := isSealed.evidenceIs
  obtain ⟨isLater, shape⟩ := autonomousEnd_shape facts.ends facts.quantity
  obtain ⟨account, instrument, _⟩ := record_scope valid
  have wellFormed := (validate_of_encodeCanonical isSealed.encodes).1
  have kind : plan.evidence.outcomeKind = ended.kind := by
    rw [evidenceIs]
    rfl
  have ordinal : ¬ plan.evidence.transitionOrdinal ≠ preBook.transitionOrdinal + 1 := by
    rw [evidenceIs]
    exact not_not.2 rfl
  have bound : exactBoundRecord preBook plan.evidence true = .ok record := by
    rw [evidenceIs]
    cases cause <;>
      exact exactBoundRecord_ok found (fun _ => isActive) account instrument rfl rfl rfl rfl fun _ => rfl
  have traded : verifyTradeIdentity codec plan.evidence = .ok () := by
    have named : plan.evidence.brokerTradeId = (zip cause.fillPrice cause.candidate).map fun (_, bar) =>
        deriveTradeId codec plan.evidence.brokerOrderId bar.semanticIdSha256 := by
      rw [evidenceIs]
      cases cause <;> rfl
    rw [evidenceIs] at named ⊢
    refine verifyTradeIdentity_ok wellFormed ?_ rfl named
    rcases isLater with same | same <;> simp [autonomousEvidence, same, Stage8bP1d3OutcomeKind.isCancelScoped]
  have received : orderedAutonomousReceiptTimestamp codec timestamp plan.evidence.outcomeKind
      (cause.expiry.any (·.hasV4Proof)) = .ok receiptTimestamp := by
    rw [kind]
    exact facts.received
  have sameOrder : recoveredLaterOrder record plan.evidence (laterInputs input cause timestamp qty limit)
      receiptTimestamp = autonomousOrder record ended qty limit receiptTimestamp := by
    unfold recoveredLaterOrder autonomousOrder
    rw [kind]
    simp only [laterInputs, ← shape]
  have reserved : plan.evidence.reservedSeqTruth = some seqTruth := by
    rw [evidenceIs]
    rfl
  have sameRecord : recoveredLaterRecord codec record plan.evidence (laterInputs input cause timestamp qty limit)
      (autonomousOrder record ended qty limit receiptTimestamp) seqTruth =
        autonomousRow codec preBook record cause ended qty limit receiptTimestamp seqTruth := by
    unfold recoveredLaterRecord
    rw [kind, evidenceIs]
    simp only [laterInputs, ← shape]
    cases cause <;> rfl
  have truthful : exactTruthFromRecord codec
      (autonomousRow codec preBook record cause ended qty limit receiptTimestamp seqTruth)
      (autonomousOrder record ended qty limit receiptTimestamp) plan.evidence.brokerTradeId cause.fillPrice
      input.prePositionQty input.prePositionAvgPrice receiptTimestamp = .ok truth := by
    rw [evidenceIs, ← facts.projects]
    cases cause <;> exact exactTruthFromRecord_congr rfl rfl rfl rfl rfl rfl
  unfold recoverLater
  rw [rejectIf_of_not _ ordinal, ok_bind, bound, ok_bind, traded, ok_bind]
  simp only [laterInputs] at sameOrder sameRecord ⊢
  rw [received, ok_bind, orReject_bind_of_some reserved, sameOrder, sameRecord, truthful, ok_bind]
  have inserts : preBook.insertOrReplace
      (autonomousRow codec preBook record cause ended qty limit receiptTimestamp seqTruth) = .ok inserted :=
    facts.inserts
  rw [inserts, ok_bind, isSealed.ackIs, isSealed.truthIs]

theorem recover_autonomous (readable : DecimalRoundTrip codec.toOutcomeEvidenceCodec)
    (valid : preBook.validate codec = .ok ()) (member : record ∈ preBook.records)
    (isActive : record.lifecycle = .active)
    (built : buildAutonomousOutcome codec preBook input record cause = .ok plan) :
    recoverStage8bP1d3OutcomeTransitionInner codec preBook (authenticatedOf plan)
      (cause.expiry.any (·.hasV4Proof)) = .ok plan := by
  obtain ⟨ended, seqTruth, timestamp, receiptTimestamp, qty, limit, truth, inserted, preBookSha256, facts⟩ :=
    buildAutonomousOutcome_ok built
  have registry := registry_of_validate valid
  obtain ⟨isLater, _⟩ := autonomousEnd_shape facts.ends facts.quantity
  have isSealed := facts.isSealed
  have evidenceIs := isSealed.evidenceIs
  have kind : plan.evidence.outcomeKind = ended.kind := by
    rw [evidenceIs]
    rfl
  have expects : expectedAttribution preBook plan.evidence.outcomeKind = .ok preBook.attribution := by
    unfold expectedAttribution
    rcases isLater with same | same <;> rw [kind, same] <;> rfl
  have effects : recoverEffect codec preBook plan.evidence (laterInputs input cause timestamp qty limit)
      (cause.expiry.any (·.hasV4Proof)) = recoverLater codec preBook plan.evidence
        (laterInputs input cause timestamp qty limit) (cause.expiry.any (·.hasV4Proof)) := by
    unfold recoverEffect
    rcases isLater with same | same <;> rw [kind, same]
  refine recover_of_steps valid (checkScope_ok expects ?_ ?_ ?_ ?_ ?_ ?_ ?_)
    (recoverInputs_ok readable ?_ ?_ ?_ ?_ ?_ ?_)
    (effects.trans (recoverLater_ok facts (registry.record_of_mem member) isActive (registry.valid record member))) ?_
  · rw [evidenceIs]
    rfl
  · rw [evidenceIs]
    rfl
  · rw [evidenceIs]
    rfl
  · rw [evidenceIs]
    rfl
  · rw [evidenceIs]
    rfl
  · rw [evidenceIs]
    rfl
  · rw [evidenceIs]
    exact facts.preBookDigest
  · rw [evidenceIs]
    exact facts.timed
  · rw [evidenceIs]
    cases cause <;> exact facts.quantity
  · rw [evidenceIs]
    cases cause <;> exact facts.price
  · rw [evidenceIs]
    rfl
  · rw [evidenceIs]
    rfl
  · rw [evidenceIs]
    rfl
  · rw [isSealed.ackIs, isSealed.truthIs, evidenceIs]
    exact sealRecovered_of_sealed isSealed rfl rfl

theorem recover_later {candidate : Option Stage8bP1d3CanonicalM10Evidence}
    {step : Option Stage8bP1d3ScheduleStepAuthority} {expiry : Option Stage8bP1d3DayExpiryAuthority}
    (readable : DecimalRoundTrip codec.toOutcomeEvidenceCodec)
    (built : buildLaterLimitTransition codec preBook input candidate step expiry = .ok (.outcome plan)) :
    recoverStage8bP1d3OutcomeTransitionInner codec preBook (authenticatedOf plan) (expiry.any (·.hasV4Proof)) =
      .ok plan := by
  obtain ⟨record, valid, _, found, later⟩ := buildLaterLimitTransition_ok built
  obtain ⟨member, isActive⟩ := (registry_of_validate valid).activeRecord found
  cases later with
  | untouched evaluation =>
      obtain ⟨_, _, _, _, _, isUntouched, _⟩ := buildUntouchedEvaluation_ok evaluation
      cases isUntouched
  | outcome expires outcome =>
      rw [← expires]
      exact recover_autonomous readable valid member isActive outcome

end Later

section Cancel

variable {input : Stage8bP1d3CancelInput} {record : Stage8bP1d3OrderRecordV1}
variable {candidate : Stage8bP1d3CanonicalM10Evidence} {step : Stage8bP1d3ScheduleStepAuthority}
variable {sequenceFrontier : UInt64} {predecessors : CancelPredecessors} {plan : Stage8bP1d3TransitionPlan}
variable {evidence : Stage8bP1d3OutcomeEvidenceV1}

/-- Well-formed evidence of a cancel names a request that is not the target's own. -/
theorem exactCancelRequestIdentity_ok {requestId : StrategyRequestId}
    (valid : evidence.validate codec.toOutcomeEvidenceCodec = .ok ())
    (isCancel : evidence.outcomeKind.isCancelScoped = true) (requested : evidence.requestId = some requestId)
    (client : evidence.durableRequestClientId = some (ClientOrderId.fromStrategyRequest requestId)) :
    exactCancelRequestIdentity evidence = .ok requestId := by
  unfold Stage8bP1d3OutcomeEvidenceV1.validate at valid
  obtain ⟨_, valid⟩ := check_bind_ok_iff.1 valid
  obtain ⟨inScope, _⟩ := check_bind_ok_iff.1 valid
  unfold Stage8bP1d3OutcomeEvidenceV1.validateScope at inScope
  obtain ⟨_, inScope⟩ := check_bind_ok_iff.1 inScope
  obtain ⟨_, inScope⟩ := check_bind_ok_iff.1 inScope
  obtain ⟨differs, _⟩ := check_bind_ok_iff.1 inScope
  simp only [rejectIf_ok_iff, isCancel, true_and] at differs
  have accepted : ¬ (evidence.durableRequestClientId ≠ some (ClientOrderId.fromStrategyRequest requestId) ∨
      evidence.durableRequestClientId = evidence.targetPlaceClientId) :=
    not_or.2 ⟨not_not.2 client, differs⟩
  unfold exactCancelRequestIdentity
  rw [orReject_bind_of_some requested, rejectIf_of_not _ accepted, ok_bind]

def cancelInputs (input : Stage8bP1d3CancelInput) (timestamp : DateTimeUtc) (qty limit : Decimal) :
    RecoveredInputs :=
  { timestamp := timestamp
    qty := qty
    limit := limit
    fill := none
    prePositionQty := input.prePositionQty
    prePositionAvg := input.prePositionAvgPrice }

section Canceled

variable {timestamp : DateTimeUtc} {sequences : UInt64 × UInt64} {qty limit : Decimal}
variable {finalized : HexText × HexText} {inserted : Stage8bP1d3WorkingBookProjectionV1} {preBookSha256 : HexText}

theorem recoverCanceled_ok (inScope : CancelScope preBook input)
    (found : preBook.record record.brokerOrderId = some record) (valid : record.validate codec preBook = .ok ())
    (facts : CanceledBuilt codec preBook input record candidate step sequenceFrontier predecessors timestamp
      sequences qty limit finalized inserted preBookSha256 plan) :
    recoverCanceled codec preBook plan.evidence (cancelInputs input timestamp qty limit) = .ok {
      postBook := inserted
      ack := plan.ack
      truth := plan.truth
      changedBook := true
      phase := .terminal } := by
  have isSealed := facts.isSealed
  have evidenceIs := isSealed.evidenceIs
  obtain ⟨account, instrument, _⟩ := record_scope valid
  have wellFormed := (validate_of_encodeCanonical isSealed.encodes).1
  have ordinal : ¬ plan.evidence.transitionOrdinal ≠ preBook.transitionOrdinal + 1 := by
    rw [evidenceIs]
    exact not_not.2 rfl
  have requested : exactCancelRequestIdentity plan.evidence = .ok input.requestId := by
    rw [evidenceIs]
    exact exactCancelRequestIdentity_ok wellFormed rfl rfl (congrArg some inScope.client)
  have bound : exactBoundRecord preBook plan.evidence true = .ok record := by
    rw [evidenceIs]
    exact exactBoundRecord_ok found (fun _ => facts.active) (account.trans inScope.account.symm)
      (instrument.trans inScope.instrument.symm) rfl rfl rfl rfl (fun isPlace => nomatch isPlace)
  have reserved : plan.evidence.reservedSeqTruth = some sequences.2 := by
    rw [evidenceIs]
    rfl
  have answered : exactCancelAck plan.evidence input.requestId false timestamp = .ok (cancelAck input
      (canceledEffect codec preBook record candidate step sequences qty limit timestamp) timestamp) := by
    rw [evidenceIs]
    rfl
  have inserts : preBook.insertOrReplace (recoveredCanceledRecord codec record plan.evidence
      (canceledOrder record qty limit timestamp) sequences.2) = .ok inserted := by
    rw [evidenceIs]
    exact facts.inserts
  unfold recoverCanceled
  rw [rejectIf_of_not _ ordinal, ok_bind, requested, ok_bind, bound, ok_bind, orReject_bind_of_some reserved]
  simp only [cancelInputs]
  rw [answered, ok_bind]
  unfold canceledOrder at inserts
  rw [inserts, ok_bind, isSealed.ackIs, isSealed.truthIs]
  rfl

theorem recover_canceled (readable : DecimalRoundTrip codec.toOutcomeEvidenceCodec)
    (valid : preBook.validate codec = .ok ()) (inScope : CancelScope preBook input) (member : record ∈ preBook.records)
    (facts : CanceledBuilt codec preBook input record candidate step sequenceFrontier predecessors timestamp
      sequences qty limit finalized inserted preBookSha256 plan) :
    recoverStage8bP1d3OutcomeTransitionInner codec preBook (authenticatedOf plan) false = .ok plan := by
  have registry := registry_of_validate valid
  have isSealed := facts.isSealed
  have evidenceIs := isSealed.evidenceIs
  have kind : plan.evidence.outcomeKind = .cancelCanceled := by
    rw [evidenceIs]
    rfl
  have expects : expectedAttribution preBook plan.evidence.outcomeKind = .ok input.attribution := by
    rw [kind]
    exact inScope.attribution
  have effects : recoverEffect codec preBook plan.evidence (cancelInputs input timestamp qty limit) false =
      recoverCanceled codec preBook plan.evidence (cancelInputs input timestamp qty limit) := by
    unfold recoverEffect
    rw [kind]
  refine recover_of_steps valid (checkScope_ok expects ?_ ?_ ?_ ?_ ?_ ?_ ?_)
    (recoverInputs_ok readable ?_ ?_ ?_ ?_ ?_ ?_)
    (effects.trans (recoverCanceled_ok inScope (registry.record_of_mem member) (registry.valid record member) facts)) ?_
  · rw [evidenceIs]
    exact inScope.identity
  · rw [evidenceIs]
    exact inScope.generation
  · rw [evidenceIs]
    rfl
  · rw [evidenceIs]
    exact inScope.account
  · rw [evidenceIs]
    exact inScope.instrument
  · rw [evidenceIs]
    rfl
  · rw [evidenceIs]
    exact facts.preBookDigest
  · rw [evidenceIs]
    exact facts.timed
  · rw [evidenceIs]
    exact facts.quantity
  · rw [evidenceIs]
    exact facts.price
  · rw [evidenceIs]
    rfl
  · rw [evidenceIs]
    rfl
  · rw [evidenceIs]
    rfl
  · rw [isSealed.ackIs, isSealed.truthIs, evidenceIs]
    exact sealRecovered_of_sealed isSealed rfl rfl

end Canceled

section Observed

variable {kind : Stage8bP1d3OutcomeKind} {timestamp : DateTimeUtc} {seqAck : UInt64}
variable {finalized : HexText × HexText} {preBookSha256 : HexText}

def EndedAs (kind : Stage8bP1d3OutcomeKind) (status : OrderStatus) : Prop :=
  (kind = .cancelExecutionObserved ∧ status = .filled) ∨
    (kind = .cancelAlreadyTerminalNonExecution ∧ (status = .canceled ∨ status = .expired ∨ status = .rejected))

theorem endedOutcomeKind_endedAs {status : OrderStatus} (ended : endedOutcomeKind status = .ok kind) :
    EndedAs kind status := by
  cases status <;> cases ended <;> simp [EndedAs]

theorem recoverObserved_ok {inputs : RecoveredInputs} (timed : inputs.timestamp = timestamp)
    (inScope : CancelScope preBook input) (found : preBook.record record.brokerOrderId = some record)
    (valid : record.validate codec preBook = .ok ()) (endedAs : EndedAs kind record.status)
    (facts : RecoveredBuilt codec preBook input record kind candidate step sequenceFrontier predecessors timestamp
      seqAck finalized preBookSha256 plan) :
    recoverObserved preBook plan.evidence inputs = .ok {
      postBook := preBook
      ack := plan.ack
      truth := plan.truth
      changedBook := false
      phase := .cancelRecovered } := by
  have evidenceIs := facts.evidenceIs
  obtain ⟨account, instrument, _⟩ := record_scope valid
  have wellFormed := (validate_of_encodeCanonical facts.encodes).1
  rw [evidenceIs] at wellFormed
  have ordinal : ¬ plan.evidence.transitionOrdinal ≠ preBook.transitionOrdinal := by
    rw [evidenceIs]
    exact not_not.2 rfl
  have isCancel : kind.isCancelScoped = true := by
    rcases endedAs with ⟨rfl, _⟩ | ⟨rfl, _⟩ <;> rfl
  have requested : exactCancelRequestIdentity plan.evidence = .ok input.requestId := by
    rw [evidenceIs]
    exact exactCancelRequestIdentity_ok wellFormed isCancel rfl (congrArg some inScope.client)
  have bound : exactBoundRecord preBook plan.evidence false = .ok record := by
    rw [evidenceIs]
    refine exactBoundRecord_ok found (fun active => nomatch active) (account.trans inScope.account.symm)
      (instrument.trans inScope.instrument.symm) rfl rfl rfl rfl ?_
    intro isPlace
    exact absurd (isCancel.symm.trans isPlace) (by decide)
  have consistent : ¬ ((plan.evidence.outcomeKind = .cancelExecutionObserved ↔ record.status ≠ .filled) ∨
      (plan.evidence.outcomeKind ≠ .cancelExecutionObserved ∧
        ¬ (record.status = .canceled ∨ record.status = .expired ∨ record.status = .rejected)) ∨
      plan.evidence.brokerTradeId ≠ record.brokerTradeId) := by
    rw [evidenceIs]
    rcases endedAs with ⟨rfl, filled⟩ | ⟨rfl, canceled | expired | rejected⟩
    · simp [cancelEvidence, recoveredEffect, filled]
    · simp [cancelEvidence, recoveredEffect, canceled]
    · simp [cancelEvidence, recoveredEffect, expired]
    · simp [cancelEvidence, recoveredEffect, rejected]
  have answered : exactCancelAck plan.evidence input.requestId true timestamp =
      .ok (cancelAck input (recoveredEffect record seqAck) timestamp) := by
    rw [evidenceIs]
    rfl
  unfold recoverObserved
  rw [rejectIf_of_not _ ordinal, ok_bind, requested, ok_bind, bound, ok_bind, rejectIf_of_not _ consistent, ok_bind,
    timed, answered, ok_bind, facts.ackIs, facts.truthIs]

theorem record_decimals (valid : record.validate codec preBook = .ok ()) :
    ∃ qty limit, record.qty codec = .ok qty ∧ record.limitPrice codec = .ok limit := by
  unfold Stage8bP1d3OrderRecordV1.validate at valid
  obtain ⟨qty, quantity, valid⟩ := bind_ok_iff.1 valid
  obtain ⟨limit, price, _⟩ := bind_ok_iff.1 valid
  exact ⟨qty, limit, quantity, price⟩

theorem recover_observed (readable : DecimalRoundTrip codec.toOutcomeEvidenceCodec)
    (valid : preBook.validate codec = .ok ()) (inScope : CancelScope preBook input) (member : record ∈ preBook.records)
    (endedAs : EndedAs kind record.status)
    (facts : RecoveredBuilt codec preBook input record kind candidate step sequenceFrontier predecessors timestamp
      seqAck finalized preBookSha256 plan) :
    recoverStage8bP1d3OutcomeTransitionInner codec preBook (authenticatedOf plan) false = .ok plan := by
  have registry := registry_of_validate valid
  have recordValid := registry.valid record member
  obtain ⟨qty, limit, quantity, price⟩ := record_decimals recordValid
  have evidenceIs := facts.evidenceIs
  have sameKind : plan.evidence.outcomeKind = kind := by
    rw [evidenceIs]
    rfl
  have expects : expectedAttribution preBook plan.evidence.outcomeKind = .ok input.attribution := by
    rw [sameKind]
    rcases endedAs with ⟨rfl, _⟩ | ⟨rfl, _⟩ <;> exact inScope.attribution
  have effects : recoverEffect codec preBook plan.evidence (cancelInputs input timestamp qty limit) false =
      recoverObserved preBook plan.evidence (cancelInputs input timestamp qty limit) := by
    unfold recoverEffect
    rcases endedAs with ⟨rfl, _⟩ | ⟨rfl, _⟩ <;> rw [sameKind]
  refine recover_of_steps valid (checkScope_ok expects ?_ ?_ ?_ ?_ ?_ ?_ ?_)
    (recoverInputs_ok readable ?_ ?_ ?_ ?_ ?_ ?_)
    (effects.trans (recoverObserved_ok rfl inScope (registry.record_of_mem member) recordValid endedAs facts)) ?_
  · rw [evidenceIs]
    exact inScope.identity
  · rw [evidenceIs]
    exact inScope.generation
  · rw [evidenceIs]
    rfl
  · rw [evidenceIs]
    exact inScope.account
  · rw [evidenceIs]
    exact inScope.instrument
  · rw [evidenceIs]
    rfl
  · rw [evidenceIs]
    exact facts.preBookDigest
  · rw [evidenceIs]
    exact facts.timed
  · rw [evidenceIs]
    exact quantity
  · rw [evidenceIs]
    exact price
  · rw [evidenceIs]
    rfl
  · rw [evidenceIs]
    rfl
  · rw [evidenceIs]
    rfl
  · have predicts : preBook.canonicalSha256 codec = .ok plan.evidence.expectedPostBookSha256 := by
      rw [evidenceIs]
      exact facts.preBookDigest
    simp only [sealRecovered, Bool.false_eq_true, if_false, predicts, ok_bind, ne_eq, not_true_eq_false,
      not_false_eq_true, rejectIf_of_not, facts.digests]
    rw [← facts.postBook]

end Observed

def proposed : Stage8bP1d3CancelTransitionPlan → Stage8bP1d3TransitionPlan
  | .ready plan => plan
  | .targetThenCancel target _ => target

theorem recover_cancel {result : Stage8bP1d3CancelTransitionPlan}
    (readable : DecimalRoundTrip codec.toOutcomeEvidenceCodec)
    (built : buildCancelTransition codec preBook input candidate step = .ok result) :
    recoverStage8bP1d3OutcomeTransitionInner codec preBook (authenticatedOf (proposed result)) false =
      .ok (proposed result) := by
  obtain ⟨record, valid, checked, found, _, plans⟩ := buildCancelTransition_ok built
  have inScope := validateCancelInput_scope checked
  have member := (mem_of_record found).1
  cases plans with
  | fillsFirst active outcome =>
      have recovered := recover_autonomous readable valid member active outcome
      exact recovered
  | cancels active outcome =>
      obtain ⟨_, _, _, _, _, _, _, facts⟩ := buildCancelOutcome_canceled outcome
      have recovered := recover_canceled readable valid inScope member facts
      exact recovered
  | recovers ended status outcome =>
      obtain ⟨_, _, _, _, facts⟩ := buildCancelOutcome_recovered (endedOutcomeKind_ok status) outcome
      have recovered := recover_observed readable valid inScope member (endedOutcomeKind_endedAs status) facts
      exact recovered

theorem recover_cancelAfterTarget {target : Stage8bP1d3OutcomeEvidenceV1}
    (readable : DecimalRoundTrip codec.toOutcomeEvidenceCodec)
    (built : buildCancelAfterTargetTransition codec preBook input target = .ok plan) :
    recoverStage8bP1d3OutcomeTransitionInner codec preBook (authenticatedOf plan) false = .ok plan := by
  obtain ⟨record, _, _, _, valid, checked, found, _, filled, outcome⟩ := buildCancelAfterTargetTransition_ok built
  obtain ⟨_, _, _, _, facts⟩ := buildCancelOutcome_recovered (.inl rfl) outcome
  exact recover_observed readable valid (validateCancelInput_scope checked) (mem_of_record found).1
    (.inl ⟨rfl, filled⟩) facts

end Cancel

end TradingGateway.Stage8b.WorkingLimitRecovery
