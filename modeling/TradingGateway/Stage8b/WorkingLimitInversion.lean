import TradingGateway.Stage8b.WorkingLimitBookProperties
import TradingGateway.Stage8b.WorkingLimitBuilders

/-! What an accepted plan of each builder was computed from. -/

set_option autoImplicit false

namespace TradingGateway.Stage8b.WorkingLimitBuilders

open BrokerCore.FixedPoint BrokerCore.Identifiers BrokerCore.OperationalSnapshot
open BrokerCore.Orders Stage6.JournalRecord
open WorkingLimitBook WorkingLimitBook.Stage8bP1d3WorkingBookProjectionV1 WorkingLimitEvidence WorkingLimitInputs
open WorkingLimitProjections
open Foundation.ExceptRun

variable {codec : WorkingLimitCodec} {preBook : Stage8bP1d3WorkingBookProjectionV1}

theorem validateScopedBar_redisId {bar : Stage8bP1d3CanonicalM10Evidence}
    (checked : validateScopedBar preBook bar = .ok ()) : bar.redisId = toString bar.closeTsUtcMs ++ "-0" := by
  unfold validateScopedBar at checked
  obtain ⟨valid, _⟩ := check_bind_ok_iff.1 checked
  unfold validateBar at valid
  obtain ⟨_, valid⟩ := check_bind_ok_iff.1 valid
  simp only [rejectIf_ok_iff, not_or, not_not] at valid
  exact valid.1

structure Sealed (codec : WorkingLimitCodec) (inserted : Stage8bP1d3WorkingBookProjectionV1)
    (evidence : Stage8bP1d3OutcomeEvidenceV1) (phase : Stage8bP1d3BookPhase) (frontier : UInt64)
    (ack : Option CommandAck) (truth : Option BrokerTruthSnapshot) (plan : Stage8bP1d3TransitionPlan) :
    Prop where
  evidenceIs : plan.evidence = evidence
  encodes : evidence.encodeCanonical codec.toOutcomeEvidenceCodec = .ok plan.evidenceBytes
  digests : evidence.digestSha256 codec.toOutcomeEvidenceCodec = .ok plan.evidenceSha256
  advances : { inserted with latestOutcomeEvidenceSha256 := plan.evidenceSha256 }.advance codec
    plan.evidenceBytes phase frontier = .ok plan.postBook
  ackIs : plan.ack = ack
  truthIs : plan.truth = truth

theorem sealOutcome_ok {inserted : Stage8bP1d3WorkingBookProjectionV1} {evidence : Stage8bP1d3OutcomeEvidenceV1}
    {phase : Stage8bP1d3BookPhase} {frontier : UInt64} {ack : Option CommandAck}
    {truth : Option BrokerTruthSnapshot} {plan : Stage8bP1d3TransitionPlan}
    (built : sealOutcome codec inserted evidence phase frontier ack truth = .ok plan) :
    Sealed codec inserted evidence phase frontier ack truth plan := by
  unfold sealOutcome at built
  obtain ⟨evidenceBytes, encoded, built⟩ := bind_ok_iff.1 built
  obtain ⟨evidenceSha256, digest, built⟩ := bind_ok_iff.1 built
  obtain ⟨postBook, advanced, built⟩ := bind_ok_iff.1 built
  cases built
  exact ⟨rfl, encoded, digest, advanced, rfl, rfl⟩

theorem validate_of_encodeCanonical {evidenceCodec : OutcomeEvidenceCodec} {evidence : Stage8bP1d3OutcomeEvidenceV1}
    {bytes : List UInt8} (encoded : evidence.encodeCanonical evidenceCodec = .ok bytes) :
    evidence.validate evidenceCodec = .ok () ∧ bytes = evidenceCodec.evidenceToVec evidence := by
  unfold Stage8bP1d3OutcomeEvidenceV1.encodeCanonical at encoded
  obtain ⟨valid, encoded⟩ := check_bind_ok_iff.1 encoded
  cases encoded
  exact ⟨valid, rfl⟩

def initialOrder (codec : WorkingLimitCodec) (input : Stage8bP1d3InitialLimitInput)
    (observed : InitialObservation) (transitionTime : DateTimeUtc) : BrokerOrderSnapshot :=
  exactOrderSnapshot input.accountId (deriveOrderId codec input.operationalIdentitySha256 input.requestId
      input.canonicalCommandSha256) input.durableClientOrderId input.instrument input.side input.qty
    input.limitPrice observed.status observed.lifecycle observed.filled observed.remaining transitionTime

def initialTradeId (codec : WorkingLimitCodec) (input : Stage8bP1d3InitialLimitInput)
    (candidate : Option Stage8bP1d3CanonicalM10Evidence) (observed : InitialObservation) : Option BrokerTradeId :=
  (zip observed.fill candidate).map fun (_, bar) =>
    deriveTradeId codec (deriveOrderId codec input.operationalIdentitySha256 input.requestId
      input.canonicalCommandSha256) bar.semanticIdSha256

/-- What `buildInitialLimitTransition` computes on the way to its plan. -/
structure InitialBuilt (codec : WorkingLimitCodec) (preBook : Stage8bP1d3WorkingBookProjectionV1)
    (input : Stage8bP1d3InitialLimitInput) (candidate : Option Stage8bP1d3CanonicalM10Evidence)
    (observed : InitialObservation) (transitionTime : DateTimeUtc) (sequences : UInt64 × UInt64)
    (truth : BrokerTruthSnapshot) (tradingDayIdentity : String) (finalized : HexText × HexText)
    (inserted : Stage8bP1d3WorkingBookProjectionV1) (preBookSha256 : HexText)
    (plan : Stage8bP1d3TransitionPlan) : Prop where
  valid : preBook.validate codec = .ok ()
  checked : validateInitialInput preBook input = .ok ()
  noActive : preBook.activeRecord = none
  timed : exactTimestamp codec observed.transitionTs = .ok transitionTime
  allocated : allocatePair input.sequenceAllocationFrontier = .ok sequences
  projects : exactTruth codec input (initialOrder codec input observed transitionTime)
    (initialTradeId codec input candidate observed) observed.fill transitionTime = .ok truth
  dated : initialTradingDay codec candidate observed = .ok tradingDayIdentity
  inserts : preBook.insertOrReplace (initialRecord codec preBook input candidate observed
    (deriveOrderId codec input.operationalIdentitySha256 input.requestId input.canonicalCommandSha256)
    (initialTradeId codec input candidate observed) (initialOrder codec input observed transitionTime)
    tradingDayIdentity sequences.2) = .ok inserted
  preBookDigest : preBook.canonicalSha256 codec = .ok preBookSha256
  isSealed : Sealed codec inserted (initialEvidence codec preBook input candidate observed
      (deriveOrderId codec input.operationalIdentitySha256 input.requestId input.canonicalCommandSha256)
      (initialTradeId codec input candidate observed) sequences preBookSha256
      (postBookStateSha256 codec inserted) finalized)
    (if observed.lifecycle = .active then .working else .terminal) sequences.2
    (some {
      requestId := input.requestId
      clientOrderId := some input.durableClientOrderId
      brokerOrderId := some (deriveOrderId codec input.operationalIdentitySha256 input.requestId
        input.canonicalCommandSha256)
      status := .accepted
      reason := none
      receivedTs := transitionTime })
    (some truth) plan

theorem buildInitialLimitTransition_ok {input : Stage8bP1d3InitialLimitInput}
    {candidate : Option Stage8bP1d3CanonicalM10Evidence} {step : Option Stage8bP1d3ScheduleStepAuthority}
    {expiry : Option Stage8bP1d3DayExpiryAuthority} {plan : Stage8bP1d3TransitionPlan}
    (built : buildInitialLimitTransition codec preBook input candidate step expiry = .ok plan) :
    ∃ observed transitionTime sequences truth tradingDayIdentity finalized inserted preBookSha256,
      observeInitial codec preBook input candidate step expiry = .ok observed ∧
      InitialBuilt codec preBook input candidate observed transitionTime sequences truth tradingDayIdentity
        finalized inserted preBookSha256 plan := by
  unfold buildInitialLimitTransition at built
  obtain ⟨valid, built⟩ := check_bind_ok_iff.1 built
  obtain ⟨checked, built⟩ := check_bind_ok_iff.1 built
  obtain ⟨room, built⟩ := check_bind_ok_iff.1 built
  obtain ⟨observed, observes, built⟩ := bind_ok_iff.1 built
  obtain ⟨transitionTime, timed, built⟩ := bind_ok_iff.1 built
  obtain ⟨sequences, allocated, built⟩ := bind_ok_iff.1 built
  obtain ⟨truth, truthful, built⟩ := bind_ok_iff.1 built
  obtain ⟨tradingDayIdentity, day, built⟩ := bind_ok_iff.1 built
  obtain ⟨finalized, _, built⟩ := bind_ok_iff.1 built
  obtain ⟨inserted, insertion, built⟩ := bind_ok_iff.1 built
  obtain ⟨preBookSha256, digest, built⟩ := bind_ok_iff.1 built
  simp only [rejectIf_ok_iff, not_or] at room
  exact ⟨observed, transitionTime, sequences, truth, tradingDayIdentity, finalized, inserted, preBookSha256,
    observes, {
      valid := valid
      checked := checked
      noActive := by simpa using room.1
      timed := timed
      allocated := allocated
      projects := truthful
      dated := day
      inserts := insertion
      preBookDigest := digest
      isSealed := sealOutcome_ok built }⟩

def autonomousTradeId (codec : WorkingLimitCodec) (record : Stage8bP1d3OrderRecordV1) (cause : AutonomousCause) :
    Option BrokerTradeId :=
  (zip cause.fillPrice cause.candidate).map fun (_, bar) =>
    deriveTradeId codec record.brokerOrderId bar.semanticIdSha256

def autonomousOrder (record : Stage8bP1d3OrderRecordV1) (ended : AutonomousEnd) (qty limit : Decimal)
    (receiptTimestamp : DateTimeUtc) : BrokerOrderSnapshot :=
  exactOrderSnapshot record.accountId record.brokerOrderId record.originalDurablePlaceClientId
    record.instrument record.side qty limit ended.status .terminal ended.filled ended.remaining receiptTimestamp

/-- What `buildAutonomousOutcome` computes on the way to its plan. -/
structure AutonomousBuilt (codec : WorkingLimitCodec) (preBook : Stage8bP1d3WorkingBookProjectionV1)
    (input : Stage8bP1d3AutonomousInput) (record : Stage8bP1d3OrderRecordV1) (cause : AutonomousCause)
    (ended : AutonomousEnd) (seqTruth : UInt64) (timestamp receiptTimestamp : DateTimeUtc)
    (qty limit : Decimal) (truth : BrokerTruthSnapshot) (inserted : Stage8bP1d3WorkingBookProjectionV1)
    (preBookSha256 : HexText) (plan : Stage8bP1d3TransitionPlan) : Prop where
  ends : autonomousEnd codec record cause = .ok ended
  allocated : checkedAdd input.sequenceAllocationFrontier 1 = some seqTruth
  timed : exactTimestamp codec ended.transitionTs = .ok timestamp
  received : orderedAutonomousReceiptTimestamp codec timestamp ended.kind (cause.expiry.any (·.hasV4Proof)) =
    .ok receiptTimestamp
  quantity : record.qty codec = .ok qty
  price : record.limitPrice codec = .ok limit
  projects : exactTruthFromRecord codec record (autonomousOrder record ended qty limit receiptTimestamp)
    (autonomousTradeId codec record cause) cause.fillPrice input.prePositionQty input.prePositionAvgPrice
    receiptTimestamp = .ok truth
  inserts : preBook.insertOrReplace (autonomousRecord codec preBook record cause.candidate ended
    (autonomousTradeId codec record cause) (autonomousOrder record ended qty limit receiptTimestamp)
    seqTruth) = .ok inserted
  preBookDigest : preBook.canonicalSha256 codec = .ok preBookSha256
  isSealed : Sealed codec inserted (autonomousEvidence codec preBook input (autonomousRecord codec preBook record
      cause.candidate ended (autonomousTradeId codec record cause)
      (autonomousOrder record ended qty limit receiptTimestamp) seqTruth) cause ended seqTruth preBookSha256
      (postBookStateSha256 codec inserted))
    .terminal seqTruth none (some truth) plan

theorem buildAutonomousOutcome_ok {input : Stage8bP1d3AutonomousInput} {record : Stage8bP1d3OrderRecordV1}
    {cause : AutonomousCause} {plan : Stage8bP1d3TransitionPlan}
    (built : buildAutonomousOutcome codec preBook input record cause = .ok plan) :
    ∃ ended seqTruth timestamp receiptTimestamp qty limit truth inserted preBookSha256,
      AutonomousBuilt codec preBook input record cause ended seqTruth timestamp receiptTimestamp qty limit truth
        inserted preBookSha256 plan := by
  unfold buildAutonomousOutcome at built
  obtain ⟨ended, ends, built⟩ := bind_ok_iff.1 built
  obtain ⟨seqTruth, allocated, built⟩ := bind_ok_iff.1 built
  obtain ⟨timestamp, timed, built⟩ := bind_ok_iff.1 built
  obtain ⟨receiptTimestamp, received, built⟩ := bind_ok_iff.1 built
  obtain ⟨qty, quantity, built⟩ := bind_ok_iff.1 built
  obtain ⟨limit, price, built⟩ := bind_ok_iff.1 built
  obtain ⟨truth, truthful, built⟩ := bind_ok_iff.1 built
  obtain ⟨inserted, insertion, built⟩ := bind_ok_iff.1 built
  obtain ⟨preBookSha256, digest, built⟩ := bind_ok_iff.1 built
  exact ⟨ended, seqTruth, timestamp, receiptTimestamp, qty, limit, truth, inserted, preBookSha256, {
    ends := ends
    allocated := (orReject_ok_iff ..).1 allocated
    timed := timed
    received := received
    quantity := quantity
    price := price
    projects := truthful
    inserts := insertion
    preBookDigest := digest
    isSealed := sealOutcome_ok built }⟩

/-- An order that ended is not the active one any more. -/
theorem outcome_inactive {input : Stage8bP1d3AutonomousInput} {record next : Stage8bP1d3OrderRecordV1}
    {cause : AutonomousCause} {outcome : Stage8bP1d3TransitionPlan} (facts : RegistryFacts codec preBook)
    (member : record ∈ preBook.records) (isActive : record.lifecycle = .active)
    (built : buildAutonomousOutcome codec preBook input record cause = .ok outcome) :
    outcome.postBook.activeRecord ≠ some next := by
  intro active
  obtain ⟨ended, seqTruth, _, _, _, _, _, _, _, made⟩ := buildAutonomousOutcome_ok built
  have written := written_of_advance made.inserts made.isSealed.advances
  have same : ∀ candidate : Option Stage8bP1d3CanonicalM10Evidence,
      (evaluatedRecord record candidate).brokerOrderId = record.brokerOrderId := by
    intro candidate
    cases candidate <;> rfl
  obtain ⟨_, terminal⟩ := written.active_eq facts member isActive (same _) active
  cases terminal

theorem buildUntouchedEvaluation_ok {record : Stage8bP1d3OrderRecordV1}
    {candidate : Stage8bP1d3CanonicalM10Evidence} {step : Stage8bP1d3ScheduleStepAuthority}
    {sequenceFrontier : UInt64} {previous : HexText} {result : Stage8bP1d3LaterEvaluationPlan}
    (built : buildUntouchedEvaluation codec preBook record candidate step sequenceFrontier previous = .ok result) :
    ∃ ordinal inserted evidence evidenceBytes postBook, result = .untouched evidence evidenceBytes postBook ∧
      preBook.insertOrReplace (untouchedRecord record candidate step ordinal) = .ok inserted ∧
      inserted.advance codec evidenceBytes .eval sequenceFrontier = .ok postBook := by
  unfold buildUntouchedEvaluation at built
  obtain ⟨ordinal, _, built⟩ := bind_ok_iff.1 built
  obtain ⟨inserted, insertion, built⟩ := bind_ok_iff.1 built
  obtain ⟨preBookSha256, _, built⟩ := bind_ok_iff.1 built
  obtain ⟨evidenceBytes, _, built⟩ := bind_ok_iff.1 built
  obtain ⟨postBook, advanced, built⟩ := bind_ok_iff.1 built
  cases built
  exact ⟨ordinal, inserted, _, evidenceBytes, postBook, rfl, insertion, advanced⟩

inductive LaterBuilt (codec : WorkingLimitCodec) (preBook : Stage8bP1d3WorkingBookProjectionV1)
    (input : Stage8bP1d3AutonomousInput) (record : Stage8bP1d3OrderRecordV1)
    (expiry : Option Stage8bP1d3DayExpiryAuthority) : Stage8bP1d3LaterEvaluationPlan → Prop where
  | alreadyEvaluated : LaterBuilt codec preBook input record expiry (.alreadyEvaluated preBook)
  | untouched {candidate : Stage8bP1d3CanonicalM10Evidence} {step : Stage8bP1d3ScheduleStepAuthority}
      {result : Stage8bP1d3LaterEvaluationPlan}
      (built : buildUntouchedEvaluation codec preBook record candidate step input.sequenceAllocationFrontier
        input.previousOutcomeEvidenceSha256 = .ok result) : LaterBuilt codec preBook input record expiry result
  | outcome {cause : AutonomousCause} {plan : Stage8bP1d3TransitionPlan} (expires : cause.expiry = expiry)
      (built : buildAutonomousOutcome codec preBook input record cause = .ok plan) :
      LaterBuilt codec preBook input record expiry (.outcome plan)

theorem evaluateCandidate_ok {input : Stage8bP1d3AutonomousInput} {record : Stage8bP1d3OrderRecordV1}
    {candidate : Stage8bP1d3CanonicalM10Evidence} {step : Stage8bP1d3ScheduleStepAuthority}
    {result : Stage8bP1d3LaterEvaluationPlan}
    (built : evaluateCandidate codec preBook input record candidate step = .ok result) :
    LaterBuilt codec preBook input record none result := by
  unfold evaluateCandidate at built
  obtain ⟨predecessor, _, built⟩ := bind_ok_iff.1 built
  obtain ⟨_, built⟩ := check_bind_ok_iff.1 built
  obtain ⟨limit, _, built⟩ := bind_ok_iff.1 built
  obtain ⟨⟨decision, fill⟩, _, built⟩ := bind_ok_iff.1 built
  cases decision with
  | working => exact .untouched built
  | filled =>
      obtain ⟨plan, outcome, rfl⟩ := (map_ok_iff ..).1 built
      exact .outcome rfl outcome

theorem buildLaterLimitTransition_ok {input : Stage8bP1d3AutonomousInput}
    {candidate : Option Stage8bP1d3CanonicalM10Evidence} {step : Option Stage8bP1d3ScheduleStepAuthority}
    {expiry : Option Stage8bP1d3DayExpiryAuthority} {result : Stage8bP1d3LaterEvaluationPlan}
    (built : buildLaterLimitTransition codec preBook input candidate step expiry = .ok result) :
    ∃ record, preBook.validate codec = .ok () ∧ validateAutonomousInput preBook input = .ok () ∧
      preBook.activeRecord = some record ∧ LaterBuilt codec preBook input record expiry result := by
  unfold buildLaterLimitTransition at built
  obtain ⟨valid, built⟩ := check_bind_ok_iff.1 built
  obtain ⟨checked, built⟩ := check_bind_ok_iff.1 built
  obtain ⟨record, active, built⟩ := bind_ok_iff.1 built
  refine ⟨record, valid, checked, (orReject_ok_iff ..).1 active, ?_⟩
  split at built
  · obtain ⟨_, built⟩ := check_bind_ok_iff.1 built
    split at built
    · unfold alreadyEvaluated at built
      obtain ⟨_, built⟩ := check_bind_ok_iff.1 built
      cases built
      exact .alreadyEvaluated
    · exact evaluateCandidate_ok built
  · obtain ⟨_, built⟩ := check_bind_ok_iff.1 built
    obtain ⟨plan, outcome, rfl⟩ := (map_ok_iff ..).1 built
    exact .outcome rfl outcome
  · cases built

def canceledOrder (record : Stage8bP1d3OrderRecordV1) (qty limit : Decimal) (timestamp : DateTimeUtc) :
    BrokerOrderSnapshot :=
  exactOrderSnapshot record.accountId record.brokerOrderId record.originalDurablePlaceClientId
    record.instrument record.side qty limit .canceled .terminal Decimal.zero qty timestamp

def canceledEffect (codec : WorkingLimitCodec) (preBook : Stage8bP1d3WorkingBookProjectionV1)
    (record : Stage8bP1d3OrderRecordV1) (candidate : Stage8bP1d3CanonicalM10Evidence)
    (step : Stage8bP1d3ScheduleStepAuthority) (sequences : UInt64 × UInt64) (qty limit : Decimal)
    (timestamp : DateTimeUtc) : CancelEffect :=
  { ackStatus := .accepted
    ackReason := none
    seqAck := sequences.1
    seqTruth := some sequences.2
    truth := some (canceledTruth record.accountId (canceledOrder record qty limit timestamp) timestamp)
    record := canceledRecord codec preBook record candidate step (canceledOrder record qty limit timestamp)
      sequences.2
    changedBook := true }

def recoveredEffect (record : Stage8bP1d3OrderRecordV1) (seqAck : UInt64) : CancelEffect :=
  { ackStatus := .recovered
    ackReason := some { code := .recoveredByBrokerTruth }
    seqAck := seqAck
    seqTruth := none
    truth := none
    record := record
    changedBook := false }

structure CanceledBuilt (codec : WorkingLimitCodec) (preBook : Stage8bP1d3WorkingBookProjectionV1)
    (input : Stage8bP1d3CancelInput) (record : Stage8bP1d3OrderRecordV1)
    (candidate : Stage8bP1d3CanonicalM10Evidence) (step : Stage8bP1d3ScheduleStepAuthority)
    (sequenceFrontier : UInt64) (predecessors : CancelPredecessors) (timestamp : DateTimeUtc)
    (sequences : UInt64 × UInt64) (qty limit : Decimal) (finalized : HexText × HexText)
    (inserted : Stage8bP1d3WorkingBookProjectionV1) (preBookSha256 : HexText)
    (plan : Stage8bP1d3TransitionPlan) : Prop where
  active : record.lifecycle = .active
  working : record.status = .working
  timed : exactTimestamp codec candidate.closeTsUtcMs = .ok timestamp
  allocated : allocatePair sequenceFrontier = .ok sequences
  quantity : record.qty codec = .ok qty
  price : record.limitPrice codec = .ok limit
  inserts : preBook.insertOrReplace
    (canceledEffect codec preBook record candidate step sequences qty limit timestamp).record = .ok inserted
  preBookDigest : preBook.canonicalSha256 codec = .ok preBookSha256
  isSealed : Sealed codec inserted (cancelEvidence codec preBook input .cancelCanceled
      (canceledEffect codec preBook record candidate step sequences qty limit timestamp) candidate step
      sequenceFrontier (preBook.transitionOrdinal + 1) predecessors preBookSha256
      (postBookStateSha256 codec inserted) finalized)
    .terminal sequences.2
    (some (cancelAck input (canceledEffect codec preBook record candidate step sequences qty limit timestamp)
      timestamp))
    (some (canceledTruth record.accountId (canceledOrder record qty limit timestamp) timestamp)) plan

/-- A cancel that found its target ended, with what it was computed from. -/
structure RecoveredBuilt (codec : WorkingLimitCodec) (preBook : Stage8bP1d3WorkingBookProjectionV1)
    (input : Stage8bP1d3CancelInput) (record : Stage8bP1d3OrderRecordV1) (kind : Stage8bP1d3OutcomeKind)
    (candidate : Stage8bP1d3CanonicalM10Evidence) (step : Stage8bP1d3ScheduleStepAuthority)
    (sequenceFrontier : UInt64) (predecessors : CancelPredecessors) (timestamp : DateTimeUtc)
    (seqAck : UInt64) (finalized : HexText × HexText) (preBookSha256 : HexText)
    (plan : Stage8bP1d3TransitionPlan) : Prop where
  observes : kind = .cancelExecutionObserved ∨ kind = .cancelAlreadyTerminalNonExecution
  ended : record.lifecycle = .terminal
  timed : exactTimestamp codec candidate.closeTsUtcMs = .ok timestamp
  allocated : checkedAdd sequenceFrontier 1 = some seqAck
  preBookDigest : preBook.canonicalSha256 codec = .ok preBookSha256
  evidenceIs : plan.evidence = cancelEvidence codec preBook input kind (recoveredEffect record seqAck) candidate
    step sequenceFrontier preBook.transitionOrdinal predecessors preBookSha256 preBookSha256 finalized
  encodes : plan.evidence.encodeCanonical codec.toOutcomeEvidenceCodec = .ok plan.evidenceBytes
  digests : plan.evidence.digestSha256 codec.toOutcomeEvidenceCodec = .ok plan.evidenceSha256
  postBook : plan.postBook = preBook
  ackIs : plan.ack = some (cancelAck input (recoveredEffect record seqAck) timestamp)
  truthIs : plan.truth = none

section CancelOutcome

variable {input : Stage8bP1d3CancelInput} {record : Stage8bP1d3OrderRecordV1}
variable {candidate : Stage8bP1d3CanonicalM10Evidence} {step : Stage8bP1d3ScheduleStepAuthority}
variable {sequenceFrontier outcomeSequence : UInt64} {predecessors : CancelPredecessors}
variable {plan : Stage8bP1d3TransitionPlan}

theorem buildCancelOutcome_canceled
    (built : buildCancelOutcome codec preBook input record .cancelCanceled candidate step sequenceFrontier
      predecessors outcomeSequence = .ok plan) :
    ∃ timestamp sequences qty limit finalized inserted preBookSha256,
      CanceledBuilt codec preBook input record candidate step sequenceFrontier predecessors timestamp sequences
        qty limit finalized inserted preBookSha256 plan := by
  unfold buildCancelOutcome at built
  obtain ⟨timestamp, timed, built⟩ := bind_ok_iff.1 built
  obtain ⟨effect, effects, built⟩ := bind_ok_iff.1 built
  obtain ⟨preBookSha256, digest, built⟩ := bind_ok_iff.1 built
  unfold cancelEffect cancelWorkingOrder at effects
  obtain ⟨isOpen, effects⟩ := check_bind_ok_iff.1 effects
  obtain ⟨sequences, allocated, effects⟩ := bind_ok_iff.1 effects
  obtain ⟨qty, quantity, effects⟩ := bind_ok_iff.1 effects
  obtain ⟨limit, price, effects⟩ := bind_ok_iff.1 effects
  cases effects
  rw [if_pos rfl] at built
  obtain ⟨inserted, insertion, built⟩ := bind_ok_iff.1 built
  obtain ⟨finalized, _, built⟩ := bind_ok_iff.1 built
  obtain ⟨seqTruth, reserved, built⟩ := bind_ok_iff.1 built
  rw [orReject_ok_iff] at reserved
  cases reserved
  simp only [rejectIf_ok_iff, not_or, not_not] at isOpen
  exact ⟨timestamp, sequences, qty, limit, finalized, inserted, preBookSha256, {
    active := isOpen.1
    working := isOpen.2
    timed := timed
    allocated := allocated
    quantity := quantity
    price := price
    inserts := insertion
    preBookDigest := digest
    isSealed := sealOutcome_ok built }⟩

theorem buildCancelOutcome_recovered {kind : Stage8bP1d3OutcomeKind}
    (observes : kind = .cancelExecutionObserved ∨ kind = .cancelAlreadyTerminalNonExecution)
    (built : buildCancelOutcome codec preBook input record kind candidate step sequenceFrontier
      predecessors outcomeSequence = .ok plan) :
    ∃ timestamp seqAck finalized preBookSha256,
      RecoveredBuilt codec preBook input record kind candidate step sequenceFrontier predecessors timestamp
        seqAck finalized preBookSha256 plan := by
  unfold buildCancelOutcome at built
  obtain ⟨timestamp, timed, built⟩ := bind_ok_iff.1 built
  obtain ⟨effect, effects, built⟩ := bind_ok_iff.1 built
  obtain ⟨preBookSha256, digest, built⟩ := bind_ok_iff.1 built
  have effects : observeEndedOrder record sequenceFrontier = .ok effect := by
    rcases observes with rfl | rfl <;> exact effects
  unfold observeEndedOrder at effects
  obtain ⟨ended, effects⟩ := check_bind_ok_iff.1 effects
  obtain ⟨seqAck, allocated, effects⟩ := bind_ok_iff.1 effects
  cases effects
  rw [if_neg Bool.false_ne_true] at built
  obtain ⟨finalized, _, built⟩ := bind_ok_iff.1 built
  unfold recoveredPlan at built
  obtain ⟨evidenceBytes, encoded, built⟩ := bind_ok_iff.1 built
  obtain ⟨evidenceSha256, hashed, built⟩ := bind_ok_iff.1 built
  cases built
  exact ⟨timestamp, seqAck, finalized, preBookSha256, {
    observes := observes
    ended := by simpa using ended
    timed := timed
    allocated := (orReject_ok_iff ..).1 allocated
    preBookDigest := digest
    evidenceIs := rfl
    encodes := encoded
    digests := hashed
    postBook := rfl
    ackIs := rfl
    truthIs := rfl }⟩

end CancelOutcome

section CancelPlans

variable {input : Stage8bP1d3CancelInput} {candidate : Stage8bP1d3CanonicalM10Evidence}
variable {step : Stage8bP1d3ScheduleStepAuthority}

def targetInput (input : Stage8bP1d3CancelInput) (targetCheckpoint : HexText) : Stage8bP1d3AutonomousInput :=
  { operationalIdentitySha256 := input.operationalIdentitySha256
    packageGeneration := input.packageGeneration
    accountId := input.accountId
    instrument := input.instrument
    attribution := input.attribution
    prePositionQty := input.prePositionQty
    prePositionAvgPrice := input.prePositionAvgPrice
    sequenceAllocationFrontier := input.sequenceAllocationFrontier
    stage6PredecessorFrontierSha256 := input.stage6PredecessorFrontierSha256
    stage6ReservedCheckpointSha256 := targetCheckpoint
    previousOutcomeEvidenceSha256 := input.previousOutcomeEvidenceSha256 }

/-- What a cancel plan is: a fill of the target that goes first, the cancel of a
working order, or the acknowledgement that the target had ended. -/
inductive CancelBuilt (codec : WorkingLimitCodec) (preBook : Stage8bP1d3WorkingBookProjectionV1)
    (input : Stage8bP1d3CancelInput) (record : Stage8bP1d3OrderRecordV1)
    (candidate : Stage8bP1d3CanonicalM10Evidence) (step : Stage8bP1d3ScheduleStepAuthority) :
    Stage8bP1d3CancelTransitionPlan → Prop where
  | fillsFirst {targetCheckpoint : HexText} {fill : Option Decimal} {target : Stage8bP1d3TransitionPlan}
      {continuation : Stage8bP1d3DeferredCancelAfterTarget} (active : record.lifecycle = .active)
      (built : buildAutonomousOutcome codec preBook (targetInput input targetCheckpoint) record
        (.filled candidate step fill) = .ok target) :
      CancelBuilt codec preBook input record candidate step (.targetThenCancel target continuation)
  | cancels {outcomeSequence : UInt64} {plan : Stage8bP1d3TransitionPlan} (active : record.lifecycle = .active)
      (built : buildCancelOutcome codec preBook input record .cancelCanceled candidate step
        input.sequenceAllocationFrontier (cancelPredecessors input) outcomeSequence = .ok plan) :
      CancelBuilt codec preBook input record candidate step (.ready plan)
  | recovers {kind : Stage8bP1d3OutcomeKind} {outcomeSequence : UInt64} {plan : Stage8bP1d3TransitionPlan}
      (ended : record.lifecycle ≠ .active) (status : endedOutcomeKind record.status = .ok kind)
      (built : buildCancelOutcome codec preBook input record kind candidate step
        input.sequenceAllocationFrontier (cancelPredecessors input) outcomeSequence = .ok plan) :
      CancelBuilt codec preBook input record candidate step (.ready plan)

theorem endedOutcomeKind_ok {status : OrderStatus} {kind : Stage8bP1d3OutcomeKind}
    (ended : endedOutcomeKind status = .ok kind) :
    kind = .cancelExecutionObserved ∨ kind = .cancelAlreadyTerminalNonExecution := by
  cases status <;> cases ended <;> simp

theorem cancelDirectly_ok {record : Stage8bP1d3OrderRecordV1} {kind : Stage8bP1d3OutcomeKind}
    {result : Stage8bP1d3CancelTransitionPlan}
    (built : cancelDirectly codec preBook input record kind candidate step = .ok result) :
    ∃ outcomeSequence plan, result = .ready plan ∧
      buildCancelOutcome codec preBook input record kind candidate step input.sequenceAllocationFrontier
        (cancelPredecessors input) outcomeSequence = .ok plan := by
  unfold cancelDirectly at built
  obtain ⟨_, built⟩ := check_bind_ok_iff.1 built
  obtain ⟨outcomeSequence, _, built⟩ := bind_ok_iff.1 built
  obtain ⟨plan, outcome, rfl⟩ := (map_ok_iff ..).1 built
  exact ⟨outcomeSequence, plan, rfl, outcome⟩

theorem cancelActive_ok {record : Stage8bP1d3OrderRecordV1} {result : Stage8bP1d3CancelTransitionPlan}
    (active : record.lifecycle = .active)
    (built : cancelActive codec preBook input record candidate step = .ok result) :
    CancelBuilt codec preBook input record candidate step result := by
  unfold cancelActive at built
  obtain ⟨limit, _, built⟩ := bind_ok_iff.1 built
  obtain ⟨⟨decision, fill⟩, _, built⟩ := bind_ok_iff.1 built
  cases decision with
  | working =>
      obtain ⟨outcomeSequence, plan, rfl, outcome⟩ := cancelDirectly_ok built
      exact .cancels active outcome
  | filled =>
      unfold fillThenCancel at built
      obtain ⟨targetCheckpoint, _, built⟩ := bind_ok_iff.1 built
      obtain ⟨target, outcome, built⟩ := bind_ok_iff.1 built
      cases built
      exact .fillsFirst active outcome

theorem buildCancelTransition_ok {result : Stage8bP1d3CancelTransitionPlan}
    (built : buildCancelTransition codec preBook input candidate step = .ok result) :
    ∃ record, preBook.validate codec = .ok () ∧ validateCancelInput preBook input = .ok () ∧
      preBook.record input.targetBrokerOrderId = some record ∧
      input.targetPlaceClientId.any (fun value => value ≠ record.originalDurablePlaceClientId) = false ∧
      CancelBuilt codec preBook input record candidate step result := by
  unfold buildCancelTransition at built
  obtain ⟨valid, built⟩ := check_bind_ok_iff.1 built
  obtain ⟨checked, built⟩ := check_bind_ok_iff.1 built
  obtain ⟨_, built⟩ := check_bind_ok_iff.1 built
  obtain ⟨_, built⟩ := check_bind_ok_iff.1 built
  obtain ⟨record, found, built⟩ := bind_ok_iff.1 built
  obtain ⟨sameClient, built⟩ := check_bind_ok_iff.1 built
  obtain ⟨_, built⟩ := check_bind_ok_iff.1 built
  refine ⟨record, valid, checked, (orReject_ok_iff ..).1 found, by simpa using sameClient, ?_⟩
  split at built
  · exact cancelActive_ok ‹_› built
  · obtain ⟨kind, status, built⟩ := bind_ok_iff.1 built
    obtain ⟨outcomeSequence, plan, rfl, outcome⟩ := cancelDirectly_ok built
    exact .recovers ‹_› status outcome

theorem buildCancelAfterTargetTransition_ok {target : Stage8bP1d3OutcomeEvidenceV1}
    {plan : Stage8bP1d3TransitionPlan}
    (built : buildCancelAfterTargetTransition codec preBook input target = .ok plan) :
    ∃ record candidate step outcomeSequence, preBook.validate codec = .ok () ∧
      validateCancelInput preBook input = .ok () ∧
      preBook.record input.targetBrokerOrderId = some record ∧ record.lifecycle = .terminal ∧
      record.status = .filled ∧
      buildCancelOutcome codec preBook input record .cancelExecutionObserved candidate step
        input.sequenceAllocationFrontier (cancelPredecessors input) outcomeSequence = .ok plan := by
  unfold buildCancelAfterTargetTransition at built
  obtain ⟨valid, built⟩ := check_bind_ok_iff.1 built
  obtain ⟨_, built⟩ := check_bind_ok_iff.1 built
  obtain ⟨_, built⟩ := check_bind_ok_iff.1 built
  obtain ⟨_, _, built⟩ := bind_ok_iff.1 built
  obtain ⟨_, built⟩ := check_bind_ok_iff.1 built
  obtain ⟨_, _, built⟩ := bind_ok_iff.1 built
  obtain ⟨_, _, built⟩ := bind_ok_iff.1 built
  obtain ⟨candidate, _, built⟩ := bind_ok_iff.1 built
  obtain ⟨checked, built⟩ := check_bind_ok_iff.1 built
  obtain ⟨record, found, built⟩ := bind_ok_iff.1 built
  obtain ⟨ended, built⟩ := check_bind_ok_iff.1 built
  obtain ⟨outcomeSequence, _, built⟩ := bind_ok_iff.1 built
  simp only [rejectIf_ok_iff, not_or, not_not] at ended
  exact ⟨record, candidate, _, outcomeSequence, valid, checked, (orReject_ok_iff ..).1 found, ended.1, ended.2,
    built⟩

def resumedInput (deferred : Stage8bP1d3DeferredCancelAfterTarget)
    (targetBook : Stage8bP1d3WorkingBookProjectionV1) (checkpoint : HexText) : Stage8bP1d3CancelInput :=
  { deferred.input with
    sequenceAllocationFrontier := targetBook.totalSequenceFrontier
    stage6PredecessorFrontierSha256 := checkpoint
    targetStage6ReservedCheckpointSha256 := none
    previousOutcomeEvidenceSha256 := deferred.targetOutcomeEvidenceSha256 }

theorem complete_ok {deferred : Stage8bP1d3DeferredCancelAfterTarget} {checkpoint : HexText}
    {plan : Stage8bP1d3TransitionPlan} (built : deferred.complete codec preBook checkpoint = .ok plan) :
    ∃ record outcomeSequence, preBook.validate codec = .ok () ∧
      preBook.record deferred.input.targetBrokerOrderId = some record ∧ record.lifecycle = .terminal ∧
      buildCancelOutcome codec preBook (resumedInput deferred preBook checkpoint) record .cancelExecutionObserved
        deferred.candidate deferred.step preBook.totalSequenceFrontier
        (cancelPredecessors (resumedInput deferred preBook checkpoint)) outcomeSequence = .ok plan := by
  unfold Stage8bP1d3DeferredCancelAfterTarget.complete at built
  obtain ⟨valid, built⟩ := check_bind_ok_iff.1 built
  obtain ⟨_, built⟩ := check_bind_ok_iff.1 built
  obtain ⟨record, found, built⟩ := bind_ok_iff.1 built
  obtain ⟨ended, built⟩ := check_bind_ok_iff.1 built
  obtain ⟨outcomeSequence, _, built⟩ := bind_ok_iff.1 built
  simp only [rejectIf_ok_iff, not_or, not_not] at ended
  exact ⟨record, outcomeSequence, valid, (orReject_ok_iff ..).1 found, ended.1, built⟩

end CancelPlans

end TradingGateway.Stage8b.WorkingLimitBuilders
