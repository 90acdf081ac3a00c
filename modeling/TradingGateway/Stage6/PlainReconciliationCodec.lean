import TradingGateway.Stage6.PlainCodec
import TradingGateway.Stage6.VersionedRecord

/-! The plain codec for transition records, and small transitions written in it. -/

set_option autoImplicit false

namespace TradingGateway.Stage6.PlainReconciliationCodec

open BrokerCore.FixedPoint BrokerCore.Identifiers BrokerCore.Orders
open DurableIdentity JournalRecord PlainCodec ReconciliationV2 VersionedRecord
open Foundation.Bytes

def plainDigest (digest : Stage6Sha256Digest) : List UInt8 :=
  plainDigits digest.value

def plainStatus (status : OrderStatus) : List UInt8 :=
  match status with
  | .unknown text => plainTag 7 ++ plainText text
  | known => plainTag known.ctorIdx

def plainOrderFact (order : Stage6BrokerOrderFactV2) : List UInt8 :=
  plainText order.accountId.value ++ plainOption (fun id => plainText id.value) order.brokerOrderId ++
    plainOption (fun id => plainText id.value) order.clientOrderId ++ plainInstrument order.instrument ++
    plainTag order.side.ctorIdx ++ plainTag order.orderType.ctorIdx ++
    plainOption (fun time => plainTag time.ctorIdx) order.timeInForce ++ plainStatus order.status ++
    plainTag order.lifecycle.ctorIdx ++ plainDecimal order.qty ++ plainDecimal order.filledQty ++
    plainOption plainDecimal order.remainingQty ++ plainOption plainDecimal order.limitPrice ++
    plainOption plainText order.brokerAssetId ++ plainOption plainText order.board ++
    plainOption (fun date => plainText (toString date.day)) order.expirationDate ++
    plainOption plainTime order.sourceTs ++ plainTime order.receivedTs

def plainTradeFact (trade : Stage6MaterialTradeFactV2) : List UInt8 :=
  plainText trade.accountId.value ++ plainText trade.brokerTradeId.value ++
    plainOption (fun id => plainText id.value) trade.brokerOrderId ++
    plainOption (fun id => plainText id.value) trade.clientOrderId ++ plainInstrument trade.instrument ++
    plainTag trade.side.ctorIdx ++ plainDecimal trade.qty ++ plainDecimal trade.price ++
    plainOption plainDecimal trade.grossAmount ++ plainOption plainDecimal trade.commission ++
    plainOption plainText trade.brokerAssetId ++ plainOption plainText trade.board ++
    plainOption (fun date => plainText (toString date.day)) trade.expirationDate ++
    plainTime trade.sourceTs ++ plainTime trade.receivedTs

def plainAttempt (attempt : AttemptedLookup) : List UInt8 :=
  plainText attempt.accountId.value ++ plainText attempt.queriedBrokerOrderId.value ++
    plainDigest attempt.durableRequestBindingSha256 ++ plainTime attempt.requestStartedAt ++
    plainTime attempt.responseReceivedAt

def plainLookup (evidence : Stage6ExactLookupEvidenceV2) : List UInt8 :=
  match evidence with
  | .notAttempted => plainTag 0
  | .succeeded attempt observation =>
      plainTag 1 ++ plainAttempt attempt ++ plainOrderFact observation.order ++
        plainDigest observation.observationBindingSha256
  | .documentedNotFound attempt category => plainTag 2 ++ plainAttempt attempt ++ plainText category
  | .unavailable attempt category => plainTag 3 ++ plainAttempt attempt ++ plainText category
  | .decodeFailure attempt category binding =>
      plainTag 4 ++ plainAttempt attempt ++ plainText category ++ plainDigest binding
  | .stale attempt binding => plainTag 5 ++ plainAttempt attempt ++ plainDigest binding

def plainKind (kind : Stage6ReconciliationTransitionKindV2) : List UInt8 :=
  match kind with
  | .exact lifecycle => plainTag 0 ++ plainTag lifecycle.ctorIdx
  | .reconciliationConflictHold => plainTag 1
  | .reconciliationStillUnknownHold => plainTag 2

def plainFill (effect : Stage6ReconciliationFillEffectV2) : List UInt8 :=
  match effect with
  | .zero => plainTag 0
  | .partialFill filledQty => plainTag 1 ++ plainDecimal filledQty
  | .full filledQty => plainTag 2 ++ plainDecimal filledQty

def plainSummary (summary : Stage6AccountSafetySummaryV2) : List UInt8 :=
  [summary.accountActiveOrdersCount, summary.accountUnknownOrdersCount, summary.accountOrphanOrdersCount,
    summary.accountOpenPositionsCount, summary.targetActiveOrdersCount, summary.targetUnknownOrdersCount,
    summary.targetTerminalOrdersCount, summary.targetInconsistentOrdersCount,
    summary.targetOpenPositionsCount, summary.otherSymbolActiveOrdersCount].flatMap
      (fun count => toBigEndian 4 count.toNat) ++ plainDigest summary.accountSafetyBindingSha256

def plainPrecondition (precondition : Stage6PreAppendPreconditionV2) : List UInt8 :=
  plainDigest precondition.expectedStage6CheckpointOrFrontierFingerprint ++
    toBigEndian 8 precondition.expectedRecoverySealGeneration.toNat ++
    plainDigest precondition.expectedRecoverySealFingerprint ++
    plainDigest precondition.expectedRequestStateFingerprint

def plainEntry (entry : Stage6SuffixManifestEntryV2) : List UInt8 :=
  toBigEndian 2 entry.ordinal.toNat ++ plainTag entry.eventKind.ctorIdx ++
    plainDigits entry.journalRecordId.value ++ toBigEndian 8 entry.lifecycleSequence.value.toNat ++
    plainDigest entry.canonicalPayloadSha256 ++ plainDigest entry.canonicalRecordSha256

def plainPayloadV2 (payload : Stage6ReconciliationTransitionPayloadV2) : List UInt8 :=
  plainDigest payload.stableTransitionKeySha256 ++ plainDigest payload.durableRequestBindingSha256 ++
    plainDigest payload.privateAuthoritativeOutcomeBindingSha256 ++ plainTag payload.endpointKind.ctorIdx ++
    plainKind payload.transitionKind ++ plainLookup payload.exactLookupEvidence ++
    plainOption plainOrderFact payload.brokerOrderFact ++
    toBigEndian 2 payload.materialTradeFacts.length ++ payload.materialTradeFacts.flatMap plainTradeFact ++
    plainFill payload.fillEffect ++ plainSummary payload.accountSafetySummary ++
    plainPrecondition payload.preAppendPrecondition ++
    payload.deterministicSuffixManifest.entries.flatMap plainEntry

def plainRecordV2 (record : Stage6JournalRecordWireV2) : List UInt8 :=
  toBigEndian 2 record.schemaVersion.toNat ++ plainDigits record.journalRecordId.value ++
    toBigEndian 8 record.lifecycleSequence.value.toNat ++
    plainOption (fun id => plainDigits id.value) record.previousRecordId ++
    plainOption (fun id => plainDigits id.value) record.causalParentId ++
    plainIdentity record.durableRequestIdentity ++ plainPayloadV2 record.payload ++
    plainDigest record.canonicalPayloadSha256 ++ plainDigest record.sourceEvidenceSha256

/-- The plain codec; its reader knows the transitions it is given, and records of
the third and fourth version do not occur in it. -/
def plainReconciliationCodec (transitions : List Stage6JournalRecordWireV2) : ReconciliationCodec where
  toReplayCodec := plainCodec
  evidenceToVec := fun _ => []
  evidenceFromSlice := fun _ => none
  decimalDeserialize := fun _ => Decimal.zero
  decimalSerialize := fun _ => Vector.replicate 16 0
  payloadV2ToVec := plainPayloadV2
  recordV2ToVec := plainRecordV2
  recordV2FromSlice := fun bytes => transitions.find? fun wire => plainRecordV2 wire = bytes
  chrono := {
    parseFromRfc3339 := fun _ => none
    toRfc3339Micros := fun _ => ""
    parseDate := fun _ => none
    dateNaive := fun time => { day := time.seconds / 86400 }
    timestampMillis := fun time => time.seconds * 1000 + time.nanos.toNat / 1000000
    nanosecondsSince := fun later earlier =>
      (later.seconds - earlier.seconds) * 10 ^ 9 + (later.nanos.toNat - earlier.nanos.toNat) }
  recordV3ToVec := fun _ => []
  recordV3FromSlice := fun _ => none
  bodyV4ToVec := fun _ => []
  transitionBindingV4ToVec := fun _ => []
  recordV4ToVec := fun _ => []
  recordV4FromSlice := fun _ => none
  topLevelEntries := fun _ => none

/-- The plain codec with a reader that knows the given records of the first version. -/
def readingCodec (known : List Stage6JournalRecordWireV1) : ReconciliationCodec :=
  { plainReconciliationCodec [] with
    recordFromSlice := fun bytes => known.find? fun wire => plainRecord wire = bytes
    topLevelEntries := fun bytes => some ([("schema_version", some (UInt64.ofNat (ofBigEndian (bytes.take 2))))], true) }

def sampleDigest (byte : UInt8) : Stage6Sha256Digest :=
  Stage6Sha256Digest.of plainCodec.toDurableRecordCodec [byte]

/-- A one-lot order as the broker reports it, with the given status and nothing filled. -/
def sampleOrderFact (orderId : BrokerOrderId) (status : OrderStatus) : Stage6BrokerOrderFactV2 :=
  { accountId := { value := "A-1" }
    brokerOrderId := some orderId
    clientOrderId := none
    instrument := sampleInstrument
    side := .buy
    orderType := .market
    timeInForce := some .day
    status := status
    lifecycle := expectedLifecycle status
    qty := Decimal.ofNat 1 Decimal.one_fits
    filledQty := Decimal.zero
    remainingQty := none
    limitPrice := none
    brokerAssetId := none
    board := none
    expirationDate := none
    sourceTs := none
    receivedTs := { seconds := 0, nanos := 0 } }

def sampleEntry (record : Stage6JournalRecordV1 plainCodec.toDurableRecordCodec) (ordinal : UInt16) :
    Stage6SuffixManifestEntryV2 :=
  { ordinal := ordinal
    eventKind := record.eventKind
    journalRecordId := record.journalRecordId
    lifecycleSequence := record.lifecycleSequence
    canonicalPayloadSha256 := record.canonicalPayloadSha256
    canonicalRecordSha256 := Stage6Sha256Digest.of plainCodec.toDurableRecordCodec record.encodeCanonical }

/-- A transition without trades, after `previous`, whose manifest names `suffix`. -/
def sampleTransition (identity : Stage6DurableRequestIdentityV1) (sequence : Stage6LifecycleSequence)
    (previous : Stage6JournalRecordId) (kind : Stage6ReconciliationTransitionKindV2)
    (orderFact : Option Stage6BrokerOrderFactV2)
    (suffix : List (Stage6JournalRecordV1 plainCodec.toDurableRecordCodec)) : Stage6JournalRecordWireV2 :=
  let payload : Stage6ReconciliationTransitionPayloadV2 := {
    stableTransitionKeySha256 := sampleDigest 2
    durableRequestBindingSha256 := sampleDigest 3
    privateAuthoritativeOutcomeBindingSha256 := sampleDigest 4
    endpointKind := if identity.action = .place then .place else .cancel
    transitionKind := kind
    exactLookupEvidence := .notAttempted
    brokerOrderFact := orderFact
    materialTradeFacts := []
    fillEffect := .zero
    accountSafetySummary := {
      accountActiveOrdersCount := 0
      accountUnknownOrdersCount := 0
      accountOrphanOrdersCount := 0
      accountOpenPositionsCount := 0
      targetActiveOrdersCount := 0
      targetUnknownOrdersCount := 0
      targetTerminalOrdersCount := 0
      targetInconsistentOrdersCount := 0
      targetOpenPositionsCount := 0
      otherSymbolActiveOrdersCount := 0
      accountSafetyBindingSha256 := sampleDigest 5 }
    preAppendPrecondition := {
      expectedStage6CheckpointOrFrontierFingerprint := sampleDigest 6
      expectedRecoverySealGeneration := 1
      expectedRecoverySealFingerprint := sampleDigest 7
      expectedRequestStateFingerprint := sampleDigest 8 }
    deterministicSuffixManifest := {
      entries := suffix.zipIdx.map fun (record, index) => sampleEntry record (UInt16.ofNat index) } }
  { schemaVersion := stage6DurableRecordSchemaVersionV2
    journalRecordId := Stage6JournalRecordId.derive plainCodec.toDurableRecordCodec
      identity.strategyRequestId sequence
    lifecycleSequence := sequence
    previousRecordId := some previous
    causalParentId := some previous
    durableRequestIdentity := identity
    eventKind := .reconciliationTransitionApplied
    payload := payload
    canonicalPayloadSha256 := Stage6Sha256Digest.of plainCodec.toDurableRecordCodec (plainPayloadV2 payload)
    sourceEvidenceSha256 := sampleDigest 1 }

/-- A place request that was sent once, and the transition by which
reconciliation found its order rejected, with both suffix records. -/
structure RejectedPlace where
  accepted : Stage6JournalRecordV1 plainCodec.toDurableRecordCodec
  attempt : Stage6JournalRecordV1 plainCodec.toDurableRecordCodec
  observed : Stage6JournalRecordV1 plainCodec.toDurableRecordCodec
  finalized : Stage6JournalRecordV1 plainCodec.toDurableRecordCodec
  transition : Stage6JournalRecordWireV2

def rejectedPlace : Option RejectedPlace := do
  let attribution ← sampleAttribution "ENTRY"
  let identity ← (Stage6DurableRequestIdentityV1.fromPlace (samplePlaceOrder 1) attribution).toOption
  let snapshot ← (Stage6DurableCommandSnapshotV1.fromPlace identity (samplePlaceOrder 1)).toOption
  let orderId ← BrokerOrderId.fromBrokerNativeExact "B-1"
  let evidence := sampleDigest 1
  let accepted ← (Stage6JournalRecordV1.requestAccepted identity snapshot (sampleSequence 0) none none
    evidence).toOption
  let attempt ← (Stage6JournalRecordV1.dispatchAttemptRecorded identity 1 accepted.canonicalPayloadSha256
    (sampleSequence 1) (some accepted.journalRecordId) evidence).toOption
  let transitionId := Stage6JournalRecordId.derive plainCodec.toDurableRecordCodec
    identity.strategyRequestId (sampleSequence 2)
  let observed ← (Stage6JournalRecordV1.brokerOrderObserved identity orderId (sampleSequence 3)
    (some transitionId) evidence).toOption
  let finalized ← (Stage6JournalRecordV1.requestFinalized identity .rejected (sampleSequence 4)
    (some observed.journalRecordId) evidence).toOption
  some {
    accepted := accepted
    attempt := attempt
    observed := observed
    finalized := finalized
    transition := sampleTransition identity (sampleSequence 2) attempt.journalRecordId
      (.exact .terminalRejected) (some (sampleOrderFact orderId .rejected)) [observed, finalized] }

def RejectedPlace.journal (sample : RejectedPlace)
    (transition : Stage6JournalRecordV2 (plainReconciliationCodec []).toTransitionCodec) :
    List (Stage6JournalRecordVersioned (plainReconciliationCodec [])) :=
  [.v1 sample.accepted, .v1 sample.attempt, .v2 transition, .v1 sample.observed, .v1 sample.finalized]

/-- The same request, which a transition without suffix put on conflict hold;
then its order was found missing and it was sent again. -/
structure RetriedAfterHold where
  accepted : Stage6JournalRecordV1 plainCodec.toDurableRecordCodec
  attempt : Stage6JournalRecordV1 plainCodec.toDurableRecordCodec
  transition : Stage6JournalRecordV2 (plainReconciliationCodec []).toTransitionCodec
  missing : Stage6JournalRecordV1 plainCodec.toDurableRecordCodec
  second : Stage6JournalRecordV1 plainCodec.toDurableRecordCodec

def RetriedAfterHold.journal (sample : RetriedAfterHold) :
    List (Stage6JournalRecordVersioned (plainReconciliationCodec [])) :=
  [.v1 sample.accepted, .v1 sample.attempt, .v2 sample.transition, .v1 sample.missing, .v1 sample.second]

def retriedAfterHold : Option RetriedAfterHold := do
  let sample ← rejectedPlace
  let identity := sample.accepted.durableRequestIdentity
  let evidence := sampleDigest 1
  let transition ← (Stage6JournalRecordV2.ofWire (sampleTransition identity (sampleSequence 2)
    sample.attempt.journalRecordId .reconciliationConflictHold none [])).toOption
  let missing ← (Stage6JournalRecordV1.reconciliationObserved identity .noBrokerOrderFound (sampleSequence 3)
    (some transition.journalRecordId) evidence).toOption
  let second ← (Stage6JournalRecordV1.dispatchAttemptRecorded identity 2 sample.accepted.canonicalPayloadSha256
    (sampleSequence 4) (some missing.journalRecordId) evidence).toOption
  some {
    accepted := sample.accepted
    attempt := sample.attempt
    transition := transition
    missing := missing
    second := second }

structure SampleJournal where
  records : List Stage6JournalRecordWireV1
  transition : Stage6JournalRecordWireV2

/-- The plain codec that reads exactly these records back. -/
def SampleJournal.codec (sample : SampleJournal) : ReconciliationCodec :=
  { readingCodec sample.records with
    recordV2FromSlice := fun bytes =>
      if plainRecordV2 sample.transition = bytes then some sample.transition else none }

def SampleJournal.readRecords (sample : SampleJournal) :
    Option (List (Stage6JournalRecordV1 sample.codec.toDurableRecordCodec)) :=
  sample.records.mapM fun wire => (Stage6JournalRecordV1.ofWire wire).toOption

def SampleJournal.readTransition (sample : SampleJournal) :
    Option (Stage6JournalRecordV2 sample.codec.toTransitionCodec) :=
  (Stage6JournalRecordV2.ofWire sample.transition).toOption

/-- The rejected place, with a crash before the first suffix record. -/
def interruptedPlace : Option SampleJournal :=
  rejectedPlace.map fun sample => {
    records := [sample.accepted.toStage6JournalRecordWireV1, sample.attempt.toStage6JournalRecordWireV1]
    transition := sample.transition }

/-- A cancel whose outcome was recorded before reconciliation found its order
canceled; the transition promises that outcome again. -/
def cancelObservedTwice : Option SampleJournal := do
  let attribution ← sampleAttribution "CANCEL"
  let orderId ← BrokerOrderId.fromBrokerNativeExact "B-1"
  let command : CancelOrder := {
    requestId := sampleRequest 2
    createdTs := { seconds := 0, nanos := 0 }
    ttlMs := none
    accountId := { value := "A-1" }
    orderId := orderId
    clientOrderId := none }
  let identity ← (Stage6DurableRequestIdentityV1.fromCancel command sampleInstrument attribution).toOption
  let snapshot ← (Stage6DurableCommandSnapshotV1.fromCancel identity command).toOption
  let evidence := sampleDigest 1
  let accepted : Stage6JournalRecordV1 plainCodec.toDurableRecordCodec ←
    (Stage6JournalRecordV1.requestAccepted identity snapshot (sampleSequence 0) none none evidence).toOption
  let attempt : Stage6JournalRecordV1 plainCodec.toDurableRecordCodec ←
    (Stage6JournalRecordV1.dispatchAttemptRecorded identity 1 accepted.canonicalPayloadSha256 (sampleSequence 1)
      (some accepted.journalRecordId) evidence).toOption
  let outcome : Stage6JournalRecordV1 plainCodec.toDurableRecordCodec ←
    (Stage6JournalRecordV1.cancelOutcomeObserved identity orderId .canceled (sampleSequence 2)
      (some attempt.journalRecordId) evidence).toOption
  let transitionId := Stage6JournalRecordId.derive plainCodec.toDurableRecordCodec
    identity.strategyRequestId (sampleSequence 3)
  let again ← (Stage6JournalRecordV1.cancelOutcomeObserved identity orderId .canceled (sampleSequence 4)
    (some transitionId) evidence).toOption
  let finalized ← (Stage6JournalRecordV1.requestFinalized identity .completed (sampleSequence 5)
    (some again.journalRecordId) evidence).toOption
  some {
    records := [accepted.toStage6JournalRecordWireV1, attempt.toStage6JournalRecordWireV1,
      outcome.toStage6JournalRecordWireV1]
    transition := sampleTransition identity (sampleSequence 3) outcome.journalRecordId
      (.exact .terminalCancelled) (some (sampleOrderFact orderId .canceled)) [again, finalized] }

end TradingGateway.Stage6.PlainReconciliationCodec
