import TradingGateway.Stage6.VersionedRecord

/-! Mixed replay: one loop over records of all four versions. -/

set_option autoImplicit false

namespace TradingGateway.Stage6.MixedReplay

open BrokerCore.Identifiers DurableIdentity JournalRecord Replay ReconciliationV2 VersionedRecord
open Stage8b.WorkingLimitEvidence
open Foundation.ExceptRun Foundation.IdempotentLog Foundation.OrderedMap

section Outcomes

variable (codec : DurableRecordCodec)

def outcomeNamesRequest (state : WorkingRequest) (effect : Stage8bP1d3Stage6RequestReplayEffect)
    (sequence : Stage6LifecycleSequence) : Prop :=
  effect.requestId = state.identity.strategyRequestId ∧
    effect.durableRequestClientId = state.identity.durableClientOrderId ∧
    effect.accountId = state.identity.accountId ∧ effect.instrument = state.identity.instrument ∧
    effect.acceptedCommandPayloadSha256 = state.acceptedPayloadSha256.value ∧
    effect.stage6DispatchRecordId = state.lastRecordId.value ∧
    state.lastSequence < sequence.value ∧ state.dispatchAttemptCount = 1 ∧
    state.dispatchSafetyState = .reconciliationRequired

instance (state : WorkingRequest) (effect : Stage8bP1d3Stage6RequestReplayEffect)
    (sequence : Stage6LifecycleSequence) : Decidable (outcomeNamesRequest state effect sequence) :=
  inferInstanceAs (Decidable (_ ∧ _))

def insertOutcomeTrade (state : WorkingRequest) (brokerTradeId : Option BrokerTradeId)
    (brokerOrderId : BrokerOrderId) : Except Stage6ReplayError WorkingRequest :=
  match brokerTradeId with
  | none => .ok state
  | some tradeId =>
      if tradeId ∈ state.trades then .error .brokerTradeConflict
      else .ok { state with trades := state.trades.insert tradeId brokerOrderId }

def applyOutcomeKind (state : WorkingRequest) (kind : Stage8bP1d3Stage6RequestReplayEffectKind) :
    Except Stage6ReplayError WorkingRequest := do
  match kind with
  | .place brokerOrderId brokerTradeId =>
      rejectIf (state.identity.action ≠ .place ∨ state.identity.targetBrokerOrderId ≠ none ∨
        state.identity.targetOrderClientOrderId ≠ none) .invalidActionEvent
      let established ← state.establishBrokerOrder brokerOrderId
      insertOutcomeTrade established brokerTradeId brokerOrderId
  | .cancel targetBrokerOrderId targetPlaceClientId outcome =>
      rejectIf (state.identity.action ≠ .cancel ∨
        state.identity.targetBrokerOrderId ≠ some targetBrokerOrderId ∨
        ∃ value ∈ state.identity.targetOrderClientOrderId, value ≠ targetPlaceClientId)
        .cancelTargetConflict
      rejectIf (state.cancelOutcome ≠ none) .cancelOutcomeConflict
      .ok { state with cancelOutcome := some outcome }

/-- `WorkingRequest::apply_stage8b_p1d3_outcome`. The sequence only has to grow:
rows of other lifecycles may stand between a dispatch and its outcome. -/
def applyStage8bP1d3Outcome (state : WorkingRequest) (effect : Stage8bP1d3Stage6RequestReplayEffect)
    (sequence : Stage6LifecycleSequence) (recordId : Stage6JournalRecordId) :
    Except Stage6ReplayError WorkingRequest := do
  rejectIf (state.finalDisposition ≠ none) .eventAfterFinalization
  rejectIf (¬ outcomeNamesRequest state effect sequence) .identityDrift
  rejectIf (effect.attributionFingerprintSha256 ≠
    (codec.sha256 (codec.attributionToVec state.identity.attribution)).hex) .identityDrift
  rejectIf (isCanonicalSha256 effect.acceptedStage6IdentitySha256 = false) .identityDrift
  let applied ← applyOutcomeKind state effect.kind
  .ok ({ applied with dispatchSafetyState := .dispatchForbidden }.advanceTo sequence recordId)

end Outcomes

inductive Stage6ReconciliationBatchCompletionV2 where
  | incomplete
  | complete
deriving DecidableEq

section Engine

variable {codec : ReconciliationCodec}

structure Stage6PendingReconciliationBatchV2 (codec : ReconciliationCodec) where
  transitionRecord : Stage6JournalRecordV2 codec.toTransitionCodec
  verifiedSuffixPrefixLength : Nat
  completion : Stage6ReconciliationBatchCompletionV2
  lastMixedRecordId : Stage6JournalRecordId
  lastMixedLifecycleSequence : Stage6LifecycleSequence

namespace Stage6PendingReconciliationBatchV2

def missingSuffixEntries (batch : Stage6PendingReconciliationBatchV2 codec) :
    List Stage6SuffixManifestEntryV2 :=
  batch.transitionRecord.manifestEntries.drop batch.verifiedSuffixPrefixLength

def opened (v2 : Stage6JournalRecordV2 codec.toTransitionCodec) :
    Stage6PendingReconciliationBatchV2 codec :=
  { transitionRecord := v2
    verifiedSuffixPrefixLength := 0
    completion := if v2.manifestEntries = [] then .complete else .incomplete
    lastMixedRecordId := v2.journalRecordId
    lastMixedLifecycleSequence := v2.lifecycleSequence }

/-- The batch after one more suffix record; it completes with its last entry. -/
def extended (batch : Stage6PendingReconciliationBatchV2 codec)
    (v1 : Stage6JournalRecordV1 codec.toDurableRecordCodec) : Stage6PendingReconciliationBatchV2 codec :=
  { transitionRecord := batch.transitionRecord
    verifiedSuffixPrefixLength := batch.verifiedSuffixPrefixLength + 1
    completion :=
      if batch.transitionRecord.manifestEntries.drop (batch.verifiedSuffixPrefixLength + 1) = [] then .complete
      else batch.completion
    lastMixedRecordId := v1.journalRecordId
    lastMixedLifecycleSequence := v1.lifecycleSequence }

@[simp] theorem extended_transitionRecord (batch : Stage6PendingReconciliationBatchV2 codec)
    (v1 : Stage6JournalRecordV1 codec.toDurableRecordCodec) :
    (batch.extended v1).transitionRecord = batch.transitionRecord := rfl

@[simp] theorem opened_transitionRecord (v2 : Stage6JournalRecordV2 codec.toTransitionCodec) :
    (opened v2 : Stage6PendingReconciliationBatchV2 codec).transitionRecord = v2 := rfl

end Stage6PendingReconciliationBatchV2

structure MixedWorkingRequest (codec : ReconciliationCodec) where
  v1 : WorkingRequest
  batch : Option (Stage6PendingReconciliationBatchV2 codec)

structure MixedReplayState (codec : ReconciliationCodec) where
  seenTransitionKeys : Std.ExtTreeMap HexText (List UInt8)
  seenP1d3TransitionKeys : Std.ExtTreeMap (List Char) (List UInt8)
  seenScheduleTransitionKeys : Std.ExtTreeMap HexText (List UInt8)
  requests : Std.ExtTreeMap (List Char) (MixedWorkingRequest codec)
  p1d3OutcomeRecords : List (Stage6JournalRecordV3 codec)
  scheduleBindingRecords : List (Stage6JournalRecordV4 codec)
  lastUniqueRecordId : Option Stage6JournalRecordId
  lastUniqueLifecycleSequence : Option Stage6LifecycleSequence
  lastUniqueRequestAcceptedIdentity : Option Stage6DurableRequestIdentityV1

def MixedReplayState.empty : MixedReplayState codec :=
  { seenTransitionKeys := ∅
    seenP1d3TransitionKeys := ∅
    seenScheduleTransitionKeys := ∅
    requests := ∅
    p1d3OutcomeRecords := []
    scheduleBindingRecords := []
    lastUniqueRecordId := none
    lastUniqueLifecycleSequence := none
    lastUniqueRequestAcceptedIdentity := none }

def registerTransitionKey (seen : Std.ExtTreeMap (List Char) (List UInt8)) (transitionKey : List Char)
    (canonical : List UInt8) :
    Except Stage6ReconciliationV2Error (Std.ExtTreeMap (List Char) (List UInt8)) :=
  match seen[transitionKey]? with
  | some existing => if existing ≠ canonical then .error .pendingBatchConflict else .ok seen
  | none => .ok (seen.insert transitionKey canonical)

namespace MixedWorkingRequest

/-- A suffix record has to be the next one the open manifest names. -/
def applyV1 (state : MixedWorkingRequest codec) (v1 : Stage6JournalRecordV1 codec.toDurableRecordCodec) :
    Except Stage6ReconciliationV2Error (MixedWorkingRequest codec) := do
  match state.batch with
  | none =>
      let updated ← (state.v1.apply v1).mapError .replay
      .ok { state with v1 := updated }
  | some batch =>
      if batch.completion = .incomplete then
        let entry ← orReject batch.missingSuffixEntries.head? .unexpectedSuffixRecord
        rejectIf (entry.matchesRecord codec.toTransitionCodec v1 = false) .unexpectedSuffixRecord
        let updated ← (state.v1.apply v1).mapError .replay
        .ok { v1 := updated, batch := some (batch.extended v1) }
      else
        let updated ← (state.v1.apply v1).mapError .replay
        .ok { state with v1 := updated }

def takeV1 (current : Option (MixedWorkingRequest codec))
    (v1 : Stage6JournalRecordV1 codec.toDurableRecordCodec) :
    Except Stage6ReconciliationV2Error (MixedWorkingRequest codec) :=
  match current with
  | none => do
      let first ← (WorkingRequest.fromFirst v1).mapError .replay
      .ok { v1 := first, batch := none }
  | some request => request.applyV1 v1

def applyV2 (state : MixedWorkingRequest codec) (v2 : Stage6JournalRecordV2 codec.toTransitionCodec) :
    Except Stage6ReconciliationV2Error (MixedWorkingRequest codec) := do
  rejectIf (state.batch.isSome = true) .pendingBatchConflict
  let advanced ← (state.v1.advanceCausalOnly v2.durableRequestIdentity v2.lifecycleSequence
    v2.previousRecordId v2.journalRecordId).mapError .replay
  .ok { v1 := advanced, batch := some (.opened v2) }

def applyOutcome (state : MixedWorkingRequest codec) (effect : Stage8bP1d3Stage6RequestReplayEffect)
    (v3 : Stage6JournalRecordV3 codec) :
    Except Stage6ReconciliationV2Error (MixedWorkingRequest codec) := do
  rejectIf (state.batch.isSome = true) .pendingBatchConflict
  let applied ← (applyStage8bP1d3Outcome codec.toDurableRecordCodec state.v1 effect v3.lifecycleSequence
    v3.journalRecordId).mapError .replay
  .ok { state with v1 := applied }

def advanceSchedule (state : MixedWorkingRequest codec) (identity : Stage6DurableRequestIdentityV1)
    (v4 : Stage6JournalRecordV4 codec) :
    Except Stage6ReconciliationV2Error (MixedWorkingRequest codec) := do
  let advanced ← (state.v1.advanceCausalOnly identity v4.parsedLifecycleSequence
    (some v4.previousRecordId) v4.journalRecordId).mapError .replay
  .ok { state with v1 := advanced }

end MixedWorkingRequest

namespace MixedReplayState

/-- The working request under `key`; records other than the first version never open one. -/
def request (state : MixedReplayState codec) (key : List Char) :
    Except Stage6ReconciliationV2Error (MixedWorkingRequest codec) :=
  orReject state.requests[key]? (.replay .sequenceStartInvalid)

def consumeV1 (state : MixedReplayState codec) (seen : Std.ExtTreeMap HexText (List UInt8))
    (v1 : Stage6JournalRecordV1 codec.toDurableRecordCodec) :
    Except Stage6ReconciliationV2Error (MixedReplayState codec) := do
  rejectIf (∃ parent ∈ v1.causalParentId, parent.value ∉ seen) (.replay .causalParentMissing)
  let updated ← MixedWorkingRequest.takeV1 state.requests[requestKey v1]? v1
  .ok { state with requests := state.requests.insert (requestKey v1) updated }

def consumeV2 (state : MixedReplayState codec) (canonical : List UInt8)
    (v2 : Stage6JournalRecordV2 codec.toTransitionCodec) :
    Except Stage6ReconciliationV2Error (MixedReplayState codec) := do
  let request ← state.request v2.requestId.toText
  rejectIf (request.v1.isFinalized = true) .v2AfterFinalization
  let seenTransitionKeys ← registerTransitionKey state.seenTransitionKeys
    v2.payload.stableTransitionKeySha256.value canonical
  let updated ← request.applyV2 v2
  .ok { state with
    seenTransitionKeys := seenTransitionKeys
    requests := state.requests.insert v2.requestId.toText updated }

def applyOutcomeEffect (state : MixedReplayState codec) (v3 : Stage6JournalRecordV3 codec) :
    Except Stage6ReconciliationV2Error (MixedReplayState codec) := do
  let evidence ← (Stage8bP1d3OutcomeEvidenceV1.decodeCanonical codec.toOutcomeEvidenceCodec
    v3.outcomeEvidenceBytes).mapError fun _ => .invalidPayload
  let effect ← (evidence.stage6RequestReplayEffect codec.toOutcomeEvidenceCodec).mapError
    fun _ => .invalidPayload
  match effect with
  | none => .ok state
  | some effect => do
      let request ← state.request effect.requestId.toText
      let updated ← request.applyOutcome effect v3
      .ok { state with requests := state.requests.insert effect.requestId.toText updated }

def consumeV3 (state : MixedReplayState codec) (canonical : List UInt8) (v3 : Stage6JournalRecordV3 codec) :
    Except Stage6ReconciliationV2Error (MixedReplayState codec) := do
  rejectIf (state.lastUniqueRecordId ≠ some v3.previousRecordId) .invalidCausalEnvelope
  let seenP1d3TransitionKeys ← registerTransitionKey state.seenP1d3TransitionKeys v3.transitionKey canonical
  let applied ← state.applyOutcomeEffect v3
  .ok { applied with
    seenP1d3TransitionKeys := seenP1d3TransitionKeys
    p1d3OutcomeRecords := state.p1d3OutcomeRecords ++ [v3] }

/-- A market or first limit record advances the place request accepted just before it. -/
def advancePlace (state : MixedReplayState codec) (v4 : Stage6JournalRecordV4 codec) :
    Except Stage6ReconciliationV2Error (MixedReplayState codec) := do
  let requestId ← orReject v4.requestOrOrderBinding.strategyRequestId .invalidPayload
  let request ← state.request requestId.toList
  rejectIf (request.batch.isSome = true) .pendingBatchConflict
  let identity ← orReject (state.lastUniqueRequestAcceptedIdentity.filter fun identity =>
    identity.action = .place && identity.strategyRequestId.toText = requestId.toList) .invalidCausalEnvelope
  let updated ← request.advanceSchedule identity v4
  .ok { state with requests := state.requests.insert requestId.toList updated }

/-- A cancel step binds an order, so it advances the cancel accepted just before
it, whose target is that order. -/
def advanceCancel (state : MixedReplayState codec) (v4 : Stage6JournalRecordV4 codec) :
    Except Stage6ReconciliationV2Error (MixedReplayState codec) := do
  let identity ← orReject (state.lastUniqueRequestAcceptedIdentity.filter fun identity =>
    identity.action = .cancel && identity.targetBrokerOrderId.any fun orderId =>
      v4.requestOrOrderBinding.activeBrokerOrderId = some orderId.value) .invalidCausalEnvelope
  let request ← state.request identity.strategyRequestId.toText
  rejectIf (request.batch.isSome = true) .pendingBatchConflict
  let updated ← request.advanceSchedule identity v4
  .ok { state with requests := state.requests.insert identity.strategyRequestId.toText updated }

def applySchedule (state : MixedReplayState codec) (v4 : Stage6JournalRecordV4 codec) :
    Except Stage6ReconciliationV2Error (MixedReplayState codec) :=
  match v4.transitionKind with
  | .marketExecution | .initialLimitEvaluation => state.advancePlace v4
  | .cancelStep => state.advanceCancel v4
  | .workingLimitEvaluation | .dayExpiry => .ok state

def consumeV4 (state : MixedReplayState codec) (canonical : List UInt8) (v4 : Stage6JournalRecordV4 codec) :
    Except Stage6ReconciliationV2Error (MixedReplayState codec) := do
  rejectIf (state.lastUniqueRecordId ≠ some v4.previousRecordId ∨
    (state.lastUniqueLifecycleSequence.bind fun sequence => checkedAdd sequence.value 1) ≠
      some v4.parsedLifecycleSequence.value) .invalidCausalEnvelope
  let seenScheduleTransitionKeys ← registerTransitionKey state.seenScheduleTransitionKeys v4.transitionKey
    canonical
  let applied ← state.applySchedule v4
  .ok { applied with
    seenScheduleTransitionKeys := seenScheduleTransitionKeys
    scheduleBindingRecords := state.scheduleBindingRecords ++ [v4] }

def acceptedIdentity (record : Stage6JournalRecordVersioned codec) : Option Stage6DurableRequestIdentityV1 :=
  match record with
  | .v1 v1 => if v1.eventKind = .requestAccepted then some v1.durableRequestIdentity else none
  | _ => none

def admitRecord (seen : Std.ExtTreeMap HexText (List UInt8)) (state : MixedReplayState codec)
    (record : Stage6JournalRecordVersioned codec) :
    Except Stage6ReconciliationV2Error (MixedReplayState codec) :=
  match record with
  | .v1 v1 => state.consumeV1 seen v1
  | .v2 v2 => state.consumeV2 record.encodeCanonical v2
  | .v3 v3 => state.consumeV3 record.encodeCanonical v3
  | .v4 v4 => state.consumeV4 record.encodeCanonical v4

/-- The record that was just admitted, as the next one sees it. -/
def remember (state : MixedReplayState codec) (record : Stage6JournalRecordVersioned codec) :
    MixedReplayState codec :=
  { state with
    lastUniqueRequestAcceptedIdentity := acceptedIdentity record
    lastUniqueRecordId := some record.journalRecordId
    lastUniqueLifecycleSequence := some record.lifecycleSequence }

/-- Admit a record under a fresh id, and remember it as the last one. -/
def consume (seen : Std.ExtTreeMap HexText (List UInt8)) (state : MixedReplayState codec)
    (record : Stage6JournalRecordVersioned codec) :
    Except Stage6ReconciliationV2Error (MixedReplayState codec) := do
  let admitted ← state.admitRecord seen record
  .ok (admitted.remember record)

end MixedReplayState

abbrev MixedReplayCursor (codec : ReconciliationCodec) :=
  Cursor HexText (List UInt8) (MixedReplayState codec)

def mixedStep (cursor : MixedReplayCursor codec) (record : Stage6JournalRecordVersioned codec) :
    Except Stage6ReconciliationV2Error (MixedReplayCursor codec) :=
  let key := record.journalRecordId.value
  let canonical := record.encodeCanonical
  match cursor.seen[key]? with
  | some existing => if existing = canonical then .ok cursor else .error (.replay .conflictingReplay)
  | none => do
      let state ← cursor.state.consume cursor.seen record
      .ok { seen := cursor.seen.insert key canonical, state := state }

structure Stage6MixedReplaySnapshotV2 (codec : ReconciliationCodec) where
  requests : List Stage6RecoveredRequestV1
  reconciliationBatches : List (Stage6PendingReconciliationBatchV2 codec)
  p1d3OutcomeRecords : List (Stage6JournalRecordV3 codec)
  scheduleBindingRecords : List (Stage6JournalRecordV4 codec)

def MixedReplayState.snapshot (state : MixedReplayState codec) : Stage6MixedReplaySnapshotV2 codec :=
  { requests := (intoValues state.requests).map fun request => request.v1.intoRecovered
    reconciliationBatches := (intoValues state.requests).filterMap fun request => request.batch
    p1d3OutcomeRecords := state.p1d3OutcomeRecords
    scheduleBindingRecords := state.scheduleBindingRecords }

/-- `Stage6MixedReplayEngineV2::replay`. -/
def Stage6MixedReplayEngineV2.replay (records : List (Stage6JournalRecordVersioned codec)) :
    Except Stage6ReconciliationV2Error (Stage6MixedReplaySnapshotV2 codec) := do
  let cursor ← records.foldlM mixedStep { seen := ∅, state := MixedReplayState.empty }
  .ok cursor.state.snapshot

end Engine

end TradingGateway.Stage6.MixedReplay
