import TradingGateway.Foundation.KeyedReplay
import TradingGateway.Foundation.OrderedMap
import TradingGateway.Stage6.JournalRecord

/-! The crash-replay state machine over journal records of the first version. -/

set_option autoImplicit false

namespace TradingGateway.Stage6.Replay

open BrokerCore.Identifiers DurableIdentity JournalRecord
open Foundation.ExceptRun Foundation.IdempotentLog Foundation.OrderedMap

def stage6ReplaySchemaVersion : UInt16 := 1

inductive Stage6DispatchSafetyStateV1 where
  | readyForFirstDispatch
  | reconciliationRequired
  | retryEligibleSameIdentity
  | dispatchForbidden
deriving DecidableEq

inductive Stage6ReplayError where
  | sequenceStartInvalid
  | sequenceGap
  | previousRecordMismatch
  | identityDrift
  | conflictingReplay
  | causalParentMissing
  | dispatchAttemptInvalid
  | blindRedispatchBlocked
  | brokerOrderConflict
  | brokerTradeConflict
  | cancelTargetConflict
  | cancelOutcomeConflict
  | invalidActionEvent
  | eventAfterFinalization
  | invalidTransition
deriving DecidableEq

instance : Ord BrokerTradeId := ⟨compareOn BrokerTradeId.value⟩

instance : Std.TransOrd BrokerTradeId :=
  inferInstanceAs (Std.TransCmp (compareOn BrokerTradeId.value))

instance : Std.LawfulEqOrd BrokerTradeId where
  eq_of_compare {left right} same := by
    have values : left.value = right.value := Std.LawfulEqOrd.eq_of_compare same
    cases left
    cases right
    simpa using values

structure Stage6RecoveredRequestV1 where
  strategyRequestId : StrategyRequestId
  durableClientOrderId : ClientOrderId
  action : Stage6DurableActionKind
  lastUniqueSequence : UInt64
  lastUniqueRecordId : Stage6JournalRecordId
  dispatchSafetyState : Stage6DispatchSafetyStateV1
  dispatchAttemptCount : UInt32
  knownBrokerOrderId : Option BrokerOrderId
  observedBrokerTradeIds : List BrokerTradeId
  cancelOutcome : Option Stage6CancelOutcomeV1
  finalDisposition : Option Stage6RequestFinalDispositionV1
  conflictObserved : Bool
deriving DecidableEq

structure ReplayCodec extends DurableRecordCodec where
  fingerprintInputToVec : UInt16 → List Stage6RecoveredRequestV1 → List UInt8

structure Stage6ReplaySnapshotV1 where
  replaySchemaVersion : UInt16
  requests : List Stage6RecoveredRequestV1
  semanticFingerprintSha256 : Stage6Sha256Digest
deriving DecidableEq

/-- `Stage6ReplaySnapshotV1::request`. -/
def Stage6ReplaySnapshotV1.request (snapshot : Stage6ReplaySnapshotV1) (requestId : StrategyRequestId) :
    Option Stage6RecoveredRequestV1 :=
  snapshot.requests.find? fun request => request.strategyRequestId = requestId

def replayFingerprint (codec : ReplayCodec) (requests : List Stage6RecoveredRequestV1) :
    Stage6Sha256Digest :=
  Stage6Sha256Digest.of codec.toDurableRecordCodec
    ("stage6-replay-snapshot-v1".toUTF8.toList ++
      codec.fingerprintInputToVec stage6ReplaySchemaVersion requests)

def Stage6ReplaySnapshotV1.fromRecoveredRequests (codec : ReplayCodec)
    (requests : List Stage6RecoveredRequestV1) : Stage6ReplaySnapshotV1 :=
  { replaySchemaVersion := stage6ReplaySchemaVersion
    requests := requests
    semanticFingerprintSha256 := replayFingerprint codec requests }

structure WorkingRequest where
  identity : Stage6DurableRequestIdentityV1
  acceptedPayloadSha256 : Stage6Sha256Digest
  lastSequence : UInt64
  lastRecordId : Stage6JournalRecordId
  dispatchSafetyState : Stage6DispatchSafetyStateV1
  dispatchAttemptCount : UInt32
  knownBrokerOrderId : Option BrokerOrderId
  trades : Std.ExtTreeMap BrokerTradeId BrokerOrderId
  cancelOutcome : Option Stage6CancelOutcomeV1
  finalDisposition : Option Stage6RequestFinalDispositionV1
  conflictObserved : Bool

namespace WorkingRequest

def validateIdentity (state : WorkingRequest) (observed : Stage6DurableRequestIdentityV1) :
    Except Stage6ReplayError Unit := do
  rejectIf (state.identity.action = .cancel ∧
    (state.identity.targetBrokerOrderId ≠ observed.targetBrokerOrderId ∨
      state.identity.targetOrderClientOrderId ≠ observed.targetOrderClientOrderId)) .cancelTargetConflict
  rejectIf (state.identity ≠ observed) .identityDrift

def authorizeAttempt (state : WorkingRequest) (attemptOrdinal : UInt32) : Except Stage6ReplayError Unit :=
  match state.dispatchSafetyState with
  | .readyForFirstDispatch =>
      rejectIf (¬ (state.dispatchAttemptCount = 0 ∧ attemptOrdinal = 1)) .dispatchAttemptInvalid
  | .retryEligibleSameIdentity => rejectIf (state.identity.action ≠ .place) .invalidActionEvent
  | .reconciliationRequired => .error .blindRedispatchBlocked
  | .dispatchForbidden => .error .dispatchAttemptInvalid

def applyDispatchAttempt (state : WorkingRequest) (attemptOrdinal : UInt32)
    (acceptedRequestPayloadSha256 : Stage6Sha256Digest) : Except Stage6ReplayError WorkingRequest := do
  rejectIf (acceptedRequestPayloadSha256 ≠ state.acceptedPayloadSha256 ∨
    attemptOrdinal ≠ state.dispatchAttemptCount + 1) .dispatchAttemptInvalid
  state.authorizeAttempt attemptOrdinal
  .ok { state with
    dispatchAttemptCount := attemptOrdinal
    dispatchSafetyState := .reconciliationRequired }

def requireDispatchAttempt (state : WorkingRequest) : Except Stage6ReplayError Unit :=
  rejectIf (state.dispatchAttemptCount = 0) .invalidTransition

def establishBrokerOrder (state : WorkingRequest) (brokerOrderId : BrokerOrderId) :
    Except Stage6ReplayError WorkingRequest := do
  rejectIf (∃ known ∈ state.knownBrokerOrderId, known ≠ brokerOrderId) .brokerOrderConflict
  .ok { state with knownBrokerOrderId := some brokerOrderId }

def applyReconciliation (state : WorkingRequest) (disposition : Stage6ReconciliationDispositionV1) :
    Except Stage6ReplayError WorkingRequest := do
  state.requireDispatchAttempt
  match disposition with
  | .noBrokerOrderFound =>
      rejectIf (state.identity.action ≠ .place) .invalidActionEvent
      rejectIf (state.dispatchSafetyState ≠ .reconciliationRequired ∨ state.knownBrokerOrderId ≠ none)
        .invalidTransition
      .ok { state with dispatchSafetyState := .retryEligibleSameIdentity }
  | .brokerOrderFound brokerOrderId =>
      rejectIf (state.identity.action ≠ .place) .invalidActionEvent
      let established ← state.establishBrokerOrder brokerOrderId
      .ok { established with dispatchSafetyState := .dispatchForbidden }
  | .inconclusive =>
      rejectIf (state.dispatchSafetyState ≠ .reconciliationRequired ∨ state.knownBrokerOrderId ≠ none)
        .invalidTransition
      .ok state

/-- The tables of allowed events are the same here as in record validation. -/
def validateEventForAction (action : Stage6DurableActionKind) (payload : Stage6JournalPayloadV1) :
    Except Stage6ReplayError Unit :=
  rejectIf (actionAllowsPayload action payload = false) .invalidActionEvent

def recordTrade (state : WorkingRequest) (brokerTradeId : BrokerTradeId) (brokerOrderId : BrokerOrderId) :
    Except Stage6ReplayError WorkingRequest :=
  match state.trades[brokerTradeId]? with
  | some existing =>
      if existing ≠ brokerOrderId then .error .brokerTradeConflict else .ok state
  | none => .ok { state with trades := state.trades.insert brokerTradeId brokerOrderId }

def applyPayload (state : WorkingRequest) (payload : Stage6JournalPayloadV1) :
    Except Stage6ReplayError WorkingRequest := do
  match payload with
  | .requestAccepted _ => .error .invalidTransition
  | .dispatchAttemptRecorded attemptOrdinal acceptedRequestPayloadSha256 =>
      state.applyDispatchAttempt attemptOrdinal acceptedRequestPayloadSha256
  | .brokerOrderObserved brokerOrderId =>
      state.requireDispatchAttempt
      let established ← state.establishBrokerOrder brokerOrderId
      .ok { established with dispatchSafetyState := .dispatchForbidden }
  | .brokerTradeObserved brokerTradeId brokerOrderId =>
      state.requireDispatchAttempt
      let traded ← state.recordTrade brokerTradeId brokerOrderId
      let established ← traded.establishBrokerOrder brokerOrderId
      .ok { established with dispatchSafetyState := .dispatchForbidden }
  | .reconciliationObserved disposition => state.applyReconciliation disposition
  | .cancelOutcomeObserved targetBrokerOrderId outcome =>
      rejectIf (state.identity.action ≠ .cancel ∨
        state.identity.targetBrokerOrderId ≠ some targetBrokerOrderId) .cancelTargetConflict
      state.requireDispatchAttempt
      rejectIf (state.cancelOutcome ≠ none) .cancelOutcomeConflict
      .ok { state with cancelOutcome := some outcome, dispatchSafetyState := .dispatchForbidden }
  | .requestFinalized disposition =>
      .ok { state with finalDisposition := some disposition, dispatchSafetyState := .dispatchForbidden }
  | .conflictObserved _ _ _ _ =>
      .ok { state with conflictObserved := true, dispatchSafetyState := .dispatchForbidden }
  | .marker => .error .invalidTransition

def checkCausalLink (state : WorkingRequest) (identity : Stage6DurableRequestIdentityV1)
    (sequence : Stage6LifecycleSequence) (previousRecordId : Option Stage6JournalRecordId) :
    Except Stage6ReplayError Unit := do
  state.validateIdentity identity
  rejectIf (state.finalDisposition ≠ none) .eventAfterFinalization
  rejectIf (sequence.value ≠ state.lastSequence + 1) .sequenceGap
  rejectIf (previousRecordId ≠ some state.lastRecordId) .previousRecordMismatch

def advanceTo (state : WorkingRequest) (sequence : Stage6LifecycleSequence)
    (recordId : Stage6JournalRecordId) : WorkingRequest :=
  { state with lastSequence := sequence.value, lastRecordId := recordId }

def advanceCausalOnly (state : WorkingRequest) (identity : Stage6DurableRequestIdentityV1)
    (sequence : Stage6LifecycleSequence) (previousRecordId : Option Stage6JournalRecordId)
    (recordId : Stage6JournalRecordId) : Except Stage6ReplayError WorkingRequest := do
  state.checkCausalLink identity sequence previousRecordId
  .ok (state.advanceTo sequence recordId)

def isFinalized (state : WorkingRequest) : Bool :=
  state.finalDisposition.isSome

def intoRecovered (state : WorkingRequest) : Stage6RecoveredRequestV1 :=
  { strategyRequestId := state.identity.strategyRequestId
    durableClientOrderId := state.identity.durableClientOrderId
    action := state.identity.action
    lastUniqueSequence := state.lastSequence
    lastUniqueRecordId := state.lastRecordId
    dispatchSafetyState := state.dispatchSafetyState
    dispatchAttemptCount := state.dispatchAttemptCount
    knownBrokerOrderId := state.knownBrokerOrderId
    observedBrokerTradeIds := state.trades.keys
    cancelOutcome := state.cancelOutcome
    finalDisposition := state.finalDisposition
    conflictObserved := state.conflictObserved }

section Records

variable {codec : DurableRecordCodec}

def fromFirst (record : Stage6JournalRecordV1 codec) : Except Stage6ReplayError WorkingRequest := do
  rejectIf (record.eventKind ≠ .requestAccepted ∨ record.lifecycleSequence.value ≠ 1 ∨
    record.previousRecordId ≠ none) .sequenceStartInvalid
  .ok {
    identity := record.durableRequestIdentity
    acceptedPayloadSha256 := record.canonicalPayloadSha256
    lastSequence := 1
    lastRecordId := record.journalRecordId
    dispatchSafetyState := .readyForFirstDispatch
    dispatchAttemptCount := 0
    knownBrokerOrderId := none
    trades := ∅
    cancelOutcome := none
    finalDisposition := none
    conflictObserved := false }

def apply (state : WorkingRequest) (record : Stage6JournalRecordV1 codec) :
    Except Stage6ReplayError WorkingRequest := do
  state.checkCausalLink record.durableRequestIdentity record.lifecycleSequence record.previousRecordId
  validateEventForAction state.identity.action record.payload
  let updated ← state.applyPayload record.payload
  .ok (updated.advanceTo record.lifecycleSequence record.journalRecordId)

end Records

end WorkingRequest

section Engine

variable {codec : DurableRecordCodec}

def requestKey (record : Stage6JournalRecordV1 codec) : List Char :=
  record.durableRequestIdentity.strategyRequestId.toText

/-- The seen record codes and the working requests, as the replay loop carries them. -/
abbrev ReplayCursor := Cursor HexText (List UInt8) (Std.ExtTreeMap (List Char) WorkingRequest)

def replayStep (cursor : ReplayCursor) (record : Stage6JournalRecordV1 codec) :
    Except Stage6ReplayError ReplayCursor :=
  let recordKey := record.journalRecordId.value
  let canonical := record.encodeCanonical
  match cursor.seen[recordKey]? with
  | some previous => if previous = canonical then .ok cursor else .error .conflictingReplay
  | none => do
      rejectIf (∃ parent ∈ record.causalParentId, parent.value ∉ cursor.seen) .causalParentMissing
      let state ← match cursor.state[requestKey record]? with
        | none => WorkingRequest.fromFirst record
        | some state => state.apply record
      .ok {
        seen := cursor.seen.insert recordKey canonical
        state := cursor.state.insert (requestKey record) state }

end Engine

/-- `Stage6ReplayEngineV1::replay`. -/
def Stage6ReplayEngineV1.replay (codec : ReplayCodec)
    (records : List (Stage6JournalRecordV1 codec.toDurableRecordCodec)) :
    Except Stage6ReplayError Stage6ReplaySnapshotV1 := do
  let cursor ← records.foldlM replayStep { seen := ∅, state := ∅ }
  .ok (Stage6ReplaySnapshotV1.fromRecoveredRequests codec
    ((intoValues cursor.state).map WorkingRequest.intoRecovered))

end TradingGateway.Stage6.Replay
