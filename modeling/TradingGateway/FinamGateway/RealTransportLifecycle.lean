import TradingGateway.BrokerCore.OrderPathIdentity

/-! The lifecycle of an order around the real transport: a place or a cancel is persisted
before it is sent, and its outcome is applied to the copy of the record taken then. -/

set_option autoImplicit false

namespace TradingGateway.FinamGateway.RealTransportLifecycle

open BrokerCore.Identifiers BrokerCore.Orders BrokerCore.OrderPath
open BrokerCore.OrderPath.InMemoryOrderPathStore
open Foundation.ExceptRun Foundation.Triples

inductive FinamOrderExecutionOutcome where
  | accepted (brokerOrderId : Option BrokerOrderId)
  | rejected (reasonCode : CommandAckReasonCode)
  | timeout
deriving DecidableEq

inductive FinamOrderEndpointMaintenanceKind where
  | serviceInterval
  | marketClosed
  | unknown
deriving DecidableEq

inductive FinamOrderEndpointMappedResult where
  | execution (outcome : FinamOrderExecutionOutcome)
  | rateLimited (retryAfterMs : Option UInt64)
  | maintenance (maintenanceKind : FinamOrderEndpointMaintenanceKind)
  | unauthorized (status : UInt16)
  | reconciliationRequired (status : UInt16)
  | decodeError (status : Option UInt16) (bodyKind : Option String)
deriving DecidableEq

structure M3d2RealOrderEndpointTransportExecution where
  requestSent : Bool
  classifiedResponse : Option FinamOrderEndpointMappedResult
deriving DecidableEq

structure PreflightApprovedPlaceOrder where
  order : PlaceOrder
  approvedTs : DateTimeUtc

structure PreflightApprovedCancelOrder where
  cancel : CancelOrder
  approvedTs : DateTimeUtc
  mappedRequestId : Option StrategyRequestId

inductive M3d2dLifecycleOperation where
  | place
  | cancel
deriving DecidableEq

inductive M3d2dLifecycleOutcomeKind where
  | submitted
  | submittedPendingBrokerOrderIdReconciliation
  | brokerRejected
  | timeoutUnknownPending
  | cancelSubmittedPendingReconciliation
  | cancelBrokerOrderIdMismatchManualIntervention
  | cancelRejectedManualIntervention
  | cancelTimeoutUnknownPending
  | reconciliationRequired
  | rateLimitedDisarm
  | maintenanceDisarm
  | unauthorizedDisarm
  | notSent
deriving DecidableEq

inductive M3d2dLifecycleError where
  | missingOrderPathRecord (requestId : StrategyRequestId)
  | missingCancelMapping (requestId : StrategyRequestId)
  | store (error : OrderPathStoreError)
  | transition (error : OrderPathTransitionError)
deriving DecidableEq

structure M3d2dAckCandidateDiagnostic where
  status : CommandAckStatus
  reasonCode : Option CommandAckReasonCode
  clientOrderIdPresent : Bool
  clientOrderIdLen : Option Nat
  brokerOrderIdPresent : Bool
  brokerOrderIdLen : Option Nat
  rawClientOrderIdExported : Bool
  rawBrokerOrderIdExported : Bool
  rawAccountIdExported : Bool
deriving DecidableEq

structure M3d2dRealTransportLifecycleReport where
  operation : M3d2dLifecycleOperation
  state : OrderPathState
  outcome : M3d2dLifecycleOutcomeKind
  requestSent : Bool
  submitAttemptCount : UInt32
  cancelAttemptCount : UInt32
  ackCandidate : M3d2dAckCandidateDiagnostic
  reconciliationScheduled : Bool
  durableIntentPresentBeforeSend : Bool
  durableBeginOrCancelPersistedBeforeSend : Bool
  durableTransitionAuditRequired : Bool
  rawTokenExported : Bool
  rawPathExported : Bool
  rawBodyExported : Bool
deriving DecidableEq

structure AppliedOutcome where
  record : OrderPathRecord
  status : CommandAckStatus
  reason : Option CommandAckReasonCode
  kind : M3d2dLifecycleOutcomeKind

abbrev LifecycleAction := StoreAction M3d2dLifecycleError

def transitionOrError (record : OrderPathRecord) (event : OrderPathEvent) (now : DateTimeUtc) :
    Except M3d2dLifecycleError OrderPathRecord :=
  (record.transition event now).mapError .transition

/-- `store.update_record(record.clone())?`. -/
def persistRecord (record : OrderPathRecord) : LifecycleAction PUnit :=
  (runUpdateRecord record).mapError .store

def m3d2dPersistPlaceBeginSubmit (approved : PreflightApprovedPlaceOrder) (beginTs : DateTimeUtc) :
    LifecycleAction OrderPathRecord := do
  let store ← get
  let requestId := approved.order.requestId
  let record ← Action.ofExcept (orReject (store.getByRequestId requestId) (.missingOrderPathRecord requestId))
  let submitting ← Action.ofExcept (transitionOrError record .beginSubmit beginTs)
  persistRecord submitting
  pure submitting

def m3d2dPersistCancelRequest (approved : PreflightApprovedCancelOrder) (beginTs : DateTimeUtc) :
    LifecycleAction OrderPathRecord := do
  let store ← get
  let mappedRequestId ← Action.ofExcept
    (orReject approved.mappedRequestId (.missingCancelMapping approved.cancel.requestId))
  let record ← Action.ofExcept
    (orReject (store.getByRequestId mappedRequestId) (.missingOrderPathRecord mappedRequestId))
  let cancelling ← Action.ofExcept (transitionOrError record .requestCancel beginTs)
  persistRecord cancelling
  pure cancelling

def nonExecutionPolicy : FinamOrderEndpointMappedResult →
    CommandAckStatus × CommandAckReasonCode × OrderPathErrorKind × M3d2dLifecycleOutcomeKind
  | .rateLimited _ => (.error, .rateLimited, .rateLimited, .rateLimitedDisarm)
  | .maintenance _ => (.error, .brokerMaintenance, .brokerMaintenance, .maintenanceDisarm)
  | .unauthorized _ => (.error, .unauthorized, .unauthorized, .unauthorizedDisarm)
  | .reconciliationRequired _ | .decodeError _ _ =>
      (.unknownPending, .reconciliationRequired, .reconciliationRequired, .reconciliationRequired)
  -- Executions are handled before the policy is asked; the source has no value here.
  | .execution _ => (.unknownPending, .reconciliationRequired, .reconciliationRequired, .reconciliationRequired)

def requireManualIntervention (record : OrderPathRecord) (outcomeTs : DateTimeUtc) (status : CommandAckStatus)
    (errorKind : OrderPathErrorKind) (reason : CommandAckReasonCode) (kind : M3d2dLifecycleOutcomeKind) :
    Except M3d2dLifecycleError AppliedOutcome := do
  let record ← transitionOrError record .requireManualIntervention outcomeTs
  pure {
    record := { record with lastAckStatus := some status, lastErrorKind := some errorKind }
    status := status
    reason := some reason
    kind := kind }

def applyNonExecutionPlace (record : OrderPathRecord) (result : FinamOrderEndpointMappedResult)
    (outcomeTs : DateTimeUtc) : Except M3d2dLifecycleError AppliedOutcome :=
  let (status, reason, errorKind, kind) := nonExecutionPolicy result
  requireManualIntervention record outcomeTs status errorKind reason kind

def applyNonExecutionCancel (record : OrderPathRecord) (result : FinamOrderEndpointMappedResult)
    (outcomeTs : DateTimeUtc) : Except M3d2dLifecycleError AppliedOutcome :=
  let (status, reason, errorKind, kind) := nonExecutionPolicy result
  requireManualIntervention record outcomeTs status errorKind reason kind

/-- Without a classified response the request was sent, and has to be reconciled, or was not sent at all. -/
def applyUnclassified (record : OrderPathRecord) (requestSent : Bool) (outcomeTs : DateTimeUtc) :
    Except M3d2dLifecycleError AppliedOutcome :=
  if requestSent then
    requireManualIntervention record outcomeTs .unknownPending .reconciliationRequired .reconciliationRequired
      .reconciliationRequired
  else
    requireManualIntervention record outcomeTs .rejected .localValidation .localValidationRejected .notSent

def applyTransition (record : OrderPathRecord) (event : OrderPathEvent) (outcomeTs : DateTimeUtc)
    (status : CommandAckStatus) (reason : CommandAckReasonCode) (kind : M3d2dLifecycleOutcomeKind) :
    Except M3d2dLifecycleError AppliedOutcome := do
  let record ← transitionOrError record event outcomeTs
  pure { record := record, status := status, reason := some reason, kind := kind }

def placeOutcome (record : OrderPathRecord) (execution : M3d2RealOrderEndpointTransportExecution)
    (outcomeTs : DateTimeUtc) : Except M3d2dLifecycleError AppliedOutcome :=
  match execution.classifiedResponse with
  | some (.execution (.accepted (some brokerOrderId))) =>
      applyTransition { record with brokerOrderId := some brokerOrderId } .submitAccepted outcomeTs
        .submitted .syntheticSubmitted .submitted
  | some (.execution (.accepted none)) =>
      applyTransition record .submitAcceptedWithoutBrokerOrderId outcomeTs
        .unknownPending .reconciliationRequired .submittedPendingBrokerOrderIdReconciliation
  | some (.execution (.rejected reasonCode)) =>
      applyTransition record .brokerReject outcomeTs .rejected reasonCode .brokerRejected
  | some (.execution .timeout) =>
      applyTransition record .submitTimedOut outcomeTs .timeout .transportTimeout .timeoutUnknownPending
  | some other => applyNonExecutionPlace record other outcomeTs
  | none => applyUnclassified record execution.requestSent outcomeTs

def cancelOutcome (record : OrderPathRecord) (approved : PreflightApprovedCancelOrder)
    (execution : M3d2RealOrderEndpointTransportExecution) (outcomeTs : DateTimeUtc) :
    Except M3d2dLifecycleError AppliedOutcome :=
  match execution.classifiedResponse with
  | some (.execution (.accepted brokerOrderId)) =>
      if ∃ returnedId ∈ brokerOrderId, returnedId ≠ approved.cancel.orderId then
        applyTransition record .requireManualIntervention outcomeTs
          .unknownPending .manualInterventionRequired .cancelBrokerOrderIdMismatchManualIntervention
      else
        applyTransition record .cancelAccepted outcomeTs
          .submitted .syntheticSubmitted .cancelSubmittedPendingReconciliation
  | some (.execution (.rejected reasonCode)) =>
      applyTransition record .cancelRejected outcomeTs .rejected reasonCode .cancelRejectedManualIntervention
  | some (.execution .timeout) =>
      applyTransition record .cancelTimedOut outcomeTs .timeout .transportTimeout .cancelTimeoutUnknownPending
  | some other => applyNonExecutionCancel record other outcomeTs
  | none => applyUnclassified record execution.requestSent outcomeTs

def reportFromRecord (operation : M3d2dLifecycleOperation) (applied : AppliedOutcome) (requestSent : Bool) :
    M3d2dRealTransportLifecycleReport :=
  { operation := operation
    state := applied.record.state
    outcome := applied.kind
    requestSent := requestSent
    submitAttemptCount := applied.record.submitAttemptCount
    cancelAttemptCount := applied.record.cancelAttemptCount
    ackCandidate := {
      status := applied.status
      reasonCode := applied.reason
      clientOrderIdPresent := true
      clientOrderIdLen := some applied.record.clientOrderId.value.utf8ByteSize
      brokerOrderIdPresent := applied.record.brokerOrderId.isSome
      brokerOrderIdLen := applied.record.brokerOrderId.map fun brokerOrderId => brokerOrderId.value.utf8ByteSize
      rawClientOrderIdExported := false
      rawBrokerOrderIdExported := false
      rawAccountIdExported := false }
    reconciliationScheduled :=
      applied.kind ∈ [M3d2dLifecycleOutcomeKind.submittedPendingBrokerOrderIdReconciliation,
        .cancelSubmittedPendingReconciliation, .cancelBrokerOrderIdMismatchManualIntervention,
        .cancelTimeoutUnknownPending, .timeoutUnknownPending, .reconciliationRequired]
    durableIntentPresentBeforeSend := true
    durableBeginOrCancelPersistedBeforeSend := true
    durableTransitionAuditRequired := true
    rawTokenExported := false
    rawPathExported := false
    rawBodyExported := false }

def m3d2dApplyPlaceTransportExecution (record : OrderPathRecord)
    (execution : M3d2RealOrderEndpointTransportExecution) (outcomeTs : DateTimeUtc) :
    LifecycleAction M3d2dRealTransportLifecycleReport := do
  let applied ← Action.ofExcept (placeOutcome record execution outcomeTs)
  persistRecord applied.record
  pure (reportFromRecord .place applied execution.requestSent)

def m3d2dApplyCancelTransportExecution (record : OrderPathRecord) (approved : PreflightApprovedCancelOrder)
    (execution : M3d2RealOrderEndpointTransportExecution) (outcomeTs : DateTimeUtc) :
    LifecycleAction M3d2dRealTransportLifecycleReport := do
  let applied ← Action.ofExcept (cancelOutcome record approved execution outcomeTs)
  persistRecord applied.record
  pure (reportFromRecord .cancel applied execution.requestSent)

def recoverRecordAfterRestart (requestId : StrategyRequestId) (now : DateTimeUtc) : LifecycleAction PUnit := do
  let store ← get
  let record ← Action.ofExcept (orReject (store.getByRequestId requestId) (.missingOrderPathRecord requestId))
  let recovered ← Action.ofExcept ((record.recoverAfterRestart now).mapError .transition)
  persistRecord recovered

/-- The store, and the records that persisting a submit or a cancel handed out, the last first. -/
structure LifecycleState where
  store : InMemoryOrderPathStore
  submits : List OrderPathRecord
  cancels : List OrderPathRecord

def LifecycleState.initial : LifecycleState :=
  { store := .empty
    submits := []
    cancels := [] }

inductive LifecycleEvent where
  | insertIntent (order : PlaceOrder) (now : DateTimeUtc) (outgoingComment : Option OutgoingOrderComment)
  | persistPlace (approved : PreflightApprovedPlaceOrder) (beginTs : DateTimeUtc)
  | applyPlace (record : OrderPathRecord) (execution : M3d2RealOrderEndpointTransportExecution)
      (outcomeTs : DateTimeUtc)
  | persistCancel (approved : PreflightApprovedCancelOrder) (beginTs : DateTimeUtc)
  | applyCancel (record : OrderPathRecord) (approved : PreflightApprovedCancelOrder)
      (execution : M3d2RealOrderEndpointTransportExecution) (outcomeTs : DateTimeUtc)
  | recover (clientOrderId : ClientOrderId) (brokerOrderId : BrokerOrderId) (now : DateTimeUtc)
  | restart (requestId : StrategyRequestId) (now : DateTimeUtc)

def LifecycleState.after (state : LifecycleState) : LifecycleEvent → LifecycleState
  | .insertIntent order now outgoingComment =>
      { state with
        store := ((runInsertIntent (.fromPlaceOrder order now outgoingComment)).outcome state.store).2 }
  | .persistPlace approved beginTs =>
      match (m3d2dPersistPlaceBeginSubmit approved beginTs).outcome state.store with
      | (.ok record, store) => { state with store := store, submits := record :: state.submits }
      | (.error _, store) => { state with store := store }
  | .applyPlace record execution outcomeTs =>
      { state with store := ((m3d2dApplyPlaceTransportExecution record execution outcomeTs).outcome state.store).2 }
  | .persistCancel approved beginTs =>
      match (m3d2dPersistCancelRequest approved beginTs).outcome state.store with
      | (.ok record, store) => { state with store := store, cancels := record :: state.cancels }
      | (.error _, store) => { state with store := store }
  | .applyCancel record approved execution outcomeTs =>
      { state with
        store := ((m3d2dApplyCancelTransportExecution record approved execution outcomeTs).outcome state.store).2 }
  | .recover clientOrderId brokerOrderId now =>
      { state with store := ((recoverOrderPathByClientOrderId clientOrderId brokerOrderId now).outcome state.store).2 }
  | .restart requestId now =>
      { state with store := ((recoverRecordAfterRestart requestId now).outcome state.store).2 }

def CopyHandedOut (state : LifecycleState) : LifecycleEvent → Prop
  | .applyPlace record _ _ => record ∈ state.submits
  | .applyCancel record _ _ _ => record ∈ state.cancels
  | _ => True

instance (state : LifecycleState) : (event : LifecycleEvent) → Decidable (CopyHandedOut state event)
  | .applyPlace record _ _ => inferInstanceAs (Decidable (record ∈ state.submits))
  | .applyCancel record _ _ _ => inferInstanceAs (Decidable (record ∈ state.cancels))
  | .insertIntent .. | .persistPlace .. | .persistCancel .. | .recover .. | .restart .. => .isTrue trivial

end TradingGateway.FinamGateway.RealTransportLifecycle
