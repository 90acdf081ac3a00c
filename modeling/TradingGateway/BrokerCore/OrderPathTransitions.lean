import TradingGateway.BrokerCore.OrderPathProperties
import TradingGateway.Foundation.Triples

/-! The order-path state machine, and the store operations that load, change and
write a record back. -/

set_option autoImplicit false

namespace TradingGateway.BrokerCore.OrderPath

open Identifiers Orders
open Foundation.ExceptRun

inductive OrderPathEvent where
  | localReject
  | beginSubmit
  | submitAccepted
  | submitAcceptedWithoutBrokerOrderId
  | submitTimedOut
  | recoverByClientOrderId
  | requireManualIntervention
  | brokerReject
  | requestCancel
  | cancelAccepted
  | cancelRejected
  | cancelTimedOut
  | recoverCancelTerminal
  | markTerminal
deriving DecidableEq

inductive OrderPathTransitionError where
  | invalidTransition (state : OrderPathState) (event : OrderPathEvent)
deriving DecidableEq

def nextOrderPathState (state : OrderPathState) (event : OrderPathEvent) : Option OrderPathState :=
  match state, event with
  | .intentRecorded, .localReject => some .localRejected
  | .intentRecorded, .beginSubmit => some .submitInFlight
  | .submitInFlight, .submitAccepted => some .submitted
  | .submitInFlight, .submitAcceptedWithoutBrokerOrderId => some .submittedPendingBrokerOrderId
  | .submitInFlight, .submitTimedOut => some .timeoutUnknownPending
  | .submitInFlight, .requireManualIntervention => some .manualInterventionRequired
  | .timeoutUnknownPending, .recoverByClientOrderId => some .recoveredByClientOrderId
  | .submittedPendingBrokerOrderId, .recoverByClientOrderId => some .recoveredByClientOrderId
  | .submittedPendingBrokerOrderId, .requireManualIntervention => some .manualInterventionRequired
  | .timeoutUnknownPending, .requireManualIntervention => some .manualInterventionRequired
  | .submitInFlight, .brokerReject => some .brokerRejected
  | .submitted, .brokerReject => some .brokerRejected
  | .submitted, .requestCancel | .recoveredByClientOrderId, .requestCancel => some .cancelRequested
  | .cancelRequested, .cancelAccepted => some .cancelSubmitted
  | .cancelRequested, .cancelRejected | .cancelSubmitted, .cancelRejected => some .manualInterventionRequired
  | .cancelRequested, .requireManualIntervention
  | .cancelSubmitted, .requireManualIntervention => some .manualInterventionRequired
  | .cancelRequested, .cancelTimedOut
  | .cancelSubmitted, .cancelTimedOut => some .cancelTimeoutUnknownPending
  | .cancelTimeoutUnknownPending, .recoverCancelTerminal
  | .manualInterventionRequired, .recoverCancelTerminal => some .cancelRecoveredTerminal
  | .cancelTimeoutUnknownPending, .requireManualIntervention => some .manualInterventionRequired
  | .submitted, .markTerminal
  | .recoveredByClientOrderId, .markTerminal
  | .cancelRequested, .markTerminal
  | .cancelSubmitted, .markTerminal
  | .cancelTimeoutUnknownPending, .markTerminal
  | .cancelRecoveredTerminal, .markTerminal
  | .brokerRejected, .markTerminal
  | .localRejected, .markTerminal => some .terminal
  | _, _ => none

structure OutgoingOrderComment where
  value : String
  fingerprint : RedactedValueFingerprint

namespace OrderPathRecord

def fromPlaceOrder (order : PlaceOrder) (now : DateTimeUtc) (outgoingComment : Option OutgoingOrderComment) :
    OrderPathRecord :=
  { requestId := order.requestId
    clientOrderId := order.clientOrderId
    brokerOrderId := none
    commandKind := .place
    accountId := order.accountId
    instrument := order.instrument
    side := some order.side
    orderType := some order.orderType
    qty := some order.qty
    limitPrice := order.limitPrice
    timeInForce := some order.timeInForce
    createdTs := order.createdTs
    lastUpdateTs := now
    submitAttemptCount := 0
    cancelAttemptCount := 0
    state := .intentRecorded
    lastAckStatus := none
    lastErrorKind := none
    lastReconciliationSource := none
    outgoingCommentFingerprint := outgoingComment.map OutgoingOrderComment.fingerprint }

/-- What `transition` notes of its event, beside the state and the time. -/
def noteEvent (record : OrderPathRecord) : OrderPathEvent → OrderPathRecord
  | .beginSubmit =>
      { record with
        submitAttemptCount := record.submitAttemptCount + 1
        lastAckStatus := some .accepted }
  | .submitAccepted => { record with lastAckStatus := some .submitted }
  | .submitAcceptedWithoutBrokerOrderId =>
      { record with lastAckStatus := some .unknownPending, lastErrorKind := some .reconciliationRequired }
  | .submitTimedOut => { record with lastAckStatus := some .timeout, lastErrorKind := some .transportTimeout }
  | .recoverByClientOrderId =>
      { record with lastAckStatus := some .recovered, lastReconciliationSource := some .clientOrderId }
  | .localReject => { record with lastAckStatus := some .rejected, lastErrorKind := some .localValidation }
  | .brokerReject => { record with lastAckStatus := some .rejected, lastErrorKind := some .brokerRejected }
  | .requestCancel =>
      { record with
        cancelAttemptCount := record.cancelAttemptCount + 1
        lastAckStatus := some .accepted }
  | .cancelAccepted => { record with lastAckStatus := some .submitted }
  | .cancelRejected => { record with lastAckStatus := some .rejected, lastErrorKind := some .brokerRejected }
  | .cancelTimedOut => { record with lastAckStatus := some .timeout, lastErrorKind := some .transportTimeout }
  | .recoverCancelTerminal =>
      { record with lastAckStatus := some .recovered, lastReconciliationSource := some .orderSnapshot }
  | .requireManualIntervention =>
      { record with lastAckStatus := some .unknownPending, lastErrorKind := some .reconciliationRequired }
  | .markTerminal => record

def transition (record : OrderPathRecord) (event : OrderPathEvent) (now : DateTimeUtc) :
    Except OrderPathTransitionError OrderPathRecord := do
  let next ← orReject (nextOrderPathState record.state event) (.invalidTransition record.state event)
  pure { record.noteEvent event with
    state := next
    lastUpdateTs := now }

def recoverAfterRestart (record : OrderPathRecord) (now : DateTimeUtc) :
    Except OrderPathTransitionError OrderPathRecord :=
  if record.state = .submitInFlight then record.transition .submitTimedOut now else .ok record

variable {record next : OrderPathRecord} {event : OrderPathEvent} {now : DateTimeUtc}

theorem transition_ok_iff : record.transition event now = .ok next ↔
    ∃ state, nextOrderPathState record.state event = some state ∧
      { record.noteEvent event with state := state, lastUpdateTs := now } = next := by
  unfold transition
  simp

@[simp] theorem noteEvent_requestId : (record.noteEvent event).requestId = record.requestId := by
  cases event <;> rfl

@[simp] theorem noteEvent_clientOrderId : (record.noteEvent event).clientOrderId = record.clientOrderId := by
  cases event <;> rfl

@[simp] theorem noteEvent_brokerOrderId : (record.noteEvent event).brokerOrderId = record.brokerOrderId := by
  cases event <;> rfl

@[simp] theorem noteEvent_submitAttemptCount : (record.noteEvent event).submitAttemptCount =
    if event = .beginSubmit then record.submitAttemptCount + 1 else record.submitAttemptCount := by
  cases event <;> rfl

@[simp] theorem noteEvent_cancelAttemptCount : (record.noteEvent event).cancelAttemptCount =
    if event = .requestCancel then record.cancelAttemptCount + 1 else record.cancelAttemptCount := by
  cases event <;> rfl

end OrderPathRecord

inductive OrderPathReconciliationError where
  | recordNotFoundByClientOrderId (clientOrderId : ClientOrderId)
  | brokerOrderIdMismatch (requestId : StrategyRequestId)
  | stateNotRecoverableByClientOrderId (requestId : StrategyRequestId) (state : OrderPathState)
  | store (error : OrderPathStoreError)
  | transition (error : OrderPathTransitionError)
deriving DecidableEq

end TradingGateway.BrokerCore.OrderPath
