import Std.Data.ExtTreeMap
import TradingGateway.BrokerCore.Orders
import TradingGateway.Foundation.ExceptRun
import TradingGateway.Foundation.OrderedMap

/-! Order-path records and the in-memory store that indexes them by request,
client and broker order id. -/

set_option autoImplicit false

namespace TradingGateway.BrokerCore.OrderPath

open FixedPoint Identifiers Orders
open Foundation.ExceptRun Foundation.OrderedMap

inductive OrderPathCommandKind where
  | place
  | cancel
deriving DecidableEq

inductive OrderPathState where
  | intentRecorded
  | localRejected
  | submitInFlight
  | submitted
  | submittedPendingBrokerOrderId
  | timeoutUnknownPending
  | recoveredByClientOrderId
  | brokerRejected
  | cancelRequested
  | cancelSubmitted
  | cancelTimeoutUnknownPending
  | cancelRecoveredTerminal
  | terminal
  | manualInterventionRequired
deriving DecidableEq

inductive OrderPathErrorKind where
  | localValidation
  | brokerRejected
  | transportTimeout
  | rateLimited
  | brokerMaintenance
  | responseDecodeError
  | unauthorized
  | reconciliationRequired
  | durableStoreUnavailable
  | unknown
deriving DecidableEq

inductive OrderPathReconciliationSource where
  | clientOrderId
  | brokerOrderId
  | orderSnapshot
  | tradeSnapshot
  | manualOperator
deriving DecidableEq

structure RedactedValueFingerprint where
  len : Nat
  sha256 : String
deriving DecidableEq

structure OrderPathRecord where
  requestId : StrategyRequestId
  clientOrderId : ClientOrderId
  brokerOrderId : Option BrokerOrderId
  commandKind : OrderPathCommandKind
  accountId : BrokerAccountId
  instrument : InstrumentId
  side : Option OrderSide
  orderType : Option BrokerCore.Orders.OrderType
  qty : Option Quantity
  limitPrice : Option Price
  timeInForce : Option TimeInForce
  createdTs : DateTimeUtc
  lastUpdateTs : DateTimeUtc
  submitAttemptCount : UInt32
  cancelAttemptCount : UInt32
  state : OrderPathState
  lastAckStatus : Option CommandAckStatus
  lastErrorKind : Option OrderPathErrorKind
  lastReconciliationSource : Option OrderPathReconciliationSource
  outgoingCommentFingerprint : Option RedactedValueFingerprint
deriving DecidableEq

inductive OrderPathStoreError where
  | duplicateStrategyRequestId (requestId : StrategyRequestId)
  | duplicateClientOrderId (clientOrderId : ClientOrderId)
  | duplicateBrokerOrderId (brokerOrderId : BrokerOrderId)
  | recordNotFound (requestId : StrategyRequestId)
  | clientOrderIdChanged (requestId : StrategyRequestId)
  | brokerOrderIdChanged (requestId : StrategyRequestId)
  | terminalStateOverwrite (requestId : StrategyRequestId)
  | updatedTimestampRegressed (requestId : StrategyRequestId)
  | io (error : String)
  | sqlite (error : String)
  | serialization (error : String)
deriving DecidableEq

/-- `is_terminal_order_path_state`. -/
def OrderPathState.IsTerminal (state : OrderPathState) : Prop :=
  state ∈ [.terminal, .cancelRecoveredTerminal, .localRejected, .brokerRejected]

instance (state : OrderPathState) : Decidable state.IsTerminal :=
  inferInstanceAs (Decidable (state ∈ _))

def clientKey (clientOrderId : ClientOrderId) : List Char :=
  clientOrderId.value.toList

def brokerKey (brokerOrderId : BrokerOrderId) : List Char :=
  brokerOrderId.value.toList

structure InMemoryOrderPathStore where
  byRequestId : Std.ExtTreeMap (List Char) OrderPathRecord
  requestByClientId : Std.ExtTreeMap (List Char) StrategyRequestId
  requestByBrokerId : Std.ExtTreeMap (List Char) StrategyRequestId

namespace InMemoryOrderPathStore

/-- `InMemoryOrderPathStore::default`. -/
def empty : InMemoryOrderPathStore :=
  { byRequestId := ∅
    requestByClientId := ∅
    requestByBrokerId := ∅ }

variable (store : InMemoryOrderPathStore)

def getByRequestId (requestId : StrategyRequestId) : Option OrderPathRecord :=
  store.byRequestId[requestId.toText]?

def getByClientOrderId (clientOrderId : ClientOrderId) : Option OrderPathRecord :=
  store.requestByClientId[clientKey clientOrderId]?.bind store.getByRequestId

/-- The broker id index with the id of `record`, where it has one. -/
def withBrokerId (record : OrderPathRecord) : Std.ExtTreeMap (List Char) StrategyRequestId :=
  match record.brokerOrderId with
  | some brokerOrderId => store.requestByBrokerId.insert (brokerKey brokerOrderId) record.requestId
  | none => store.requestByBrokerId

def insertIntent (record : OrderPathRecord) : Except OrderPathStoreError InMemoryOrderPathStore := do
  rejectIf (store.byRequestId.contains record.requestId.toText)
    (.duplicateStrategyRequestId record.requestId)
  rejectIf (store.requestByClientId.contains (clientKey record.clientOrderId))
    (.duplicateClientOrderId record.clientOrderId)
  match record.brokerOrderId with
  | some brokerOrderId =>
      rejectIf (store.requestByBrokerId.contains (brokerKey brokerOrderId)) (.duplicateBrokerOrderId brokerOrderId)
  | none => pure ()
  pure {
    byRequestId := store.byRequestId.insert record.requestId.toText record
    requestByClientId := store.requestByClientId.insert (clientKey record.clientOrderId) record.requestId
    requestByBrokerId := store.withBrokerId record }

def checkBrokerOrderId (existing record : OrderPathRecord) : Except OrderPathStoreError Unit :=
  match existing.brokerOrderId, record.brokerOrderId with
  | some existingId, some newId => rejectIf (existingId ≠ newId) (.brokerOrderIdChanged record.requestId)
  | some _, none => .error (.brokerOrderIdChanged record.requestId)
  | none, some newId =>
      rejectIf (∃ mapped ∈ store.requestByBrokerId[brokerKey newId]?, mapped ≠ record.requestId)
        (.duplicateBrokerOrderId newId)
  | none, none => .ok ()

def updateRecord (record : OrderPathRecord) : Except OrderPathStoreError InMemoryOrderPathStore := do
  let existing ← orReject (store.getByRequestId record.requestId) (.recordNotFound record.requestId)
  rejectIf (existing.clientOrderId ≠ record.clientOrderId) (.clientOrderIdChanged record.requestId)
  store.checkBrokerOrderId existing record
  rejectIf (existing.state.IsTerminal ∧ ¬ record.state.IsTerminal) (.terminalStateOverwrite record.requestId)
  rejectIf (existing.lastUpdateTs.After record.lastUpdateTs) (.updatedTimestampRegressed record.requestId)
  pure { store with
    byRequestId := store.byRequestId.insert record.requestId.toText record
    requestByBrokerId :=
      if existing.brokerOrderId = none then store.withBrokerId record else store.requestByBrokerId }

/-- All records. A hash map hands them out in no particular order, and every reader
here sorts them by request id; the map keeps them in that order. -/
def allRecords : List OrderPathRecord :=
  intoValues store.byRequestId

end InMemoryOrderPathStore

end TradingGateway.BrokerCore.OrderPath
