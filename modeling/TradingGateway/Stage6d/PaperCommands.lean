import TradingGateway.BrokerCore.Commands
import TradingGateway.Stage5g.OrderPosition
import TradingGateway.Stage6d.LiveCoreErrors

/-! What the paper execution of a command answers, and the receipt under which it is dispatched. -/

set_option autoImplicit false

namespace TradingGateway.Stage6d.LiveCore

open BrokerCore.Identifiers

inductive Stage6dPaperOutcome where
  | marketFilled (brokerOrderId : BrokerOrderId) (brokerTradeId : BrokerTradeId)
  | limitPending (brokerOrderId : BrokerOrderId)
  | limitExpired (brokerOrderId : BrokerOrderId)
  | limitFilled (brokerOrderId : BrokerOrderId) (brokerTradeId : BrokerTradeId)
  | placeBrokerOrderFound (brokerOrderId : BrokerOrderId)
  | placeNoBrokerOrderFound
  | inconclusive
  | cancelCanceled
  | cancelExecutionObserved
  | cancelRejected
  | cancelAlreadyTerminalNonExecution
deriving DecidableEq

end TradingGateway.Stage6d.LiveCore

namespace TradingGateway.Stage6d.PaperCommands

open Stage6.DurableIdentity Stage6.JournalRecord

structure Stage6dPaperDispatchReceipt where
  identity : Stage6DurableRequestIdentityV1
  commandSnapshot : Stage6DurableCommandSnapshotV1
  acceptedCommandPayloadSha256 : Stage6Sha256Digest
  dispatchRecordId : Stage6JournalRecordId
  dispatchSequence : Stage6LifecycleSequence
  durableFrontierSha256 : HexText

end TradingGateway.Stage6d.PaperCommands
