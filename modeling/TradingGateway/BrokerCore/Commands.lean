import TradingGateway.BrokerCore.Orders

/-! The two broker commands as one message, and the envelope that carries messages. -/

set_option autoImplicit false

namespace TradingGateway.BrokerCore.Commands

open Identifiers Orders

def schemaVersion : UInt16 := 2

inductive BrokerCommand where
  | placeOrder (command : PlaceOrder)
  | cancelOrder (command : CancelOrder)

namespace BrokerCommand

def requestId : BrokerCommand → StrategyRequestId
  | .placeOrder command => command.requestId
  | .cancelOrder command => command.requestId

end BrokerCommand

end TradingGateway.BrokerCore.Commands
