import TradingGateway.Stage6.PlainScheduleCodec
import TradingGateway.Stage6d.PaperCommands

/-! The plain codec for paper commands. -/

set_option autoImplicit false

namespace TradingGateway.Stage6d.PlainLiveCoreCodec

open BrokerCore.Commands BrokerCore.Orders
open Stage6.PlainCodec
open Foundation.Bytes

def plainPlaceOrder (command : PlaceOrder) : List UInt8 :=
  command.requestId.uuid.toList ++ plainText command.clientOrderId.value ++ plainText command.accountId.value ++
    plainInstrument command.instrument ++ plainTag command.side.ctorIdx ++ plainTag command.orderType.ctorIdx ++
    plainDecimal command.qty ++ plainOption plainDecimal command.limitPrice ++ plainTag command.timeInForce.ctorIdx ++
    plainOption (fun ttl => toBigEndian 8 ttl.toNat) command.ttlMs ++ plainTime command.createdTs ++
    plainOption plainText command.comment

def plainCancelOrder (command : CancelOrder) : List UInt8 :=
  command.requestId.uuid.toList ++ plainText command.accountId.value ++ plainText command.orderId.value ++
    plainOption (fun target => plainText target.value) command.clientOrderId ++
    plainOption (fun ttl => toBigEndian 8 ttl.toNat) command.ttlMs ++ plainTime command.createdTs

def plainBrokerCommand : BrokerCommand → List UInt8
  | .placeOrder command => plainTag 0 ++ plainPlaceOrder command
  | .cancelOrder command => plainTag 1 ++ plainCancelOrder command

end TradingGateway.Stage6d.PlainLiveCoreCodec
