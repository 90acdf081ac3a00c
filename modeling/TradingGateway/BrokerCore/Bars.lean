import TradingGateway.BrokerCore.Timestamps

/-! Market data bars. -/

set_option autoImplicit false

namespace TradingGateway.BrokerCore.Bars

open FixedPoint Orders

inductive MarketDataSourceKind where
  | unknown
  | historicalPoll
  | readOnlyPoll
  | liveStream
  | recovery
deriving DecidableEq

structure Bar where
  instrument : InstrumentId
  sourceKind : MarketDataSourceKind
  timeframeSec : UInt32
  openTs : DateTimeUtc
  closeTs : DateTimeUtc
  «open» : Price
  high : Price
  low : Price
  close : Price
  volume : Quantity
  isFinal : Bool
deriving DecidableEq

end TradingGateway.BrokerCore.Bars
