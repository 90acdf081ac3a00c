import TradingGateway.BrokerFinam.ReferenceData

/-! The FINAM account, its orders and its trades, mapped to one snapshot of the account. -/

set_option autoImplicit false

namespace TradingGateway.BrokerFinam.BrokerTruth

open BrokerCore.FixedPoint BrokerCore.Identifiers BrokerCore.OperationalSnapshot BrokerCore.Orders
open Mapper ReferenceData Foundation.ExceptRun

structure PortfolioMarginCall where
  availableCash : Option DecimalValue
  initialMargin : Option DecimalValue
  maintenanceMargin : Option DecimalValue

structure AccountPosition where
  assetType : Option String
  averagePrice : Option DecimalValue
  avgPrice : Option DecimalValue
  balance : Option DecimalValue
  quantity : Option DecimalValue
  symbol : Option String
  unrealizedProfit : Option DecimalValue

structure AccountResponse where
  accountId : String
  cash : List MoneyAmount
  equity : Option DecimalValue
  portfolioMc : Option PortfolioMarginCall
  positions : List AccountPosition

structure AccountOrdersResponse where
  orders : List OrderState

structure AccountTrade where
  tradeId : Option String
  orderId : Option String
  clientOrderId : Option String
  accountId : Option String
  symbol : Option String
  side : Option String
  price : Option DecimalValue
  quantity : Option DecimalValue
  size : Option DecimalValue
  amount : Option DecimalValue
  commission : Option MoneyAmount
  timestamp : Option String
  transactAt : Option String

structure AccountTradesResponse where
  trades : List AccountTrade

structure FinamInstrumentSpecArtifacts where
  asset : AssetResponse
  params : AssetParamsResponse
  schedule : AssetScheduleResponse

structure Position where
  accountId : BrokerAccountId
  instrument : InstrumentId
  qty : Quantity
  avgPrice : Option Price
  unrealizedPnl : Option Decimal
  sourceTs : Option DateTimeUtc

structure Trade where
  accountId : BrokerAccountId
  tradeId : BrokerTradeId
  orderId : Option BrokerOrderId
  clientOrderId : Option ClientOrderId
  brokerClientOrderIdFingerprint : Option RedactedValueFingerprint
  instrument : InstrumentId
  side : OrderSide
  qty : Quantity
  price : Price
  grossAmount : Option Decimal
  commission : Option Decimal
  sourceTs : DateTimeUtc
  receivedTs : DateTimeUtc

section Rows

variable (codec : MapperCodec)

def mapAccountPosition (accountId : String) (position : AccountPosition) : Except FinamMapperError Position := do
  let symbol ← orReject position.symbol (.missingField "position.symbol")
  let qty ← requiredDecimal codec "position.quantity" (position.quantity.or position.balance)
  let avgPrice ← optionalDecimal codec "position.average_price" (position.averagePrice.or position.avgPrice)
  let unrealizedPnl ← optionalDecimal codec "position.unrealized_profit" position.unrealizedProfit
  .ok {
    accountId := ⟨accountId⟩
    instrument := instrumentIdFromSymbol symbol position.assetType
    qty := qty
    avgPrice := avgPrice
    unrealizedPnl := unrealizedPnl
    sourceTs := none }

def mapAccountPositionToBrokerPosition (accountId : String) (position : AccountPosition) (receivedTs : DateTimeUtc) :
    Except FinamMapperError BrokerPositionSnapshot := do
  let mapped ← mapAccountPosition codec accountId position
  .ok {
    accountId := mapped.accountId
    instrument := mapped.instrument
    qty := mapped.qty
    avgPrice := mapped.avgPrice
    unrealizedPnl := mapped.unrealizedPnl
    sourceTs := mapped.sourceTs
    receivedTs := receivedTs }

def mapCashRow (cash : MoneyAmount) : Except FinamMapperHalt CashPosition := do
  let amount ← moneyAmount codec "cash" cash
  .ok { currency := cash.currencyCode, amount := amount }

def mapAccountFigures (account : AccountResponse) (cash : List CashPosition) (receivedTs : DateTimeUtc) :
    Except FinamMapperError BrokerCashSnapshot := do
  let equity ← optionalDecimal codec "account.equity" account.equity
  let freeCash ← optionalDecimal codec "account.portfolio_mc.available_cash"
    (account.portfolioMc.bind (·.availableCash))
  let initialMargin ← optionalDecimal codec "account.portfolio_mc.initial_margin"
    (account.portfolioMc.bind (·.initialMargin))
  let maintenanceMargin ← optionalDecimal codec "account.portfolio_mc.maintenance_margin"
    (account.portfolioMc.bind (·.maintenanceMargin))
  .ok {
    accountId := ⟨account.accountId⟩
    cash := cash
    equity := equity
    freeCash := freeCash
    initialMargin := initialMargin
    maintenanceMargin := maintenanceMargin
    sourceTs := none
    receivedTs := receivedTs }

def mapAccountCashSnapshot (account : AccountResponse) (receivedTs : DateTimeUtc) :
    Except FinamMapperHalt BrokerCashSnapshot := do
  let cash ← account.cash.mapM (mapCashRow codec)
  (mapAccountFigures codec account cash receivedTs).mapError .rejected

def mapBrokerTradeId (field value : String) : Except FinamMapperError BrokerTradeId :=
  match BrokerTradeId.fromBrokerNativeExact value with
  | some id => .ok id
  | none => unsupportedValue codec field value

/-- What a trade is read for before its commission, in the order of `map_account_trade`. -/
structure TradeHead where
  tradeId : BrokerTradeId
  orderId : Option BrokerOrderId
  symbol : String
  side : OrderSide
  timestamp : String
  qty : Quantity
  price : Price
  grossAmount : Option Decimal

def mapTradeHead (trade : AccountTrade) : Except FinamMapperError TradeHead := do
  let tradeId ← orReject trade.tradeId (.missingField "trade.trade_id")
  let symbol ← orReject trade.symbol (.missingField "trade.symbol")
  let side ← orReject trade.side (.missingField "trade.side")
  let timestamp ← orReject (trade.timestamp.or trade.transactAt) (.missingField "trade.timestamp")
  let tradeId ← mapBrokerTradeId codec "trade.trade_id" tradeId
  let orderId ← mapOptionalBrokerOrderId codec "trade.order_id" trade.orderId
  let side ← mapSide codec side
  let qty ← requiredDecimal codec "trade.quantity" (trade.quantity.or trade.size)
  let price ← requiredDecimal codec "trade.price" trade.price
  let grossAmount ← optionalDecimal codec "trade.amount" trade.amount
  .ok {
    tradeId := tradeId
    orderId := orderId
    symbol := symbol
    side := side
    timestamp := timestamp
    qty := qty
    price := price
    grossAmount := grossAmount }

def mapAccountTrade (accountId : String) (trade : AccountTrade) (receivedTs : DateTimeUtc) :
    Except FinamMapperHalt Trade := do
  let head ← (mapTradeHead codec trade).mapError .rejected
  let commission ← trade.commission.mapM (moneyAmount codec "trade.commission")
  let sourceTs ← (parseTimestamp codec "trade.timestamp" head.timestamp).mapError .rejected
  .ok {
    accountId := ⟨trade.accountId.getD accountId⟩
    tradeId := head.tradeId
    orderId := head.orderId
    clientOrderId := trade.clientOrderId.bind mapClientOrderIdIfCoreSafe
    brokerClientOrderIdFingerprint := trade.clientOrderId.map (redactCoreValue codec)
    instrument := instrumentIdFromSymbol head.symbol none
    side := head.side
    qty := head.qty
    price := head.price
    grossAmount := head.grossAmount
    commission := commission
    sourceTs := sourceTs
    receivedTs := receivedTs }

def mapAccountTradeToBrokerTradeSnapshot (accountId : String) (receivedTs : DateTimeUtc) (trade : AccountTrade) :
    Except FinamMapperHalt BrokerTradeSnapshot := do
  let mapped ← mapAccountTrade codec accountId trade receivedTs
  .ok {
    accountId := mapped.accountId
    brokerTradeId := mapped.tradeId
    brokerOrderId := mapped.orderId
    clientOrderId := mapped.clientOrderId
    instrument := mapped.instrument
    side := mapped.side
    qty := mapped.qty
    price := mapped.price
    grossAmount := mapped.grossAmount
    commission := mapped.commission
    brokerAssetId := none
    board := none
    expirationDate := none
    sourceTs := mapped.sourceTs
    receivedTs := mapped.receivedTs }

end Rows

/-- A trade whose instrument is one registered spec takes over what the spec knows of it. -/
def enrichTradeIdentity (instruments : List BrokerInstrumentSpec) (trade : BrokerTradeSnapshot) : BrokerTradeSnapshot :=
  match instruments.filter (·.matchesInstrumentId trade.instrument) with
  | [spec] =>
      { trade with
        brokerAssetId := spec.brokerAssetId
        board := spec.board
        expirationDate := spec.instrument.expirationDate }
  | _ => trade

def enrichTradeIdentitiesFromInstrumentSpecs (trades : List BrokerTradeSnapshot)
    (instruments : List BrokerInstrumentSpec) : List BrokerTradeSnapshot :=
  trades.map (enrichTradeIdentity instruments)

section Snapshot

variable (codec : ReferenceDataCodec)

def mapArtifacts (artifacts : FinamInstrumentSpecArtifacts) : Except FinamMapperHalt BrokerInstrumentSpec :=
  mapFinamInstrumentSpec codec artifacts.asset artifacts.params artifacts.schedule

def mapPositions (account : AccountResponse) (receivedTs : DateTimeUtc) :
    Except FinamMapperError (List BrokerPositionSnapshot) :=
  account.positions.mapM fun position =>
    mapAccountPositionToBrokerPosition codec.toMapperCodec account.accountId position receivedTs

def mapOrders (orders : AccountOrdersResponse) (receivedTs : DateTimeUtc) :
    Except FinamMapperError (List BrokerOrderSnapshot) :=
  orders.orders.mapM fun order => mapOrderStateToBrokerOrderSnapshot codec.toMapperCodec order receivedTs

def tradeRows (trades : Option AccountTradesResponse) : List AccountTrade :=
  (trades.map (·.trades)).getD []

def mapTrades (account : AccountResponse) (trades : Option AccountTradesResponse) (receivedTs : DateTimeUtc) :
    Except FinamMapperHalt (List BrokerTradeSnapshot) :=
  (tradeRows trades).mapM (mapAccountTradeToBrokerTradeSnapshot codec.toMapperCodec account.accountId receivedTs)

def mapFinamBrokerTruthSnapshotWithReadonlyArtifacts (account : AccountResponse) (orders : AccountOrdersResponse)
    (trades : Option AccountTradesResponse) (instruments : List FinamInstrumentSpecArtifacts)
    (receivedTs : DateTimeUtc) : Except FinamMapperHalt BrokerTruthSnapshot := do
  let positions ← (mapPositions codec account receivedTs).mapError .rejected
  let orders ← (mapOrders codec orders receivedTs).mapError .rejected
  let cash ← mapAccountCashSnapshot codec.toMapperCodec account receivedTs
  let trades ← mapTrades codec account trades receivedTs
  let instruments ← instruments.mapM (mapArtifacts codec)
  .ok {
    accountId := ⟨account.accountId⟩
    orders := enrichOrderIdentitiesFromInstrumentSpecs orders instruments
    positions := positions
    cash := some cash
    trades := enrichTradeIdentitiesFromInstrumentSpecs trades instruments
    instruments := instruments
    receivedTs := receivedTs }

end Snapshot

end TradingGateway.BrokerFinam.BrokerTruth
