import TradingGateway.BrokerCore.DecimalArithmetic
import TradingGateway.BrokerFinam.Mapper
import Mathlib.Data.List.Infix

/-! The FINAM reference data of an instrument, in three responses, and the instrument spec that
the mapper makes of it. -/

set_option autoImplicit false

namespace TradingGateway.BrokerFinam.ReferenceData

open BrokerCore.FixedPoint BrokerCore.OperationalSnapshot BrokerCore.Orders
open Mapper Foundation.ExceptRun

inductive DecimalLike where
  | value (value : DecimalValue)
  | string (value : String)

structure MoneyAmount where
  currencyCode : String
  units : String
  nanos : Int32

structure FutureDetails where
  contractSize : Option DecimalValue
  expirationDate : Option String
  lastTradeDate : Option String
  lotSize : Option DecimalValue
  minStep : Option DecimalLike
  stepPrice : Option DecimalLike

structure AssetResponse where
  board : Option String
  futureDetails : Option FutureDetails
  id : Option String
  lotSize : Option DecimalValue
  mic : Option String
  minStep : Option DecimalLike
  quoteCurrency : Option String
  ticker : Option String
  assetType : Option String

structure AssetParamsResponse where
  accountId : Option String
  isTradable : Option Bool
  longInitialMargin : Option MoneyAmount
  shortInitialMargin : Option MoneyAmount
  symbol : String
  tradeable : Option Bool

structure TimeInterval where
  startTime : Option String
  endTime : Option String

structure ScheduleSession where
  interval : Option TimeInterval

structure AssetScheduleResponse where
  sessions : List ScheduleSession
  symbol : String

inductive FinamMapperHalt where
  | rejected (error : FinamMapperError)
  | panicked
deriving DecidableEq

def computed (result : Option Decimal) : Except FinamMapperHalt Decimal :=
  orReject result .panicked

/-- `str::contains`. -/
def contains (text part : String) : Bool :=
  part.toList <:+: text.toList

structure ReferenceDataCodec extends MapperCodec where
  parseNaiveDate : String → Option NaiveDate

section Amounts

variable (codec : MapperCodec)

/-- `Decimal::from_i128_with_scale(nanos, 9)`. -/
def nanosDecimal (nanos : Int32) : Decimal :=
  { negative := nanos.toInt < 0
    magnitude := nanos.toInt.natAbs
    scale := 9
    magnitudeBound := by
      have below := nanos.toInt_lt
      have above := nanos.le_toInt
      omega
    scaleBound := by decide }

def moneyAmount (field : String) (value : MoneyAmount) : Except FinamMapperHalt Decimal := do
  let units ← (decimalValue codec field { value := value.units }).mapError .rejected
  computed (units.checkedAdd (nanosDecimal value.nanos))

def decimalLike (field : String) : DecimalLike → Except FinamMapperError Decimal
  | .value value => decimalValue codec field value
  | .string value => decimalValue codec field { value := value }

def assetPriceStep (asset : AssetResponse) : Except FinamMapperError Decimal := do
  let step ← orReject ((asset.futureDetails.bind (·.minStep)).or asset.minStep) (.missingField "asset.min_step")
  decimalLike codec "asset.min_step" step

def assetLotSize (asset : AssetResponse) : Except FinamMapperError Decimal := do
  let lot ← orReject ((asset.futureDetails.bind (·.lotSize)).or asset.lotSize) (.missingField "asset.lot_size")
  decimalValue codec "asset.lot_size" lot

def stepMultiplier (asset : AssetResponse) : Except FinamMapperError Decimal :=
  match asset.futureDetails.bind (·.contractSize) with
  | some contractSize => decimalValue codec "asset.future_details.contract_size" contractSize
  | none =>
      match asset.futureDetails.bind (·.lotSize) with
      | some futureLotSize => decimalValue codec "asset.future_details.lot_size" futureLotSize
      | none =>
          match asset.lotSize with
          | some lotSize => decimalValue codec "asset.lot_size" lotSize
          | none => .error (.missingField "asset.future_details.step_price")

def assetStepValue (asset : AssetResponse) (priceStep : Decimal) : Except FinamMapperHalt Decimal :=
  match asset.futureDetails.bind (·.stepPrice) with
  | some stepPrice => (decimalLike codec "asset.future_details.step_price" stepPrice).mapError .rejected
  | none => do
      let multiplier ← (stepMultiplier codec asset).mapError .rejected
      computed (priceStep.checkedMul multiplier)

end Amounts

def exchangeFromMic (mic : String) : Exchange :=
  if mic ∈ ["RTSX", "MISX", "MOEX"] then .moex else .other mic

def marketFromAssetType : Option String → Market
  | some value =>
      if contains value "FUT" then .futures
      else if contains value "OPTION" then .options
      else if contains value "STOCK" || contains value "SHARE" then .stocks
      else if contains value "CURRENC" || contains value "FOREX" then .currency
      else if contains value "FUND" then .funds
      else .other value
  | none => .other "unknown"

section Spec

variable (codec : ReferenceDataCodec)

def parseDate (field value : String) : Except FinamMapperError NaiveDate :=
  orReject (codec.parseNaiveDate value) (.invalidTimestamp field (redactCoreValue codec.toMapperCodec value))

def expirationText (asset : AssetResponse) : Option String :=
  asset.futureDetails.bind fun future => future.expirationDate.or future.lastTradeDate

def mapFinamInstrumentSpec (asset : AssetResponse) (params : AssetParamsResponse)
    (schedule : AssetScheduleResponse) : Except FinamMapperHalt BrokerInstrumentSpec := do
  let ticker ← orReject asset.ticker (.rejected (.missingField "asset.ticker"))
  let mic ← orReject asset.mic (.rejected (.missingField "asset.mic"))
  let venueSymbol := ticker ++ "@" ++ mic
  rejectIf (params.symbol ≠ venueSymbol) (.rejected (.unsupportedBrokerValue "asset_params.symbol"
    (redactCoreValue codec.toMapperCodec params.symbol)))
  rejectIf (schedule.symbol ≠ venueSymbol) (.rejected (.unsupportedBrokerValue "asset_schedule.symbol"
    (redactCoreValue codec.toMapperCodec schedule.symbol)))
  let priceStep ← (assetPriceStep codec.toMapperCodec asset).mapError .rejected
  let lotSize ← (assetLotSize codec.toMapperCodec asset).mapError .rejected
  let stepValue ← assetStepValue codec.toMapperCodec asset priceStep
  let currency ← orReject asset.quoteCurrency (.rejected (.missingField "asset.quote_currency"))
  let expirationDate ← ((expirationText asset).mapM (parseDate codec "asset.future_details.expiration_date")).mapError
    .rejected
  let longInitialMargin ← params.longInitialMargin.mapM
    (moneyAmount codec.toMapperCodec "asset_params.long_initial_margin")
  let shortInitialMargin ← params.shortInitialMargin.mapM
    (moneyAmount codec.toMapperCodec "asset_params.short_initial_margin")
  .ok {
    instrument := {
      internalSymbol := ticker
      broker := .finam
      brokerSymbol := venueSymbol
      exchange := exchangeFromMic mic
      market := marketFromAssetType asset.assetType
      priceStep := priceStep
      qtyStep := Decimal.ofNat 1 Decimal.one_fits
      lotSize := lotSize
      minQty := Decimal.ofNat 1 Decimal.one_fits
      stepValue := stepValue
      currency := currency
      scheduleId := asset.board.getD mic
      expirationDate := expirationDate
      isTradable := (params.tradeable.or params.isTradable).getD false }
    brokerAssetId := asset.id
    board := asset.board
    longInitialMargin := longInitialMargin
    shortInitialMargin := shortInitialMargin }

end Spec

/-- `Decimal::from_str` on a whole number. -/
def wholeFromStr (text : String) : Option Decimal :=
  let value := text.toList.foldl (fun value digit => 10 * value + (digit.toNat - 48)) 0
  if text.toList ≠ [] ∧ text.toList.all Char.isDigit then
    if bound : value < 2 ^ 96 then some (Decimal.ofNat value bound) else none
  else none

def wholeNumberCodec : ReferenceDataCodec where
  decimalFromStr := wholeFromStr
  parseFromRfc3339 := fun _ => none
  sha256Hex := id
  parseNaiveDate := fun _ => none

end TradingGateway.BrokerFinam.ReferenceData
