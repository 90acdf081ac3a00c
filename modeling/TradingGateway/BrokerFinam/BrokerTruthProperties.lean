import TradingGateway.BrokerCore.SnapshotQueries
import TradingGateway.BrokerFinam.BrokerTruth

/-! Which account data are ingested without an overflow, and asked without one. -/

set_option autoImplicit false

namespace TradingGateway.BrokerFinam.BrokerTruth

open BrokerCore.FixedPoint BrokerCore.OperationalSnapshot BrokerCore.Orders
open Mapper ReferenceData Foundation.ExceptRun

section Conditions

/-- An amount whose units can be read is within range with its nanos. -/
def AmountFits (codec : MapperCodec) (value : MoneyAmount) : Prop :=
  ∀ units, codec.decimalFromStr value.units = some units →
    WithinRange (units.units + (nanosDecimal value.nanos).units) 28

/-- The step value, where it is the product of the step and a multiplier, is within range. -/
def StepValueFits (codec : MapperCodec) (asset : AssetResponse) (priceStep : Decimal) : Prop :=
  asset.futureDetails.bind (·.stepPrice) = none → ∀ multiplier, stepMultiplier codec asset = .ok multiplier →
    WithinRange (priceStep.units * multiplier.units) 56

def TradeFits (codec : MapperCodec) (trade : AccountTrade) : Prop :=
  Reads (mapTradeHead codec trade) → ∀ commission ∈ trade.commission, AmountFits codec commission

structure SpecHead (codec : MapperCodec) (artifacts : FinamInstrumentSpecArtifacts) (priceStep : Decimal) : Prop where
  symbols : ∃ ticker mic, artifacts.asset.ticker = some ticker ∧ artifacts.asset.mic = some mic ∧
    artifacts.params.symbol = ticker ++ "@" ++ mic ∧ artifacts.schedule.symbol = ticker ++ "@" ++ mic
  priceStep : assetPriceStep codec artifacts.asset = .ok priceStep
  lotSize : Reads (assetLotSize codec artifacts.asset)

structure SpecBody (codec : ReferenceDataCodec) (asset : AssetResponse) (priceStep : Decimal) : Prop where
  stepValue : Reads (assetStepValue codec.toMapperCodec asset priceStep)
  currency : asset.quoteCurrency.isSome = true
  expirationDate : Reads ((expirationText asset).mapM (parseDate codec "asset.future_details.expiration_date"))

structure SpecFits (codec : ReferenceDataCodec) (artifacts : FinamInstrumentSpecArtifacts) : Prop where
  stepValue : ∀ priceStep, SpecHead codec.toMapperCodec artifacts priceStep →
    StepValueFits codec.toMapperCodec artifacts.asset priceStep
  longMargin : ∀ priceStep, SpecHead codec.toMapperCodec artifacts priceStep →
    SpecBody codec artifacts.asset priceStep →
      ∀ amount ∈ artifacts.params.longInitialMargin, AmountFits codec.toMapperCodec amount
  shortMargin : ∀ priceStep, SpecHead codec.toMapperCodec artifacts priceStep →
    SpecBody codec artifacts.asset priceStep →
      Reads (artifacts.params.longInitialMargin.mapM
        (moneyAmount codec.toMapperCodec "asset_params.long_initial_margin")) →
      ∀ amount ∈ artifacts.params.shortInitialMargin, AmountFits codec.toMapperCodec amount

end Conditions

section Amounts

variable {codec : MapperCodec}

theorem avoids_computed_iff {result : Option Decimal} :
    Avoids .panicked (computed result) ↔ result.isSome = true :=
  avoids_orReject_iff

theorem avoids_rejected {Value : Type} {source : Except FinamMapperError Value} :
    Avoids FinamMapperHalt.panicked (source.mapError .rejected) :=
  avoids_mapError fun _ impossible => nomatch impossible

theorem avoids_orReject_rejected {Value : Type} {source : Option Value} {error : FinamMapperError} :
    Avoids FinamMapperHalt.panicked (orReject source (.rejected error)) :=
  avoids_orReject fun impossible => by cases impossible

theorem avoids_rejectIf_rejected {condition : Prop} [Decidable condition] {error : FinamMapperError} :
    Avoids FinamMapperHalt.panicked (rejectIf condition (.rejected error)) :=
  avoids_rejectIf fun impossible => by cases impossible

theorem decimalValue_ok_iff {field : String} {value : DecimalValue} {decimal : Decimal} :
    decimalValue codec field value = .ok decimal ↔ codec.decimalFromStr value.value = some decimal := by
  unfold decimalValue
  cases codec.decimalFromStr value.value <;> simp

theorem avoids_moneyAmount_iff {field : String} {value : MoneyAmount} :
    Avoids .panicked (moneyAmount codec field value) ↔ AmountFits codec value := by
  unfold moneyAmount AmountFits
  rw [avoids_check_bind_iff avoids_rejected]
  simp only [mapError_ok_iff, decimalValue_ok_iff, avoids_computed_iff, Decimal.checkedAdd_isSome_iff]

theorem avoids_assetStepValue_iff {asset : AssetResponse} {priceStep : Decimal} :
    Avoids .panicked (assetStepValue codec asset priceStep) ↔ StepValueFits codec asset priceStep := by
  unfold assetStepValue StepValueFits
  cases asset.futureDetails.bind (·.stepPrice) with
  | some stepPrice => exact iff_of_true avoids_rejected fun impossible => nomatch impossible
  | none =>
      dsimp only
      rw [avoids_check_bind_iff avoids_rejected, forall_prop_of_true rfl]
      simp only [mapError_ok_iff, avoids_computed_iff, Decimal.checkedMul_isSome_iff]

theorem avoids_mapAccountTrade_iff {accountId : String} {trade : AccountTrade} {receivedTs : DateTimeUtc} :
    Avoids .panicked (mapAccountTradeToBrokerTradeSnapshot codec accountId receivedTs trade) ↔
      TradeFits codec trade := by
  unfold mapAccountTradeToBrokerTradeSnapshot mapAccountTrade TradeFits
  rw [avoids_bind_iff_left fun _ => avoids_ok _, ← reads_mapError_iff]
  refine (avoids_bind_iff_reads fun head _ => ?_).trans (and_iff_right avoids_rejected)
  rw [avoids_bind_iff_left fun _ => (avoids_bind_iff_left fun _ => avoids_ok _).2 avoids_rejected,
    avoids_optional_iff]
  simp only [avoids_moneyAmount_iff]

end Amounts

section Instruments

variable {codec : ReferenceDataCodec}

theorem avoids_mapArtifacts_iff {artifacts : FinamInstrumentSpecArtifacts} :
    Avoids .panicked (mapArtifacts codec artifacts) ↔ SpecFits codec artifacts := by
  unfold mapArtifacts mapFinamInstrumentSpec
  simp only [avoids_bind_iff, avoids_rejected, avoids_orReject_rejected, avoids_rejectIf_rejected, avoids_ok,
    avoids_assetStepValue_iff, avoids_optional_iff, avoids_moneyAmount_iff, true_and, implies_true, and_true,
    orReject_ok_iff, mapError_ok_iff, rejectIf_ok_iff, not_not]
  constructor
  · intro fits
    refine {
      stepValue := fun priceStep head => ?_
      longMargin := fun priceStep head body => ?_
      shortMargin := fun priceStep head body longRead => ?_ }
    all_goals
      obtain ⟨⟨ticker, mic, hasTicker, hasMic, paramsSymbol, scheduleSymbol⟩, stepped, lotSize, sized⟩ := head
      obtain ⟨step, rest⟩ :=
        fits ticker hasTicker mic hasMic () paramsSymbol () scheduleSymbol priceStep stepped lotSize sized
    · exact step
    · obtain ⟨⟨stepValue, valued⟩, quoted, expirationDate, dated⟩ := body
      obtain ⟨currency, quoted⟩ := Option.isSome_iff_exists.1 quoted
      exact (rest stepValue valued currency quoted expirationDate dated).1
    · obtain ⟨⟨stepValue, valued⟩, quoted, expirationDate, dated⟩ := body
      obtain ⟨currency, quoted⟩ := Option.isSome_iff_exists.1 quoted
      obtain ⟨long, longRead⟩ := longRead
      exact (rest stepValue valued currency quoted expirationDate dated).2 long longRead
  · intro fits ticker hasTicker mic hasMic _ paramsSymbol _ scheduleSymbol priceStep stepped lotSize sized
    have head : SpecHead codec.toMapperCodec artifacts priceStep :=
      ⟨⟨ticker, mic, hasTicker, hasMic, paramsSymbol, scheduleSymbol⟩, stepped, lotSize, sized⟩
    refine ⟨fits.stepValue priceStep head, fun stepValue valued currency quoted expirationDate dated => ?_⟩
    have body : SpecBody codec artifacts.asset priceStep :=
      ⟨⟨stepValue, valued⟩, Option.isSome_of_eq_some quoted, expirationDate, dated⟩
    exact ⟨fits.longMargin priceStep head body, fun long longRead =>
      fits.shortMargin priceStep head body ⟨long, longRead⟩⟩

end Instruments

section Snapshot

variable {codec : ReferenceDataCodec} {account : AccountResponse} {orders : AccountOrdersResponse}
  {trades : Option AccountTradesResponse} {instruments : List FinamInstrumentSpecArtifacts} {receivedTs : DateTimeUtc}

/-- Every amount, commission and instrument that is reached by reading all before it is within range. -/
structure AmountsFit (codec : ReferenceDataCodec) (account : AccountResponse) (orders : AccountOrdersResponse)
    (trades : Option AccountTradesResponse) (instruments : List FinamInstrumentSpecArtifacts)
    (receivedTs : DateTimeUtc) : Prop where
  cash : Reads (mapPositions codec account receivedTs) → Reads (mapOrders codec orders receivedTs) →
    ∀ before next, before ++ [next] <+: account.cash →
      (∀ row ∈ before, Reads (mapCashRow codec.toMapperCodec row)) → AmountFits codec.toMapperCodec next
  commissions : Reads (mapPositions codec account receivedTs) → Reads (mapOrders codec orders receivedTs) →
    Reads (mapAccountCashSnapshot codec.toMapperCodec account receivedTs) →
    ∀ before next, before ++ [next] <+: tradeRows trades →
      (∀ row ∈ before, Reads (mapAccountTradeToBrokerTradeSnapshot codec.toMapperCodec account.accountId receivedTs
        row)) → TradeFits codec.toMapperCodec next
  specs : Reads (mapPositions codec account receivedTs) → Reads (mapOrders codec orders receivedTs) →
    Reads (mapAccountCashSnapshot codec.toMapperCodec account receivedTs) →
    Reads (mapTrades codec account trades receivedTs) →
    ∀ before next, before ++ [next] <+: instruments →
      (∀ artifacts ∈ before, Reads (mapArtifacts codec artifacts)) → SpecFits codec next

theorem avoids_mapAccountCashSnapshot_iff :
    Avoids .panicked (mapAccountCashSnapshot codec.toMapperCodec account receivedTs) ↔
      ∀ before next, before ++ [next] <+: account.cash →
        (∀ row ∈ before, Reads (mapCashRow codec.toMapperCodec row)) → AmountFits codec.toMapperCodec next := by
  unfold mapAccountCashSnapshot
  rw [avoids_bind_iff_left fun _ => avoids_rejected, avoids_mapM_iff]
  have row (cash : MoneyAmount) : Avoids .panicked (mapCashRow codec.toMapperCodec cash) ↔
      AmountFits codec.toMapperCodec cash := by
    unfold mapCashRow
    rw [avoids_bind_iff_left fun _ => avoids_ok _, avoids_moneyAmount_iff]
  simp only [row]

theorem avoids_mapTruth_iff :
    Avoids .panicked (mapFinamBrokerTruthSnapshotWithReadonlyArtifacts codec account orders trades instruments
      receivedTs) ↔ AmountsFit codec account orders trades instruments receivedTs := by
  unfold mapFinamBrokerTruthSnapshotWithReadonlyArtifacts mapTrades
  simp only [avoids_bind_iff, avoids_rejected, avoids_ok, avoids_mapAccountCashSnapshot_iff, avoids_mapM_iff,
    avoids_mapAccountTrade_iff, avoids_mapArtifacts_iff, true_and, implies_true, and_true, mapError_ok_iff]
  constructor
  · intro fits
    exact {
      cash := by
        rintro ⟨positions, positionsRead⟩ ⟨orders, ordersRead⟩
        exact (fits positions positionsRead orders ordersRead).1
      commissions := by
        rintro ⟨positions, positionsRead⟩ ⟨orders, ordersRead⟩ ⟨cash, cashRead⟩
        exact ((fits positions positionsRead orders ordersRead).2 cash cashRead).1
      specs := by
        rintro ⟨positions, positionsRead⟩ ⟨orders, ordersRead⟩ ⟨cash, cashRead⟩ ⟨trades, tradesRead⟩
        exact ((fits positions positionsRead orders ordersRead).2 cash cashRead).2 trades tradesRead }
  · intro fits positions positionsRead orders ordersRead
    have positionsRead : Reads (mapPositions codec account receivedTs) := ⟨positions, positionsRead⟩
    have ordersRead : Reads (mapOrders codec _ receivedTs) := ⟨orders, ordersRead⟩
    refine ⟨fits.cash positionsRead ordersRead, fun cash cashRead => ?_⟩
    have cashRead : Reads (mapAccountCashSnapshot codec.toMapperCodec account receivedTs) := ⟨cash, cashRead⟩
    refine ⟨fits.commissions positionsRead ordersRead cashRead, fun trades tradesRead => ?_⟩
    exact fits.specs positionsRead ordersRead cashRead ⟨trades, tradesRead⟩

/-- Account data are ingested without an overflow, and answer on an instrument and on an order for it,
exactly when the amounts that are reached fit and the sums and products of the snapshot stay within range. -/
theorem ingestion_answers_iff (codec : ReferenceDataCodec) (account : AccountResponse)
    (orders : AccountOrdersResponse) (trades : Option AccountTradesResponse)
    (instruments : List FinamInstrumentSpecArtifacts) (receivedTs : DateTimeUtc) (instrument : InstrumentId)
    (side : OrderSide) (qty : Quantity) (referencePrice : Price) :
    (Avoids .panicked (mapFinamBrokerTruthSnapshotWithReadonlyArtifacts codec account orders trades instruments
        receivedTs) ∧
      ∀ truth, mapFinamBrokerTruthSnapshotWithReadonlyArtifacts codec account orders trades instruments receivedTs =
        .ok truth → Answers truth instrument side qty referencePrice) ↔
    AmountsFit codec account orders trades instruments receivedTs ∧
      ∀ truth, mapFinamBrokerTruthSnapshotWithReadonlyArtifacts codec account orders trades instruments receivedTs =
        .ok truth → AnswersWithin truth instrument side qty referencePrice := by
  simp only [avoids_mapTruth_iff, answers_iff]

end Snapshot

/-- The largest amount with half a unit more in its nanos. -/
def largestAccount : AccountResponse where
  accountId := "A-1"
  cash := [{ currencyCode := "RUB", units := "79228162514264337593543950335", nanos := 500000000 }]
  equity := none
  portfolioMc := none
  positions := []

/-- One amount of cash can abort the mapping. -/
theorem largest_amount_aborts :
    ¬ ∀ (codec : ReferenceDataCodec) (account : AccountResponse) (orders : AccountOrdersResponse)
      (trades : Option AccountTradesResponse) (instruments : List FinamInstrumentSpecArtifacts)
      (receivedTs : DateTimeUtc),
      Avoids .panicked (mapFinamBrokerTruthSnapshotWithReadonlyArtifacts codec account orders trades instruments
        receivedTs) ∧
      ∀ truth, mapFinamBrokerTruthSnapshotWithReadonlyArtifacts codec account orders trades instruments receivedTs =
          .ok truth →
        ∀ (instrument : InstrumentId) (side : OrderSide) (qty : Quantity) (referencePrice : Price),
          Answers truth instrument side qty referencePrice := by
  intro never
  refine (never wholeNumberCodec largestAccount ⟨[]⟩ none [] ⟨0, 0⟩).1 ?_
  decide

end TradingGateway.BrokerFinam.BrokerTruth
