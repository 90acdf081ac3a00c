import TradingGateway.BrokerFinam.ReferenceData

/-! The validator of registered instruments against their reference data, and when it reads the
data as the mapper does. -/

set_option autoImplicit false

namespace TradingGateway.BrokerFinam.InstrumentRegistry

open BrokerCore.FixedPoint BrokerCore.OperationalSnapshot BrokerCore.Orders
open Mapper ReferenceData Foundation.ExceptRun

inductive FinamInstrumentRegistryBlock where
  | unknownSymbol
  | missingMic
  | missingPriceStep
  | priceStepMismatch
  | missingQtyStep
  | qtyStepMismatch
  | missingLotSize
  | lotSizeMismatch
  | minQtyMismatch
  | stepValueMissing
  | accountMismatch
  | marketTypeMismatch
  | boardMismatch
  | expiredContract
  | notTradable
  | scheduleMissing
  | sessionClosed
  | currencyMismatch
  | manualOverrideRequired
deriving DecidableEq

inductive ReadinessReason where
  | instrumentMapNotValidated
  | scheduleNotLoaded
  | brokerMaintenance
deriving DecidableEq

structure FinamInstrumentRegistryValidation where
  instrumentMapValidated : Bool
  scheduleLoaded : Bool
  sessionOpen : Bool
  blocks : List FinamInstrumentRegistryBlock
  readinessReasons : List ReadinessReason
  fingerprintSha256 : String

structure FinamInstrumentRegistryValidator where
  requireOpenSession : Bool
  expectedAccountId : Option String

structure RegistryFingerprint where
  internalSymbolLen : Nat
  brokerSymbolLen : Nat
  priceStep : String
  qtyStep : String
  lotSize : String
  currency : String
  scheduleIdLen : Nat
  expirationDate : Option String
  assetSymbolLen : Option Nat
  assetMicLen : Option Nat
  assetQuoteCurrency : Option String
  paramsSymbolLen : Nat
  scheduleSymbolLen : Nat
  scheduleSessionCount : Nat

structure RegistryCodec extends ReferenceDataCodec where
  decimalToString : Decimal → String
  dateToString : NaiveDate → String
  fingerprintToString : RegistryFingerprint → String

def reportIf (condition : Prop) [Decidable condition] (block : FinamInstrumentRegistryBlock) :
    List FinamInstrumentRegistryBlock :=
  if condition then [block] else []

@[simp] theorem mem_reportIf {condition : Prop} [Decidable condition] {block found : FinamInstrumentRegistryBlock} :
    found ∈ reportIf condition block ↔ condition ∧ found = block := by
  unfold reportIf
  split <;> simp_all

section Readers

variable (codec : ReferenceDataCodec)

def assetVenueSymbol (asset : AssetResponse) : Option String := do
  let ticker ← asset.ticker
  let mic ← asset.mic
  some (ticker ++ "@" ++ mic)

/-- What stands behind the first `@` of a symbol. -/
def micOfSymbol (symbol : String) : Option String :=
  if '@' ∈ symbol.toList then some (splitOnceAt symbol).2 else none

/-- `decimal_like_value`. -/
def decimalLikeValue : DecimalLike → Option Decimal
  | .value value => codec.decimalFromStr value.value
  | .string value => codec.decimalFromStr value

def assetPriceStep (asset : AssetResponse) : Option Decimal :=
  ((asset.futureDetails.bind (·.minStep)).or asset.minStep).bind (decimalLikeValue codec)

def assetLotSize (asset : AssetResponse) : Option Decimal :=
  ((asset.futureDetails.bind (·.lotSize)).or asset.lotSize).bind fun value => codec.decimalFromStr value.value

def boardMatches (entry : InstrumentMapEntry) (asset : AssetResponse) : Bool :=
  asset.board.all fun board => board = entry.scheduleId || contains entry.scheduleId board

def marketTypeMatches (entry : InstrumentMapEntry) (asset : AssetResponse) : Bool :=
  asset.assetType.all fun value =>
    match entry.market with
    | .futures => contains value "FUT"
    | .options => contains value "OPTION"
    | .stocks => contains value "STOCK" || contains value "SHARE"
    | .currency => contains value "CURRENC"
    | .funds => contains value "FUND"
    | .other _ => true

def isExpired (entryExpirationDate : Option NaiveDate) (asset : AssetResponse) (checkedDate : NaiveDate) : Bool :=
  let assetLastTradeDate := (asset.futureDetails.bind (·.lastTradeDate)).bind codec.parseNaiveDate
  (entryExpirationDate.or assetLastTradeDate).any fun expiration => expiration.day < checkedDate.day

def dateNaive (time : DateTimeUtc) : NaiveDate :=
  { day := time.seconds / 86400 }

def scheduleHasOpenSession (schedule : AssetScheduleResponse) (checkedAt : DateTimeUtc) : Bool :=
  schedule.sessions.any fun session =>
    (do
      let interval ← session.interval
      let startTime ← interval.startTime
      let endTime ← interval.endTime
      let start ← codec.parseFromRfc3339 startTime
      let finish ← codec.parseFromRfc3339 endTime
      some (decide (¬ start.After checkedAt ∧ finish.After checkedAt))).getD false

end Readers

section Validate

variable (codec : RegistryCodec)

def instrumentRegistryFingerprint (entry : InstrumentMapEntry) (asset : AssetResponse)
    (params : AssetParamsResponse) (schedule : AssetScheduleResponse) : String :=
  codec.sha256Hex (codec.fingerprintToString {
    internalSymbolLen := entry.internalSymbol.utf8ByteSize
    brokerSymbolLen := entry.brokerSymbol.utf8ByteSize
    priceStep := codec.decimalToString entry.priceStep
    qtyStep := codec.decimalToString entry.qtyStep
    lotSize := codec.decimalToString entry.lotSize
    currency := entry.currency
    scheduleIdLen := entry.scheduleId.utf8ByteSize
    expirationDate := entry.expirationDate.map codec.dateToString
    assetSymbolLen := (assetVenueSymbol asset).map (·.utf8ByteSize)
    assetMicLen := asset.mic.map (·.utf8ByteSize)
    assetQuoteCurrency := asset.quoteCurrency
    paramsSymbolLen := params.symbol.utf8ByteSize
    scheduleSymbolLen := schedule.symbol.utf8ByteSize
    scheduleSessionCount := schedule.sessions.length })

def readinessReasonsForInstrumentRegistry (instrumentMapValidated scheduleLoaded sessionOpen : Bool) :
    List ReadinessReason :=
  (if instrumentMapValidated then [] else [.instrumentMapNotValidated]) ++
    (if scheduleLoaded then [] else [.scheduleNotLoaded]) ++
    (if sessionOpen then [] else [.brokerMaintenance])

def AccountDiffers (expected actual : Option String) : Prop :=
  (∃ account ∈ expected, actual ≠ some account) ∨ actual = some ""

instance (expected actual : Option String) : Decidable (AccountDiffers expected actual) :=
  inferInstanceAs (Decidable (_ ∨ _))

def staticBlocks (validator : FinamInstrumentRegistryValidator) (entry : InstrumentMapEntry)
    (asset : AssetResponse) (params : AssetParamsResponse) (schedule : AssetScheduleResponse)
    (checkedAt : DateTimeUtc) : List FinamInstrumentRegistryBlock :=
  reportIf (assetVenueSymbol asset ≠ some entry.brokerSymbol ∨ params.symbol ≠ entry.brokerSymbol) .unknownSymbol ++
  reportIf (schedule.symbol ≠ entry.brokerSymbol) .scheduleMissing ++
  reportIf (micOfSymbol entry.brokerSymbol = none ∨ asset.mic = none ∨
    micOfSymbol entry.brokerSymbol ≠ asset.mic) .missingMic ++
  reportIf (boardMatches entry asset = false) .boardMismatch ++
  reportIf (marketTypeMatches entry asset = false) .marketTypeMismatch ++
  reportIf (assetPriceStep codec.toReferenceDataCodec asset = none) .missingPriceStep ++
  reportIf (∃ priceStep ∈ assetPriceStep codec.toReferenceDataCodec asset, ¬ priceStep.Same entry.priceStep)
    .priceStepMismatch ++
  reportIf (entry.qtyStep ≤ Decimal.zero) .missingQtyStep ++
  reportIf (entry.minQty ≤ Decimal.zero) .minQtyMismatch ++
  reportIf (entry.lotSize ≤ Decimal.zero) .missingLotSize ++
  reportIf (assetLotSize codec.toReferenceDataCodec asset = none) .missingLotSize ++
  reportIf (∃ lotSize ∈ assetLotSize codec.toReferenceDataCodec asset, ¬ lotSize.Same entry.lotSize)
    .lotSizeMismatch ++
  reportIf (entry.stepValue ≤ Decimal.zero) .stepValueMissing ++
  reportIf (params.isTradable.getD (params.tradeable.getD false) = false ∨ entry.isTradable = false) .notTradable ++
  reportIf (AccountDiffers validator.expectedAccountId params.accountId) .accountMismatch ++
  reportIf (asset.quoteCurrency ≠ some entry.currency) .currencyMismatch ++
  reportIf (isExpired codec.toReferenceDataCodec entry.expirationDate asset (dateNaive checkedAt) = true)
    .expiredContract ++
  reportIf (schedule.sessions = []) .scheduleMissing

def dynamicBlocks (validator : FinamInstrumentRegistryValidator) (schedule : AssetScheduleResponse)
    (checkedAt : DateTimeUtc) : List FinamInstrumentRegistryBlock :=
  reportIf (schedule.sessions ≠ [] ∧ validator.requireOpenSession = true ∧
    scheduleHasOpenSession codec.toReferenceDataCodec schedule checkedAt = false) .sessionClosed

/-- `FinamInstrumentRegistryValidator::validate`. -/
def FinamInstrumentRegistryValidator.validate (validator : FinamInstrumentRegistryValidator)
    (entry : InstrumentMapEntry) (asset : AssetResponse) (params : AssetParamsResponse)
    (schedule : AssetScheduleResponse) (checkedAt : DateTimeUtc) : FinamInstrumentRegistryValidation :=
  let statics := staticBlocks codec validator entry asset params schedule checkedAt
  let dynamics := dynamicBlocks codec validator schedule checkedAt
  let scheduleLoaded := decide (.scheduleMissing ∉ statics)
  let instrumentMapValidated := statics.isEmpty
  let sessionOpen := decide (.sessionClosed ∉ dynamics)
  { instrumentMapValidated := instrumentMapValidated
    scheduleLoaded := scheduleLoaded
    sessionOpen := sessionOpen
    blocks := (statics ++ dynamics).eraseDups
    readinessReasons := readinessReasonsForInstrumentRegistry instrumentMapValidated scheduleLoaded sessionOpen
    fingerprintSha256 := instrumentRegistryFingerprint codec entry asset params schedule }

end Validate

section Agreement

variable {codec : RegistryCodec} {asset : AssetResponse} {params : AssetParamsResponse}
  {schedule : AssetScheduleResponse} {spec : BrokerInstrumentSpec}

structure Mapped (codec : RegistryCodec) (asset : AssetResponse) (params : AssetParamsResponse)
    (schedule : AssetScheduleResponse) (spec : BrokerInstrumentSpec) (ticker mic : String) : Prop where
  hasTicker : asset.ticker = some ticker
  hasMic : asset.mic = some mic
  brokerSymbol : spec.instrument.brokerSymbol = ticker ++ "@" ++ mic
  paramsSymbol : params.symbol = spec.instrument.brokerSymbol
  scheduleSymbol : schedule.symbol = spec.instrument.brokerSymbol
  market : spec.instrument.market = marketFromAssetType asset.assetType
  scheduleId : spec.instrument.scheduleId = asset.board.getD mic
  priceStep : assetPriceStep codec.toReferenceDataCodec asset = some spec.instrument.priceStep
  lotSize : assetLotSize codec.toReferenceDataCodec asset = some spec.instrument.lotSize
  currency : asset.quoteCurrency = some spec.instrument.currency
  expirationDate : (expirationText asset).mapM (parseDate codec.toReferenceDataCodec
    "asset.future_details.expiration_date") = .ok spec.instrument.expirationDate
  isTradable : spec.instrument.isTradable = (params.tradeable.or params.isTradable).getD false

theorem decimalValue_eq_some {field : String} {value : DecimalValue} {decimal : Decimal}
    (read : decimalValue codec.toMapperCodec field value = .ok decimal) :
    codec.decimalFromStr value.value = some decimal := by
  unfold decimalValue at read
  split at read
  · rename_i found
    cases read
    exact found
  · cases read

theorem assetPriceStep_eq_some {decimal : Decimal}
    (read : ReferenceData.assetPriceStep codec.toMapperCodec asset = .ok decimal) :
    assetPriceStep codec.toReferenceDataCodec asset = some decimal := by
  unfold ReferenceData.assetPriceStep at read
  obtain ⟨step, given, read⟩ := bind_ok_iff.1 read
  rw [orReject_ok_iff] at given
  unfold assetPriceStep
  rw [given]
  cases step with
  | value value => exact decimalValue_eq_some read
  | string value => exact decimalValue_eq_some read

theorem assetLotSize_eq_some {decimal : Decimal}
    (read : ReferenceData.assetLotSize codec.toMapperCodec asset = .ok decimal) :
    assetLotSize codec.toReferenceDataCodec asset = some decimal := by
  unfold ReferenceData.assetLotSize at read
  obtain ⟨lot, given, read⟩ := bind_ok_iff.1 read
  rw [orReject_ok_iff] at given
  unfold assetLotSize
  rw [given]
  exact decimalValue_eq_some read

theorem mapped_of_ok
    (read : mapFinamInstrumentSpec codec.toReferenceDataCodec asset params schedule = .ok spec) :
    ∃ ticker mic, Mapped codec asset params schedule spec ticker mic := by
  unfold mapFinamInstrumentSpec at read
  obtain ⟨ticker, hasTicker, read⟩ := bind_ok_iff.1 read
  obtain ⟨mic, hasMic, read⟩ := bind_ok_iff.1 read
  obtain ⟨paramsSymbol, read⟩ := check_bind_ok_iff.1 read
  obtain ⟨scheduleSymbol, read⟩ := check_bind_ok_iff.1 read
  obtain ⟨priceStep, stepped, read⟩ := bind_ok_iff.1 read
  obtain ⟨lotSize, sized, read⟩ := bind_ok_iff.1 read
  obtain ⟨stepValue, _, read⟩ := bind_ok_iff.1 read
  obtain ⟨currency, quoted, read⟩ := bind_ok_iff.1 read
  obtain ⟨expirationDate, dated, read⟩ := bind_ok_iff.1 read
  obtain ⟨longInitialMargin, _, read⟩ := bind_ok_iff.1 read
  obtain ⟨shortInitialMargin, _, read⟩ := bind_ok_iff.1 read
  rw [rejectIf_ok_iff, not_not] at paramsSymbol scheduleSymbol
  rw [orReject_ok_iff] at hasTicker hasMic quoted
  rw [mapError_ok_iff] at stepped sized dated
  cases read
  exact ⟨ticker, mic, {
    hasTicker := hasTicker
    hasMic := hasMic
    brokerSymbol := rfl
    paramsSymbol := paramsSymbol
    scheduleSymbol := scheduleSymbol
    market := rfl
    scheduleId := rfl
    priceStep := assetPriceStep_eq_some stepped
    lotSize := assetLotSize_eq_some sized
    currency := quoted
    expirationDate := dated
    isTradable := rfl }⟩

theorem drop_behind_at {front rest : List Char} (absent : '@' ∉ front) :
    ((front ++ '@' :: rest).dropWhile (· ≠ '@')).drop 1 = rest := by
  induction front with
  | nil => simp
  | cons head front ih =>
      rw [List.mem_cons, not_or] at absent
      have differs : decide (head ≠ '@') = true := decide_eq_true fun same => absent.1 same.symm
      rw [List.cons_append, List.dropWhile_cons, if_pos differs]
      exact ih absent.2

/-- The symbol falls into its ticker and its mic exactly when the ticker has no `@` of its own. -/
theorem micOfSymbol_eq_iff {ticker mic : String} :
    micOfSymbol (ticker ++ "@" ++ mic) = some mic ↔ '@' ∉ ticker.toList := by
  have spelled : (ticker ++ "@" ++ mic).toList = ticker.toList ++ '@' :: mic.toList := by simp
  have hasAt : '@' ∈ (ticker ++ "@" ++ mic).toList := by
    rw [spelled]
    exact List.mem_append_right _ List.mem_cons_self
  unfold micOfSymbol splitOnceAt
  rw [if_pos hasAt, if_pos hasAt, spelled, Option.some.injEq]
  constructor
  · intro same present
    obtain ⟨front, back, cut, absent⟩ := List.eq_append_cons_of_mem present
    rw [cut, List.append_assoc, List.cons_append, drop_behind_at absent] at same
    have lengths := congrArg (fun text : String => text.toList.length) same
    simp at lengths
    omega
  · intro absent
    rw [drop_behind_at absent, String.ofList_toList]

/-- A type that names `FOREX` also names what the validator looks for, or another market. -/
def MarketNamed (asset : AssetResponse) : Prop :=
  ∀ value ∈ asset.assetType, contains value "FOREX" = true →
    ∃ part ∈ ["FUT", "OPTION", "STOCK", "SHARE", "CURRENC"], contains value part = true

/-- The market a spec is mapped to is the one its asset type is matched against, but for `FOREX`. -/
theorem marketTypeMatches_iff (mapped : spec.instrument.market = marketFromAssetType asset.assetType) :
    marketTypeMatches spec.instrument asset = true ↔ MarketNamed asset := by
  unfold marketTypeMatches MarketNamed
  rw [mapped]
  cases asset.assetType with
  | none => simp
  | some value =>
      unfold marketFromAssetType
      simp only [Option.all_some, Option.mem_def, Option.some.injEq, forall_eq', List.mem_cons, List.not_mem_nil,
        or_false, exists_eq_or_imp, exists_eq_left]
      generalize contains value "FUT" = futures, contains value "OPTION" = options, contains value "STOCK" = stocks,
        contains value "SHARE" = shares, contains value "CURRENC" = currency, contains value "FOREX" = forex
      split_ifs <;> simp_all <;> tauto

/-- The verdict on a mapped spec says of its reference data what the spec itself says. -/
structure ReadsAlike (validation : FinamInstrumentRegistryValidation) (spec : BrokerInstrumentSpec)
    (schedule : AssetScheduleResponse) (checkedAt : DateTimeUtc) : Prop where
  agrees : ∀ block ∈ [.unknownSymbol, .missingMic, .boardMismatch, .marketTypeMismatch, .missingPriceStep,
    .priceStepMismatch, .missingLotSize, .lotSizeMismatch, .currencyMismatch], block ∉ validation.blocks
  tradable : .notTradable ∈ validation.blocks ↔ spec.instrument.isTradable = false
  expired : .expiredContract ∈ validation.blocks ↔
    ∃ expiration ∈ spec.instrument.expirationDate, expiration.day < (dateNaive checkedAt).day
  scheduled : .scheduleMissing ∈ validation.blocks ↔ schedule.sessions = []

/-- No `@` in the ticker, no market that only the mapper knows, and no two flags that differ the one way. -/
structure SameReading (asset : AssetResponse) (params : AssetParamsResponse) : Prop where
  symbol : ∀ ticker ∈ asset.ticker, '@' ∉ ticker.toList
  market : MarketNamed asset
  tradable : ¬ (params.tradeable = some true ∧ params.isTradable = some false)

theorem mem_blocks {validator : FinamInstrumentRegistryValidator} {entry : InstrumentMapEntry}
    {checkedAt : DateTimeUtc} {block : FinamInstrumentRegistryBlock} :
    block ∈ (validator.validate codec entry asset params schedule checkedAt).blocks ↔
      block ∈ staticBlocks codec validator entry asset params schedule checkedAt ∨
        block ∈ dynamicBlocks codec validator schedule checkedAt := by
  unfold FinamInstrumentRegistryValidator.validate
  rw [List.mem_eraseDups, List.mem_append]

/-- A spec has no expiration exactly where the responses state none. -/
theorem Mapped.expired_iff {ticker mic : String} (mapped : Mapped codec asset params schedule spec ticker mic)
    (checkedDate : NaiveDate) :
    isExpired codec.toReferenceDataCodec spec.instrument.expirationDate asset checkedDate = true ↔
      ∃ expiration ∈ spec.instrument.expirationDate, expiration.day < checkedDate.day := by
  have dated := mapped.expirationDate
  unfold isExpired
  cases stated : spec.instrument.expirationDate with
  | some expiration => simp
  | none =>
      rw [stated] at dated
      cases text : expirationText asset with
      | some value =>
          rw [text, Option.mapM_some, map_ok_iff] at dated
          obtain ⟨_, _, impossible⟩ := dated
          cases impossible
      | none =>
          have noLast : (asset.futureDetails.bind (·.lastTradeDate)) = none := by
            unfold expirationText at text
            cases future : asset.futureDetails with
            | none => rfl
            | some details =>
                rw [future, Option.bind_some, Option.or_eq_none_iff] at text
                exact text.2
          simp [noLast]

section Blocks

variable {validator : FinamInstrumentRegistryValidator} {checkedAt : DateTimeUtc} {ticker mic : String}

theorem Mapped.missingMic_iff (mapped : Mapped codec asset params schedule spec ticker mic) :
    .missingMic ∈ (validator.validate codec spec.instrument asset params schedule checkedAt).blocks ↔
      '@' ∈ ticker.toList := by
  have named := @micOfSymbol_eq_iff ticker mic
  rw [← mapped.brokerSymbol] at named
  rw [mem_blocks]
  unfold staticBlocks dynamicBlocks
  simp only [List.mem_append, mem_reportIf, reduceCtorEq, and_false, and_true,
    or_false, false_or, mapped.hasMic]
  rw [← not_iff_not, ← named]
  constructor
  · intro quiet
    rw [not_or, not_not] at quiet
    exact quiet.2
  · intro same
    rw [same]
    simp

theorem marketTypeMismatch_iff :
    .marketTypeMismatch ∈ (validator.validate codec spec.instrument asset params schedule checkedAt).blocks ↔
      marketTypeMatches spec.instrument asset = false := by
  rw [mem_blocks]
  unfold staticBlocks dynamicBlocks
  simp

theorem notTradable_iff :
    .notTradable ∈ (validator.validate codec spec.instrument asset params schedule checkedAt).blocks ↔
      params.isTradable.getD (params.tradeable.getD false) = false ∨ spec.instrument.isTradable = false := by
  rw [mem_blocks]
  unfold staticBlocks dynamicBlocks
  simp

theorem expiredContract_iff :
    .expiredContract ∈ (validator.validate codec spec.instrument asset params schedule checkedAt).blocks ↔
      isExpired codec.toReferenceDataCodec spec.instrument.expirationDate asset (dateNaive checkedAt) = true := by
  rw [mem_blocks]
  unfold staticBlocks dynamicBlocks
  simp

theorem Mapped.scheduleMissing_iff (mapped : Mapped codec asset params schedule spec ticker mic) :
    .scheduleMissing ∈ (validator.validate codec spec.instrument asset params schedule checkedAt).blocks ↔
      schedule.sessions = [] := by
  rw [mem_blocks]
  unfold staticBlocks dynamicBlocks
  simp [mapped.scheduleSymbol]

/-- What both sides read in the one way is never reported. -/
theorem Mapped.read_alike (mapped : Mapped codec asset params schedule spec ticker mic)
    (positive : Decimal.zero < spec.instrument.lotSize) :
    ∀ block ∈ [FinamInstrumentRegistryBlock.unknownSymbol, .boardMismatch, .missingPriceStep, .priceStepMismatch,
        .missingLotSize, .lotSizeMismatch, .currencyMismatch],
      block ∉ (validator.validate codec spec.instrument asset params schedule checkedAt).blocks := by
  have venueSymbol : assetVenueSymbol asset = some spec.instrument.brokerSymbol := by
    unfold assetVenueSymbol
    rw [mapped.hasTicker, mapped.hasMic, mapped.brokerSymbol]
    rfl
  have board : boardMatches spec.instrument asset = true := by
    unfold boardMatches
    rw [mapped.scheduleId]
    cases asset.board <;> simp
  have lot : ¬ spec.instrument.lotSize ≤ Decimal.zero := by
    rw [Decimal.le_iff, not_le, ← Decimal.lt_iff]
    exact positive
  have itself : ∀ value : Decimal, value.Same value := fun _ => rfl
  intro block listed
  simp only [List.mem_cons, List.not_mem_nil, or_false] at listed
  rw [mem_blocks]
  unfold staticBlocks dynamicBlocks
  rcases listed with rfl | rfl | rfl | rfl | rfl | rfl | rfl <;>
    simp [venueSymbol, board, lot, itself, mapped.paramsSymbol, mapped.priceStep, mapped.lotSize, mapped.currency]

end Blocks

/-- The validator and the mapper read reference data alike exactly where the data do not hit one of the three
places at which they differ. -/
theorem readsAlike_iff (validator : FinamInstrumentRegistryValidator) (checkedAt : DateTimeUtc)
    (read : mapFinamInstrumentSpec codec.toReferenceDataCodec asset params schedule = .ok spec)
    (positive : Decimal.zero < spec.instrument.lotSize) :
    ReadsAlike (validator.validate codec spec.instrument asset params schedule checkedAt) spec schedule
        checkedAt ↔ SameReading asset params := by
  obtain ⟨ticker, mic, mapped⟩ := mapped_of_ok read
  have markets := marketTypeMatches_iff mapped.market
  constructor
  · intro alike
    have noMic := alike.agrees .missingMic (by simp)
    have noMarket := alike.agrees .marketTypeMismatch (by simp)
    have tradable := alike.tradable
    rw [mapped.missingMic_iff] at noMic
    rw [marketTypeMismatch_iff, Bool.not_eq_false, markets] at noMarket
    rw [notTradable_iff, mapped.isTradable] at tradable
    refine ⟨?_, noMarket, ?_⟩
    · intro found same
      rw [mapped.hasTicker, Option.mem_some_iff] at same
      exact same ▸ noMic
    · rintro ⟨left, right⟩
      simp [left, right] at tradable
  · intro same
    exact {
      agrees := by
        intro block listed
        have others := @Mapped.read_alike _ _ _ _ _ validator checkedAt _ _ mapped positive block
        simp only [List.mem_cons, List.not_mem_nil, or_false] at listed others
        rcases listed with rfl | rfl | rfl | rfl | rfl | rfl | rfl | rfl | rfl
        · exact others (by simp)
        · rw [mapped.missingMic_iff]
          exact same.symbol ticker mapped.hasTicker
        · exact others (by simp)
        · rw [marketTypeMismatch_iff, Bool.not_eq_false, markets]
          exact same.market
        all_goals exact others (by simp)
      tradable := by
        have flags := same.tradable
        rw [notTradable_iff, mapped.isTradable]
        cases tradeable : params.tradeable with
        | none => cases params.isTradable <;> simp
        | some tradeableFlag =>
            cases isTradable : params.isTradable with
            | none => simp
            | some isTradableFlag =>
                rw [tradeable, isTradable] at flags
                cases tradeableFlag <;> cases isTradableFlag <;> simp_all
      expired := by
        rw [expiredContract_iff]
        exact mapped.expired_iff (dateNaive checkedAt)
      scheduled := mapped.scheduleMissing_iff }

end Agreement

section CurrencyFuture

def plainRegistryCodec : RegistryCodec where
  toReferenceDataCodec := wholeNumberCodec
  decimalToString := fun value => toString value.magnitude
  dateToString := fun date => toString date.day
  fingerprintToString := fun payload => payload.priceStep ++ payload.currency

def sampleAsset (assetType : String) : AssetResponse where
  board := some "FUT"
  futureDetails := none
  id := some "1"
  lotSize := some { value := "1000" }
  mic := some "RTSX"
  minStep := some (.string "1")
  quoteCurrency := some "RUB"
  ticker := some "USDRUBF"
  assetType := some assetType

def sampleParams : AssetParamsResponse where
  accountId := none
  isTradable := none
  longInitialMargin := some { currencyCode := "RUB", units := "9000", nanos := 0 }
  shortInitialMargin := none
  symbol := "USDRUBF@RTSX"
  tradeable := some true

def sampleSchedule : AssetScheduleResponse where
  sessions := [{ interval := none }]
  symbol := "USDRUBF@RTSX"

def sampleValidator : FinamInstrumentRegistryValidator where
  requireOpenSession := false
  expectedAccountId := none

def sampleChecked : DateTimeUtc :=
  { seconds := 0, nanos := 0 }

def Sized (spec : BrokerInstrumentSpec) : Prop :=
  Decimal.zero < spec.instrument.priceStep ∧ Decimal.zero < spec.instrument.lotSize ∧
    Decimal.zero < spec.instrument.stepValue

instance (spec : BrokerInstrumentSpec) : Decidable (Sized spec) :=
  inferInstanceAs (Decidable (_ ∧ _))

def mapSample (assetType : String) : Except FinamMapperHalt BrokerInstrumentSpec :=
  mapFinamInstrumentSpec plainRegistryCodec.toReferenceDataCodec (sampleAsset assetType) sampleParams sampleSchedule

theorem sized_of_mapped {assetType : String} (mapped : (mapSample assetType).toOption.any (Sized ·) = true) :
    ∃ spec, mapSample assetType = .ok spec ∧ Sized spec := by
  cases result : mapSample assetType with
  | error halt =>
      rw [result] at mapped
      cases mapped
  | ok spec =>
      rw [result] at mapped
      exact ⟨spec, rfl, of_decide_eq_true mapped⟩

/-- The quoted future of a currency is read alike. -/
theorem readsAlike_iff_future :
    ∃ spec, mapSample "FUTURES" = .ok spec ∧
      (ReadsAlike (sampleValidator.validate plainRegistryCodec spec.instrument (sampleAsset "FUTURES") sampleParams
        sampleSchedule sampleChecked) spec sampleSchedule sampleChecked ↔
          SameReading (sampleAsset "FUTURES") sampleParams) := by
  obtain ⟨spec, mapped, sized⟩ := @sized_of_mapped "FUTURES" (by decide)
  exact ⟨spec, mapped, readsAlike_iff sampleValidator sampleChecked mapped sized.2.1⟩

/-- A currency of type `FOREX` is mapped to a spec that the validator does not match with the type. -/
theorem not_readsAlike_forex :
    ¬ ∀ (codec : RegistryCodec) (validator : FinamInstrumentRegistryValidator) (asset : AssetResponse)
      (params : AssetParamsResponse) (schedule : AssetScheduleResponse) (spec : BrokerInstrumentSpec)
      (checkedAt : DateTimeUtc),
      mapFinamInstrumentSpec codec.toReferenceDataCodec asset params schedule = .ok spec → Sized spec →
      validator.expectedAccountId = none → params.accountId ≠ some "" →
      ReadsAlike (validator.validate codec spec.instrument asset params schedule checkedAt) spec schedule
        checkedAt := by
  intro always
  obtain ⟨spec, mapped, sized⟩ := @sized_of_mapped "FOREX" (by decide)
  obtain ⟨ticker, mic, read⟩ := mapped_of_ok mapped
  have alike := always plainRegistryCodec sampleValidator (sampleAsset "FOREX") sampleParams sampleSchedule spec
    sampleChecked mapped sized rfl (by decide)
  have silent := alike.agrees .marketTypeMismatch (by simp)
  rw [marketTypeMismatch_iff, Bool.not_eq_false, marketTypeMatches_iff read.market] at silent
  exact absurd (silent "FOREX" rfl (by decide)) (by decide)

end CurrencyFuture

end TradingGateway.BrokerFinam.InstrumentRegistry
