import TradingGateway.Stage6.Replay

/-! A plain self-delimiting codec: every text stands behind its length, every
option and enumeration behind a tag, and the hash is a polynomial behind a
leading one. -/

set_option autoImplicit false

namespace TradingGateway.Stage6.PlainCodec

open BrokerCore.FixedPoint BrokerCore.HybridAttribution BrokerCore.Identifiers BrokerCore.Orders
open DurableIdentity JournalRecord Replay Foundation.Bytes

def plainText (text : String) : List UInt8 :=
  toBigEndian 4 text.toUTF8.size ++ text.toUTF8.toList

def plainDigits (digits : List Char) : List UInt8 :=
  digits.map fun digit => UInt8.ofNat digit.toNat

def plainOption {Value : Type} (write : Value → List UInt8) : Option Value → List UInt8
  | none => [0]
  | some value => 1 :: write value

def plainDecimal (value : Decimal) : List UInt8 :=
  (if value.negative then 1 else 0) :: toBigEndian 12 value.magnitude ++ toBigEndian 1 value.scale

def plainTag (tag : Nat) : List UInt8 :=
  toBigEndian 1 tag

def plainInstrument (instrument : InstrumentId) : List UInt8 :=
  plainText instrument.symbol ++ plainOption plainText instrument.venueSymbol ++
    (match instrument.exchange with
      | .moex => plainTag 0
      | .other name => plainTag 1 ++ plainText name) ++
    (match instrument.market with
      | .futures => plainTag 0
      | .options => plainTag 1
      | .stocks => plainTag 2
      | .currency => plainTag 3
      | .funds => plainTag 4
      | .other name => plainTag 5 ++ plainText name)

def plainTime (time : DateTimeUtc) : List UInt8 :=
  plainText (toString time.seconds) ++ toBigEndian 4 time.nanos.toNat

def plainCommand (command : Stage6DurableCommandPayloadV1) : List UInt8 :=
  match command with
  | .place place =>
      plainTag 0 ++ place.requestId.uuid.toList ++ plainText place.durableClientOrderId.value ++
        plainText place.accountId.value ++ plainInstrument place.instrument ++
        plainTag place.side.ctorIdx ++ plainTag place.orderType.ctorIdx ++ plainDecimal place.quantity ++
        plainOption plainDecimal place.limitPrice ++ plainTag place.timeInForce.ctorIdx ++
        plainOption (fun ttl => toBigEndian 8 ttl.toNat) place.ttlMs ++ plainTime place.createdTs ++
        plainText place.attribution.internalComment
  | .cancel cancel =>
      plainTag 1 ++ cancel.requestId.uuid.toList ++ plainText cancel.durableCancelClientOrderId.value ++
        plainText cancel.accountId.value ++ plainInstrument cancel.instrument ++
        plainText cancel.targetBrokerOrderId.value ++
        plainOption (fun target => plainText target.value) cancel.targetOrderClientOrderId ++
        plainOption (fun ttl => toBigEndian 8 ttl.toNat) cancel.ttlMs ++ plainTime cancel.createdTs ++
        plainText cancel.attribution.internalComment

def plainPayload (payload : Stage6JournalPayloadV1) : List UInt8 :=
  match payload with
  | .requestAccepted command => plainTag 0 ++ plainCommand command.payload
  | .brokerOrderObserved orderId => plainTag 1 ++ plainText orderId.value
  | .brokerTradeObserved tradeId orderId => plainTag 2 ++ plainText tradeId.value ++ plainText orderId.value
  | .dispatchAttemptRecorded ordinal digest =>
      plainTag 3 ++ toBigEndian 4 ordinal.toNat ++ plainDigits digest.value
  | .cancelOutcomeObserved target outcome => plainTag 4 ++ plainText target.value ++ plainTag outcome.ctorIdx
  | .reconciliationObserved disposition =>
      plainTag 5 ++ (match disposition with
        | .noBrokerOrderFound => plainTag 0
        | .brokerOrderFound orderId => plainTag 1 ++ plainText orderId.value
        | .inconclusive => plainTag 2)
  | .requestFinalized disposition => plainTag 6 ++ plainTag disposition.ctorIdx
  | .conflictObserved kind conflicting expected observed =>
      plainTag 7 ++ plainTag kind.ctorIdx ++ plainOption (fun id => plainDigits id.value) conflicting ++
        plainOption (fun digest => plainDigits digest.value) expected ++
        plainOption (fun digest => plainDigits digest.value) observed
  | .marker => plainTag 8

def plainIdentity (identity : Stage6DurableRequestIdentityV1) : List UInt8 :=
  identity.strategyRequestId.uuid.toList ++ plainText identity.durableClientOrderId.value ++
    plainText identity.accountId.value ++ plainInstrument identity.instrument ++
    plainText identity.attribution.internalComment ++ plainTag identity.action.ctorIdx ++
    plainOption (fun target => plainText target.value) identity.targetBrokerOrderId ++
    plainOption (fun target => plainText target.value) identity.targetOrderClientOrderId

def plainRecord (record : Stage6JournalRecordWireV1) : List UInt8 :=
  toBigEndian 2 record.schemaVersion.toNat ++ plainDigits record.journalRecordId.value ++
    toBigEndian 8 record.lifecycleSequence.value.toNat ++
    plainOption (fun id => plainDigits id.value) record.previousRecordId ++
    plainOption (fun id => plainDigits id.value) record.causalParentId ++
    plainIdentity record.durableRequestIdentity ++ plainTag record.eventKind.ctorIdx ++
    plainPayload record.payload ++ plainDigits record.canonicalPayloadSha256.value ++
    plainDigits record.sourceEvidenceSha256.value

def plainRecovered (request : Stage6RecoveredRequestV1) : List UInt8 :=
  request.strategyRequestId.uuid.toList ++ toBigEndian 8 request.lastUniqueSequence.toNat ++
    plainDigits request.lastUniqueRecordId.value ++ plainTag request.dispatchSafetyState.ctorIdx ++
    toBigEndian 4 request.dispatchAttemptCount.toNat

def plainHash (bytes : List UInt8) : Sha256Output :=
  let value := bytes.foldl (fun hash byte => (hash * 257 + byte.toNat + 1) % 2 ^ 248) 7
  { bytes := 1 :: toBigEndian 31 value
    length_bytes := by simp
    nonzero := by
      intro zero
      have head := congrArg List.head? zero
      simp at head }

def plainCodec : ReplayCodec where
  sha256 := plainHash
  attributionToVec := fun attribution => plainText attribution.internalComment
  payloadToVec := plainPayload
  recordToVec := plainRecord
  recordFromSlice := fun _ => none
  fingerprintInputToVec := fun version requests =>
    toBigEndian 2 version.toNat ++ requests.flatMap plainRecovered

def sampleAttribution (role : String) : Option HybridRuntimeAttribution :=
  (HybridRuntimeAttribution.parseSourceComment ("HYB|sid=alpha|c=7|o=MR|r=" ++ role)).toOption

instance hundred_neZero : NeZero 100 := ⟨by decide⟩

/-- The lifecycle position `index + 1`. -/
def sampleSequence (index : Fin 100) : Stage6LifecycleSequence :=
  { value := UInt64.ofNat (index.val + 1)
    nonzero := by
      revert index
      decide }

def sampleRequest (index : UInt8) : StrategyRequestId :=
  { uuid := Vector.replicate 16 index }

def sampleInstrument : InstrumentId :=
  { symbol := "TESTFUT", venueSymbol := none, exchange := .moex, market := .futures }

def samplePlaceOrder (index : UInt8) : PlaceOrder :=
  { requestId := sampleRequest index
    createdTs := { seconds := 0, nanos := 0 }
    ttlMs := none
    accountId := { value := "A-1" }
    clientOrderId := ClientOrderId.fromStrategyRequest (sampleRequest index)
    instrument := sampleInstrument
    side := .buy
    orderType := .market
    qty := Decimal.ofNat 1 Decimal.one_fits
    limitPrice := none
    timeInForce := .day
    comment := some "HYB|sid=alpha|c=7|o=MR|r=ENTRY" }

end TradingGateway.Stage6.PlainCodec
