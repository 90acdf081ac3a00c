import TradingGateway.Foundation.Bytes

/-! Broker-neutral identities: request uuids and the durable client order id derived from them. -/

set_option autoImplicit false

namespace TradingGateway.BrokerCore.Identifiers

open Foundation.Bytes

abbrev Uuid := Vector UInt8 16

/-- The characters of the hyphenated lowercase text of a uuid, in groups of 8, 4,
4, 4 and 12 digits. -/
def Uuid.toText (uuid : Uuid) : List Char :=
  let bytes := uuid.toList
  (hexString (bytes.take 4) ++ '-' :: hexString ((bytes.drop 4).take 2) ++
    '-' :: hexString ((bytes.drop 6).take 2) ++ '-' :: hexString ((bytes.drop 8).take 2) ++
    '-' :: hexString (bytes.drop 10))

structure StrategyRequestId where
  uuid : Uuid
deriving DecidableEq

def StrategyRequestId.toText (requestId : StrategyRequestId) : List Char :=
  requestId.uuid.toText

structure BrokerAccountId where
  value : String
deriving DecidableEq

structure BrokerOrderId where
  value : String
  nonEmpty : value ≠ ""
deriving DecidableEq

structure BrokerTradeId where
  value : String
  nonEmpty : value ≠ ""
deriving DecidableEq

structure ClientOrderId where
  value : String
deriving DecidableEq

inductive ClientOrderIdError where
  | empty
  | tooLong (max actual : Nat)
  | unsupportedCharacter (character : Char)
deriving DecidableEq

def clientOrderIdMaxLen : Nat := 20

/-- ASCII letters and digits, `-` and `_`. -/
def isClientOrderIdCharacter (character : Char) : Bool :=
  character.isAlphanum || character == '-' || character == '_'

def validateClientOrderId (value : String) : Except ClientOrderIdError Unit :=
  if value = "" then .error .empty
  else if clientOrderIdMaxLen < value.length then .error (.tooLong clientOrderIdMaxLen value.length)
  else
    match value.toList.find? (fun character => !isClientOrderIdCharacter character) with
    | some character => .error (.unsupportedCharacter character)
    | none => .ok ()

def ClientOrderId.new (value : String) : Except ClientOrderIdError ClientOrderId :=
  (validateClientOrderId value).map fun _ => { value := value }

/-- `BrokerOrderId::from_broker_native_exact`; `none` is its only error. -/
def BrokerOrderId.fromBrokerNativeExact (value : String) : Option BrokerOrderId :=
  if present : value ≠ "" then some { value := value, nonEmpty := present } else none

/-- `BrokerTradeId::from_broker_native_exact`; `none` is its only error. -/
def BrokerTradeId.fromBrokerNativeExact (value : String) : Option BrokerTradeId :=
  if present : value ≠ "" then some { value := value, nonEmpty := present } else none

theorem sampleOrderId_nonEmpty : "B-1" ≠ "" := by decide

theorem sampleTradeId_nonEmpty : "T-1" ≠ "" := by decide

/-- The order and the trade that the samples of the development are about. -/
def sampleOrderId : BrokerOrderId :=
  { value := "B-1", nonEmpty := sampleOrderId_nonEmpty }

def sampleTradeId : BrokerTradeId :=
  { value := "T-1", nonEmpty := sampleTradeId_nonEmpty }

/-- The thirty-two characters of a derived client order id. -/
def clientIdAlphabet : List Char :=
  "0123456789ABCDEFGHJKMNPQRSTVWXYZ".toList

def clientIdCharacter (index : UInt16) : Char :=
  clientIdAlphabet.getD index.toNat '0'

/-- The inner `while bits >= 5` loop: emit the top five buffered bits. -/
def emitFullGroups (buffer : UInt16) (output : List Char) : Nat → List Char × Nat
  | bits + 5 =>
      emitFullGroups buffer
        (output ++ [clientIdCharacter ((buffer >>> UInt16.ofNat bits) &&& 0b11111)]) bits
  | bits => (output, bits)

/-- Shift twelve bytes through a sixteen-bit buffer, five bits a character. -/
def encodeUuidPrefixBase32 (bytes : List UInt8) : String :=
  let (output, buffer, bits) := (bytes.take 12).foldl
    (fun (output, buffer, bits) byte =>
      let shifted : UInt16 := (buffer <<< 8) ||| byte.toUInt16
      let (emitted, left) := emitFullGroups shifted output (bits + 8)
      (emitted, shifted, left))
    (([] : List Char), (0 : UInt16), 0)
  String.ofList <|
    if 0 < bits then output ++ [clientIdCharacter ((buffer <<< UInt16.ofNat (5 - bits)) &&& 0b11111)]
    else output

def ClientOrderId.fromStrategyRequest (requestId : StrategyRequestId) : ClientOrderId :=
  { value := encodeUuidPrefixBase32 requestId.uuid.toList }

private theorem uuid_groups (bytes : List UInt8) :
    bytes.take 4 ++ ((bytes.drop 4).take 2 ++ ((bytes.drop 6).take 2 ++
      ((bytes.drop 8).take 2 ++ bytes.drop 10))) = bytes := by
  have fourth : (bytes.drop 8).take 2 ++ bytes.drop 10 = bytes.drop 8 := by
    simpa using List.take_append_drop 2 (bytes.drop 8)
  have third : (bytes.drop 6).take 2 ++ bytes.drop 8 = bytes.drop 6 := by
    simpa using List.take_append_drop 2 (bytes.drop 6)
  have second : (bytes.drop 4).take 2 ++ bytes.drop 6 = bytes.drop 4 := by
    simpa using List.take_append_drop 2 (bytes.drop 4)
  rw [fourth, third, second, List.take_append_drop]

/-- Two uuids with one text are one uuid, so a text key names one request. -/
theorem Uuid.toText_injective : Function.Injective Uuid.toText := by
  intro left right same
  have digits := same
  simp only [Uuid.toText, List.append_assoc, List.cons_append] at digits
  obtain ⟨first, digits⟩ := List.append_inj digits (by simp)
  obtain ⟨second, digits⟩ := List.append_inj (List.cons.inj digits).2 (by simp)
  obtain ⟨third, digits⟩ := List.append_inj (List.cons.inj digits).2 (by simp)
  obtain ⟨fourth, digits⟩ := List.append_inj (List.cons.inj digits).2 (by simp)
  have fifth := (List.cons.inj digits).2
  have bytes : left.toList = right.toList := by
    rw [← uuid_groups left.toList, ← uuid_groups right.toList, hexString_injective first,
      hexString_injective second, hexString_injective third, hexString_injective fourth,
      hexString_injective fifth]
  exact Vector.toList_inj.1 bytes

theorem StrategyRequestId.toText_injective : Function.Injective StrategyRequestId.toText := by
  intro left right same
  cases left
  cases right
  exact congrArg _ (Uuid.toText_injective same)

example : (ClientOrderId.fromStrategyRequest ⟨Vector.replicate 16 1⟩).value = "040G2081040G2081040G" := by
  decide

end TradingGateway.BrokerCore.Identifiers
