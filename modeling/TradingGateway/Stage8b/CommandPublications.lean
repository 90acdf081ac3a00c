import TradingGateway.Foundation.FieldCodes
import TradingGateway.Stage6.PlainCodec
import TradingGateway.Stage6.VersionedRecord

/-! The publication of a command: the entry of the command stream that is reserved for it, the binding of
the sealed reservation, and the bytes that identify each. -/

set_option autoImplicit false

namespace TradingGateway.Stage8b.CommandPublications

open BrokerCore.Identifiers Stage6.JournalRecord Stage6.VersionedRecord
open Foundation.Bytes Foundation.ExceptRun

inductive Stage8bP1d4GeneratedMarketError where
  | invalidIdentity
  | invalidEncoding
  | invalidGeneration
  | invalidComposition
deriving DecidableEq

def reservationSchemaVersion : UInt16 := 1

def bindingSchemaVersion : UInt16 := 1

def reservationDomain : String := "moex.stage8b.p1d4.command-publication-reservation.v1"

def reservationCanonicalDomain : List UInt8 :=
  utf8Bytes "moex.stage8b.p1d4.command-publication-reservation.canonical.v1" ++ [0]

def bindingDomain : String := "moex.stage8b.p1d4.command-publication-binding.v1"

def bindingCanonicalDomain : List UInt8 :=
  utf8Bytes "moex.stage8b.p1d4.command-publication-binding.canonical.v1" ++ [0]

section Texts

def parseU64 (digits : List Char) : Except Stage8bP1d4GeneratedMarketError UInt64 := do
  let number := Nat.ofDigitChars 10 digits 0
  rejectIf (2 ^ 64 ≤ number) .invalidIdentity
  .ok (UInt64.ofNat number)

def parseRedisId (value : String) : Except Stage8bP1d4GeneratedMarketError (UInt64 × UInt64) :=
  match value.toList.span (· != '-') with
  | (milliseconds, '-' :: sequence) => do
      rejectIf (milliseconds = [] ∨ sequence = [] ∨ milliseconds.contains '-' = true ∨ sequence.contains '-' = true ∨
        (1 < milliseconds.length ∧ milliseconds.head? = some '0') ∨
        (1 < sequence.length ∧ sequence.head? = some '0') ∨
        milliseconds.all Char.isDigit = false ∨ sequence.all Char.isDigit = false) .invalidIdentity
      let milliseconds ← parseU64 milliseconds
      let sequence ← parseU64 sequence
      .ok (milliseconds, sequence)
  | _ => .error .invalidIdentity

/-- `u64::MAX`. -/
def u64Max : UInt64 := 0xFFFFFFFFFFFFFFFF

def immediateSuccessor (value : UInt64 × UInt64) : Except Stage8bP1d4GeneratedMarketError (UInt64 × UInt64) :=
  if value.2 < u64Max then .ok (value.1, value.2 + 1)
  else if value.1 < u64Max then .ok (value.1 + 1, 0)
  else .error .invalidIdentity

def formatRedisId (value : UInt64 × UInt64) : String :=
  toString value.1.toNat ++ "-" ++ toString value.2.toNat

/-- `stage8b_p1d4_immediate_redis_successor`. -/
def immediateRedisSuccessor (value : String) : Except Stage8bP1d4GeneratedMarketError String := do
  let parsed ← parseRedisId value
  let successor ← immediateSuccessor parsed
  .ok (formatRedisId successor)

def nul : Char := Char.ofNat 0

def lpUtf8 (value : String) : Except Stage8bP1d4GeneratedMarketError (List UInt8) := do
  rejectIf (value.toList.contains nul = true) .invalidEncoding
  rejectIf (2 ^ 32 ≤ (utf8Bytes value).length) .invalidEncoding
  .ok (toBigEndian 4 (utf8Bytes value).length ++ utf8Bytes value)

def isSha256 (value : HexText) : Bool :=
  value.length == 64 && value.all isLowerHex

def rawSha256 (value : HexText) : Except Stage8bP1d4GeneratedMarketError (List UInt8) := do
  rejectIf (isSha256 value = false) .invalidEncoding
  .ok (decodeHexPairs value)

def redisIdBytes (value : String) : Except Stage8bP1d4GeneratedMarketError (List UInt8) := do
  let (milliseconds, sequence) ← parseRedisId value
  .ok (toBigEndian 8 milliseconds.toNat ++ toBigEndian 8 sequence.toNat)

def framed (domain body : List UInt8) : Except Stage8bP1d4GeneratedMarketError (List UInt8) := do
  rejectIf (2 ^ 64 ≤ body.length) .invalidEncoding
  .ok (domain ++ toBigEndian 8 body.length ++ body)

def token (value : String) : Bool :=
  value != "" && !value.toList.contains nul

end Texts

/-- The fields that a reservation and a binding both write first. -/
structure PublicationFields where
  schemaVersion : UInt16
  domain : String
  sourceStream : String
  sourceGroup : String
  sourceM10RedisId : String
  semanticBatchIdSha256 : HexText
  strategyRequestId : StrategyRequestId
  canonicalCommandSha256 : HexText
  canonicalEnvelopeSha256 : HexText
  commandStream : String
  commandGroup : String
  commandStreamPredecessorId : String
  commandEntryId : String
  prepublicationPackageGeneration : UInt64
deriving DecidableEq

def PublicationFields.bytes (fields : PublicationFields) : Except Stage8bP1d4GeneratedMarketError (List UInt8) := do
  let domain ← lpUtf8 fields.domain
  let sourceStream ← lpUtf8 fields.sourceStream
  let sourceGroup ← lpUtf8 fields.sourceGroup
  let sourceM10 ← redisIdBytes fields.sourceM10RedisId
  let semanticBatch ← rawSha256 fields.semanticBatchIdSha256
  let command ← rawSha256 fields.canonicalCommandSha256
  let envelope ← rawSha256 fields.canonicalEnvelopeSha256
  let commandStream ← lpUtf8 fields.commandStream
  let commandGroup ← lpUtf8 fields.commandGroup
  let predecessor ← redisIdBytes fields.commandStreamPredecessorId
  let entry ← redisIdBytes fields.commandEntryId
  .ok (toBigEndian 2 fields.schemaVersion.toNat ++ domain ++ sourceStream ++ sourceGroup ++ sourceM10 ++
    semanticBatch ++ fields.strategyRequestId.uuid.toList ++ command ++ envelope ++ commandStream ++ commandGroup ++
    predecessor ++ entry ++ toBigEndian 8 fields.prepublicationPackageGeneration.toNat)

structure Stage8bP1d4CommandPublicationReservationV1 where
  schemaVersion : UInt16
  domain : String
  sourceStream : String
  sourceGroup : String
  sourceM10RedisId : String
  semanticBatchIdSha256 : HexText
  strategyRequestId : StrategyRequestId
  canonicalCommandSha256 : HexText
  canonicalEnvelopeSha256 : HexText
  commandStream : String
  commandGroup : String
  commandStreamPredecessorId : String
  reservedCommandEntryId : String
  prepublicationPackageGeneration : UInt64
  publicationReservationSha256 : HexText
deriving DecidableEq

structure Stage8bP1d4CommandPublicationBindingV1 where
  schemaVersion : UInt16
  domain : String
  sourceStream : String
  sourceGroup : String
  sourceM10RedisId : String
  semanticBatchIdSha256 : HexText
  strategyRequestId : StrategyRequestId
  canonicalCommandSha256 : HexText
  canonicalEnvelopeSha256 : HexText
  commandStream : String
  commandGroup : String
  commandStreamPredecessorId : String
  commandEntryId : String
  prepublicationPackageGeneration : UInt64
  publicationReservationSha256 : HexText
  prepublicationSealGeneration : UInt64
  prepublicationSealCommitmentSha256 : HexText
  publicationBindingSha256 : HexText
deriving DecidableEq

section Reservation

variable (sha256 : List UInt8 → Sha256Output)

namespace Stage8bP1d4CommandPublicationReservationV1

variable (reservation : Stage8bP1d4CommandPublicationReservationV1)

def fields : PublicationFields where
  schemaVersion := reservation.schemaVersion
  domain := reservation.domain
  sourceStream := reservation.sourceStream
  sourceGroup := reservation.sourceGroup
  sourceM10RedisId := reservation.sourceM10RedisId
  semanticBatchIdSha256 := reservation.semanticBatchIdSha256
  strategyRequestId := reservation.strategyRequestId
  canonicalCommandSha256 := reservation.canonicalCommandSha256
  canonicalEnvelopeSha256 := reservation.canonicalEnvelopeSha256
  commandStream := reservation.commandStream
  commandGroup := reservation.commandGroup
  commandStreamPredecessorId := reservation.commandStreamPredecessorId
  commandEntryId := reservation.reservedCommandEntryId
  prepublicationPackageGeneration := reservation.prepublicationPackageGeneration

def canonicalBytesUnchecked : Except Stage8bP1d4GeneratedMarketError (List UInt8) := do
  let body ← reservation.fields.bytes
  framed reservationCanonicalDomain body

def validate : Except Stage8bP1d4GeneratedMarketError Unit := do
  rejectIf (reservation.schemaVersion ≠ reservationSchemaVersion ∨ reservation.domain ≠ reservationDomain ∨
    reservation.prepublicationPackageGeneration = 0 ∨ token reservation.sourceStream = false ∨
    token reservation.sourceGroup = false ∨ token reservation.commandStream = false ∨
    token reservation.commandGroup = false ∨ isSha256 reservation.semanticBatchIdSha256 = false ∨
    isSha256 reservation.canonicalCommandSha256 = false ∨ isSha256 reservation.canonicalEnvelopeSha256 = false ∨
    isSha256 reservation.publicationReservationSha256 = false) .invalidIdentity
  let predecessor ← parseRedisId reservation.commandStreamPredecessorId
  let reserved ← parseRedisId reservation.reservedCommandEntryId
  let successor ← immediateSuccessor predecessor
  rejectIf (successor ≠ reserved ∨ (parseRedisId reservation.sourceM10RedisId).isOk = false) .invalidIdentity
  let bytes ← reservation.canonicalBytesUnchecked
  rejectIf ((sha256 bytes).hex ≠ reservation.publicationReservationSha256) .invalidIdentity

def canonicalBytes : Except Stage8bP1d4GeneratedMarketError (List UInt8) := do
  reservation.validate sha256
  reservation.canonicalBytesUnchecked

def SameFields (other : Stage8bP1d4CommandPublicationReservationV1) : Prop :=
  { reservation with publicationReservationSha256 := [] } = { other with publicationReservationSha256 := [] }

end Stage8bP1d4CommandPublicationReservationV1

namespace Stage8bP1d4CommandPublicationBindingV1

variable (binding : Stage8bP1d4CommandPublicationBindingV1) (reservation : Stage8bP1d4CommandPublicationReservationV1)

def fields : PublicationFields where
  schemaVersion := binding.schemaVersion
  domain := binding.domain
  sourceStream := binding.sourceStream
  sourceGroup := binding.sourceGroup
  sourceM10RedisId := binding.sourceM10RedisId
  semanticBatchIdSha256 := binding.semanticBatchIdSha256
  strategyRequestId := binding.strategyRequestId
  canonicalCommandSha256 := binding.canonicalCommandSha256
  canonicalEnvelopeSha256 := binding.canonicalEnvelopeSha256
  commandStream := binding.commandStream
  commandGroup := binding.commandGroup
  commandStreamPredecessorId := binding.commandStreamPredecessorId
  commandEntryId := binding.commandEntryId
  prepublicationPackageGeneration := binding.prepublicationPackageGeneration

def canonicalBytesUnchecked : Except Stage8bP1d4GeneratedMarketError (List UInt8) := do
  let identity ← binding.fields.bytes
  let reservationSha256 ← rawSha256 binding.publicationReservationSha256
  let sealCommitment ← rawSha256 binding.prepublicationSealCommitmentSha256
  framed bindingCanonicalDomain (identity ++ reservationSha256 ++
    toBigEndian 8 binding.prepublicationSealGeneration.toNat ++ sealCommitment)

def validateAgainst : Except Stage8bP1d4GeneratedMarketError Unit := do
  reservation.validate sha256
  rejectIf (binding.schemaVersion ≠ bindingSchemaVersion ∨ binding.domain ≠ bindingDomain ∨
    binding.sourceStream ≠ reservation.sourceStream ∨ binding.sourceGroup ≠ reservation.sourceGroup ∨
    binding.sourceM10RedisId ≠ reservation.sourceM10RedisId ∨
    binding.semanticBatchIdSha256 ≠ reservation.semanticBatchIdSha256 ∨
    binding.strategyRequestId ≠ reservation.strategyRequestId ∨
    binding.canonicalCommandSha256 ≠ reservation.canonicalCommandSha256 ∨
    binding.canonicalEnvelopeSha256 ≠ reservation.canonicalEnvelopeSha256 ∨
    binding.commandStream ≠ reservation.commandStream ∨ binding.commandGroup ≠ reservation.commandGroup ∨
    binding.commandStreamPredecessorId ≠ reservation.commandStreamPredecessorId ∨
    binding.commandEntryId ≠ reservation.reservedCommandEntryId ∨
    binding.prepublicationPackageGeneration ≠ reservation.prepublicationPackageGeneration ∨
    binding.publicationReservationSha256 ≠ reservation.publicationReservationSha256 ∨
    binding.prepublicationSealGeneration = 0 ∨ isSha256 binding.prepublicationSealCommitmentSha256 = false ∨
    isSha256 binding.publicationBindingSha256 = false) .invalidIdentity
  let bytes ← binding.canonicalBytesUnchecked
  rejectIf ((sha256 bytes).hex ≠ binding.publicationBindingSha256) .invalidIdentity

def canonicalBytes : Except Stage8bP1d4GeneratedMarketError (List UInt8) := do
  binding.validateAgainst sha256 reservation
  binding.canonicalBytesUnchecked

def SameFields (other : Stage8bP1d4CommandPublicationBindingV1) : Prop :=
  { binding with publicationBindingSha256 := [] } = { other with publicationBindingSha256 := [] }

end Stage8bP1d4CommandPublicationBindingV1

end Reservation

end TradingGateway.Stage8b.CommandPublications
