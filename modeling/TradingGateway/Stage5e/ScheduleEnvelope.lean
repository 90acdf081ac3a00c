import TradingGateway.BrokerCore.InstantMillis
import TradingGateway.Stage5e.ScheduleSource

/-! The signed envelope a schedule is published in, and what it is checked for. -/

set_option autoImplicit false

namespace TradingGateway.Stage5e.ScheduleEnvelope

open BrokerCore.Orders Stage6.JournalRecord
open ScheduleSource

def envelopeDomain : String := "moex.stage8b.p1e.schedule-envelope.v3"
def producerId : String := "finam-readonly-schedule-normalizer-v3"
def producerContract : String := "finam-rest-schedule-to-broker-neutral-v3"
def semanticDomain : String := "moex.stage8b.p1e.schedule-semantic-identity.v1"
def semanticHashDomain : String := "moex.stage8b.p1e.schedule-semantic-identity.sha256.v1"
def signatureDomain : String := "moex.stage8b.p1e.schedule-envelope.signature.v3"
def payloadDomain : String := "moex.stage8b.p1e.schedule-payload.v2"
def keyId : String := "schedule-ed25519-v1"
def sourceGenerationText : String := "1"
def timezoneText : String := "Europe/Moscow"
def m10SecondsU32 : UInt32 := 600
def transportMaxAgeMs : Int := 5000
def normalizedMaxAgeMs : Int := 86400000
def crossSourceMaxSkewMs : Int := 5000
def futureSkewMs : Int := 250

deriving instance DecidableEq for Stage8bP1eScheduleSessionV1, Stage8bP1eDayBoundaryProofV1

structure Stage8bP1eScheduleInstrumentV1 where
  board : String
  brokerSymbol : String
  exchange : String
  market : String
  symbol : String
  tickSize : String
  venueMic : String
deriving DecidableEq

structure Stage8bP1eScheduleRegistryV1 where
  registryIdentitySha256 : HexText
  registryVersion : String
deriving DecidableEq

structure Stage8bP1eStage4SemanticStateV1 where
  boundaryProof : Option Stage8bP1eDayBoundaryProofV1
  evidenceKind : Stage8bP1eScheduleEvidenceKindV1
  scheduleState : Stage8bP1eScheduleStateV1
deriving DecidableEq

structure Stage8bP1eScheduleSemanticIdentityV1 where
  domain : String
  instrument : Stage8bP1eScheduleInstrumentV1
  registry : Stage8bP1eScheduleRegistryV1
  schemaVersion : UInt16
  sessions : List Stage8bP1eScheduleSessionV1
  stage4SemanticState : Stage8bP1eStage4SemanticStateV1
  timeframeSec : UInt32
  timezone : String
  tradingDay : String
deriving DecidableEq

structure Stage8bP1eNormalizedScheduleV2 where
  normalizedPayloadSha256 : HexText
  rawResponseSha256 : HexText
  sessions : List Stage8bP1eScheduleSessionV1
  sourceExpiresAtUtc : String
  sourceObservedAtUtc : String

structure Stage8bP1eStage4EvidenceV2 where
  boundaryProof : Option Stage8bP1eDayBoundaryProofV1
  evidenceKind : Stage8bP1eScheduleEvidenceKindV1
  reportCanonicalJsonHex : HexText
  reportSha256 : HexText
  scheduleState : Stage8bP1eScheduleStateV1
  sourceExpiresAtUtc : String
  sourceObservedAtUtc : String

structure Stage8bP1eSchedulePayloadV2 where
  domain : String
  instrument : Stage8bP1eScheduleInstrumentV1
  normalizedSchedule : Stage8bP1eNormalizedScheduleV2
  registry : Stage8bP1eScheduleRegistryV1
  schemaVersion : UInt16
  stage4Evidence : Stage8bP1eStage4EvidenceV2
  timezone : String
  tradingDay : String

structure Stage8bP1eScheduleEnvelopeV3 where
  domain : String
  instrumentMapFingerprintSha256 : HexText
  keyGeneration : UInt16
  keyId : String
  operationalIdentitySha256 : HexText
  payload : Stage8bP1eSchedulePayloadV2
  payloadSha256 : HexText
  producerContractVersion : String
  producerId : String
  publicationSequence : String
  publishedAtUtc : String
  runtimeConfigFingerprintSha256 : HexText
  scheduleSemanticSha256 : HexText
  schemaVersion : UInt16
  semanticIdentity : Stage8bP1eScheduleSemanticIdentityV1
  semanticIdentityContractVersion : UInt16
  semanticRevision : String
  signatureEd25519Hex : HexText
  sourceGeneration : String

structure Stage8bP1eScheduleHighWaterV1 where
  envelopeSha256 : HexText
  publicationSequence : UInt64
  publishedAtUtc : DateTimeUtc
  scheduleSemanticSha256 : HexText
  semanticRevision : UInt64
  sourceGeneration : UInt64
deriving DecidableEq

structure Stage8bP1eScheduleVerificationContextV1 where
  expectedInstrumentMapFingerprintSha256 : HexText
  expectedOperationalIdentitySha256 : HexText
  expectedRegistryIdentitySha256 : HexText
  expectedRegistryVersion : String
  expectedRuntimeConfigFingerprintSha256 : HexText
  highWater : Option Stage8bP1eScheduleHighWaterV1
  trustedNow : DateTimeUtc

inductive Stage8bP1eScheduleProgressionV1 where
  | bootstrap
  | idempotent
  | monotonicSnapshot
deriving DecidableEq

inductive Stage4BrokerTruthFreshnessSection where
  | positions
  | orders
  | trades
  | cash
  | instruments
  | schedule
deriving DecidableEq

inductive Stage4BrokerTruthSourceStatus where
  | present
  | missing
  | unavailable
  | decodeFailed
  | incomplete
deriving DecidableEq

inductive Stage4BrokerTruthFreshnessStatus where
  | fresh
  | stale
  | unknown
  | unavailable
deriving DecidableEq

structure Stage4BootstrapEvidenceSourceSection where
  kind : Stage4BrokerTruthFreshnessSection
  sourceStatus : Stage4BrokerTruthSourceStatus
  freshnessStatus : Stage4BrokerTruthFreshnessStatus
  requiredForBootstrap : Bool
  blocksBootstrap : Bool
  ageMs : Option Int
  maxAgeMs : UInt64

structure Stage4BrokerTruthSafetyBoundary where
  runtimeLiveEnabled : Bool
  realFinamCommandConsumerEnabled : Bool
  strategyDrivenRealOrdersEnabled : Bool
  realPostDeleteEnabled : Bool
  stopSltpBracketEnabled : Bool
  rawPayloadExported : Bool
deriving DecidableEq

def Stage4BrokerTruthSafetyBoundary.closed : Stage4BrokerTruthSafetyBoundary where
  runtimeLiveEnabled := false
  realFinamCommandConsumerEnabled := false
  strategyDrivenRealOrdersEnabled := false
  realPostDeleteEnabled := false
  stopSltpBracketEnabled := false
  rawPayloadExported := false

structure Stage4BootstrapEvidenceRedaction where
  reportRedacted : Bool
  rawPayloadsExported : Bool
  secretsExported : Bool
  accountSensitiveDumpsExported : Bool
  brokerAccountIdExported : Bool
  rawOrderCommentsExported : Bool

inductive Stage4BrokerTruthBootstrapStatus where
  | bootstrapReady
  | bootstrapBlocked
  | manualInterventionRequired
  | brokerTruthIncomplete
  | brokerTruthStale
  | instrumentMismatch
  | unknownSchedule
  | evidenceIncomplete
  | safetyBoundaryOpen
deriving DecidableEq

inductive Stage4RuntimeBootstrapApplicationStatus where
  | applied
  | blocked
deriving DecidableEq

inductive Stage4AcceptanceStatus where
  | accepted
  | blocked
deriving DecidableEq

/-- The report of the bootstrap. Blockers are listed by name: only whether there are any is asked. -/
structure Stage4BootstrapEvidenceReport where
  schemaVersion : UInt16
  checkedTs : DateTimeUtc
  status : Stage4AcceptanceStatus
  targetInstrument : InstrumentId
  brokerTruthSourceStatus : Stage4BrokerTruthSourceStatus
  sourceSections : List Stage4BootstrapEvidenceSourceSection
  stage4cStatus : Stage4BrokerTruthBootstrapStatus
  stage4cBlockerKinds : List String
  stage4eStatus : Stage4RuntimeBootstrapApplicationStatus
  stage4eBlockerKinds : List String
  stage4fStatus : Stage4AcceptanceStatus
  stage4fBlockerKinds : List String
  stage4gStatus : Stage4AcceptanceStatus
  stage4gBlockerKinds : List String
  stage4gLifecycleIssues : List String
  stage4hStatus : Stage4AcceptanceStatus
  stage4hBlockerKinds : List String
  reasonChain : List String
  redaction : Stage4BootstrapEvidenceRedaction
  safetyBoundary : Stage4BrokerTruthSafetyBoundary
  manualInterventionRequired : Bool
  noLiveAuthorization : Bool
  blockerCount : Nat

def stage4BootstrapEvidenceReportSchemaVersion : UInt16 := 1

end TradingGateway.Stage5e.ScheduleEnvelope
