import TradingGateway.Stage6.DurableIdentity

/-! Journal records of the first version: their identifiers, digests, payloads,
constructors and canonical codec. SHA-256 and the JSON encoder come from outside
the repository and are the codec every definition here takes. -/

set_option autoImplicit false

namespace TradingGateway.Stage6.JournalRecord

open BrokerCore.HybridAttribution BrokerCore.Identifiers
open DurableIdentity Foundation.Bytes Foundation.ExceptRun

def stage6DurableRecordSchemaVersion : UInt16 := 1

abbrev HexText := List Char

/-- The text of a canonical digest: 64 lowercase hexadecimal digits, not all zero. -/
def isCanonicalSha256 (value : HexText) : Bool :=
  value.length == 64 && value != List.replicate 64 '0' && value.all isLowerHex

structure Sha256Output where
  bytes : List UInt8
  length_bytes : bytes.length = 32
  nonzero : bytes ≠ List.replicate 32 0
deriving DecidableEq

def Sha256Output.hex (output : Sha256Output) : HexText :=
  hexString output.bytes

private theorem hexString_replicate_zero (count : Nat) :
    hexString (List.replicate count 0) = List.replicate (2 * count) '0' := by
  induction count with
  | zero => rfl
  | succ count ih =>
      have digits : hexByte 0 = ['0', '0'] := by decide
      rw [List.replicate_succ, hexString_cons, ih, digits]
      rfl

theorem Sha256Output.isCanonicalSha256_hex (output : Sha256Output) :
    isCanonicalSha256 output.hex = true := by
  have differs : hexString output.bytes ≠ List.replicate 64 '0' := by
    intro same
    exact output.nonzero (hexString_injective (by rw [same, hexString_replicate_zero]))
  have lower : (hexString output.bytes).all isLowerHex = true :=
    List.all_eq_true.2 fun _ => isLowerHex_of_mem_hexString
  unfold isCanonicalSha256 Sha256Output.hex
  simp only [Bool.and_eq_true, beq_iff_eq, bne_iff_ne]
  exact ⟨⟨by simp [output.length_bytes], differs⟩, lower⟩

theorem Sha256Output.hex_injective : Function.Injective Sha256Output.hex := by
  intro left right same
  cases left
  cases right
  simpa using hexString_injective same

structure Stage6Sha256Digest where
  value : HexText
  canonical : isCanonicalSha256 value = true
deriving DecidableEq

def Stage6Sha256Digest.parse (value : HexText) : Except Stage6DurableIdentityError Stage6Sha256Digest :=
  if canonical : isCanonicalSha256 value = true then .ok { value := value, canonical := canonical }
  else .error .invalidSha256

structure Stage6JournalRecordId where
  value : HexText
  canonical : isCanonicalSha256 value = true
deriving DecidableEq

def Stage6JournalRecordId.parseExact (value : HexText) :
    Except Stage6DurableIdentityError Stage6JournalRecordId :=
  if canonical : isCanonicalSha256 value = true then .ok { value := value, canonical := canonical }
  else .error .recordIdentityMismatch

structure Stage6LifecycleSequence where
  value : UInt64
  nonzero : value ≠ 0
deriving DecidableEq

def Stage6LifecycleSequence.new (value : UInt64) :
    Except Stage6DurableIdentityError Stage6LifecycleSequence :=
  if nonzero : value ≠ 0 then .ok { value := value, nonzero := nonzero } else .error .sequenceZero

inductive Stage6JournalEventKind where
  | requestAccepted
  | dispatchAttemptRecorded
  | brokerOrderObserved
  | brokerTradeObserved
  | cancelOutcomeObserved
  | reconciliationObserved
  | requestFinalized
  | conflictObserved
deriving DecidableEq

inductive Stage6ReconciliationDispositionV1 where
  | noBrokerOrderFound
  | brokerOrderFound (brokerOrderId : BrokerOrderId)
  | inconclusive
deriving DecidableEq

inductive Stage6CancelOutcomeV1 where
  | canceled
  | alreadyTerminalNonExecution
  | executionObserved
  | rejected
deriving DecidableEq

inductive Stage6RequestFinalDispositionV1 where
  | completed
  | canceled
  | rejected
deriving DecidableEq

inductive Stage6ConflictKindV1 where
  | conflictingReplay
  | identityDrift
  | brokerOrderConflict
  | brokerTradeConflict
  | causalLinkConflict
deriving DecidableEq

inductive Stage6JournalPayloadV1 where
  | requestAccepted (command : Stage6DurableCommandSnapshotV1)
  | brokerOrderObserved (brokerOrderId : BrokerOrderId)
  | brokerTradeObserved (brokerTradeId : BrokerTradeId) (brokerOrderId : BrokerOrderId)
  | dispatchAttemptRecorded (attemptOrdinal : UInt32) (acceptedRequestPayloadSha256 : Stage6Sha256Digest)
  | cancelOutcomeObserved (targetBrokerOrderId : BrokerOrderId) (outcome : Stage6CancelOutcomeV1)
  | reconciliationObserved (disposition : Stage6ReconciliationDispositionV1)
  | requestFinalized (disposition : Stage6RequestFinalDispositionV1)
  | conflictObserved (conflictKind : Stage6ConflictKindV1)
      (conflictingJournalRecordId : Option Stage6JournalRecordId)
      (expectedDigest observedDigest : Option Stage6Sha256Digest)
  | marker
deriving DecidableEq

structure Stage6JournalRecordWireV1 where
  schemaVersion : UInt16
  journalRecordId : Stage6JournalRecordId
  lifecycleSequence : Stage6LifecycleSequence
  previousRecordId : Option Stage6JournalRecordId
  causalParentId : Option Stage6JournalRecordId
  durableRequestIdentity : Stage6DurableRequestIdentityV1
  eventKind : Stage6JournalEventKind
  payload : Stage6JournalPayloadV1
  canonicalPayloadSha256 : Stage6Sha256Digest
  sourceEvidenceSha256 : Stage6Sha256Digest
deriving DecidableEq

/-- What the records take from outside the repository. `recordFromSlice` is the
JSON reader of the wire fields; an absent result is a decode failure. -/
structure DurableRecordCodec where
  sha256 : List UInt8 → Sha256Output
  attributionToVec : HybridRuntimeAttribution → List UInt8
  payloadToVec : Stage6JournalPayloadV1 → List UInt8
  recordToVec : Stage6JournalRecordWireV1 → List UInt8
  recordFromSlice : List UInt8 → Option Stage6JournalRecordWireV1

section Codec

variable (codec : DurableRecordCodec)

/-- `Stage6Sha256Digest::of`. -/
def Stage6Sha256Digest.of (bytes : List UInt8) : Stage6Sha256Digest :=
  { value := (codec.sha256 bytes).hex, canonical := (codec.sha256 bytes).isCanonicalSha256_hex }

def recordIdPreimage (request : StrategyRequestId) (sequence : Stage6LifecycleSequence) : List UInt8 :=
  "stage6-journal-record-v1".toUTF8.toList ++ request.uuid.toList ++ toBigEndian 8 sequence.value.toNat

def Stage6JournalRecordId.derive (request : StrategyRequestId) (sequence : Stage6LifecycleSequence) :
    Stage6JournalRecordId :=
  let output := codec.sha256 (recordIdPreimage request sequence)
  { value := output.hex, canonical := output.isCanonicalSha256_hex }

def lengthPrefixed (bytes : List UInt8) : List UInt8 :=
  toBigEndian 8 bytes.length ++ bytes

def Stage6JournalRecordId.deriveStage8bP1d3Outcome (operationalIdentitySha256 : HexText)
    (brokerOrderId : BrokerOrderId) (transitionOrdinal : UInt64) (outcomeKind : String) :
    Stage6JournalRecordId :=
  let output := codec.sha256 ("stage6-p1d3-outcome-record-v1".toUTF8.toList ++
    lengthPrefixed (String.ofList operationalIdentitySha256).toUTF8.toList ++
    lengthPrefixed brokerOrderId.value.toUTF8.toList ++ lengthPrefixed outcomeKind.toUTF8.toList ++
    toBigEndian 8 transitionOrdinal.toNat)
  { value := output.hex, canonical := output.isCanonicalSha256_hex }

def eventMatchesPayload (kind : Stage6JournalEventKind) (payload : Stage6JournalPayloadV1) : Bool :=
  match kind, payload with
  | .requestAccepted, .requestAccepted _
  | .brokerOrderObserved, .brokerOrderObserved _
  | .brokerTradeObserved, .brokerTradeObserved _ _
  | .dispatchAttemptRecorded, .dispatchAttemptRecorded _ _
  | .cancelOutcomeObserved, .cancelOutcomeObserved _ _
  | .reconciliationObserved, .reconciliationObserved _
  | .requestFinalized, .requestFinalized _
  | .conflictObserved, .conflictObserved _ _ _ _ => true
  | _, _ => false

def actionAllowsPayload (action : Stage6DurableActionKind) (payload : Stage6JournalPayloadV1) : Bool :=
  match action, payload with
  | .place, .requestAccepted _
  | .place, .dispatchAttemptRecorded _ _
  | .place, .brokerOrderObserved _
  | .place, .brokerTradeObserved _ _
  | .place, .reconciliationObserved _
  | .place, .requestFinalized _
  | .place, .conflictObserved _ _ _ _ => true
  | .cancel, .requestAccepted _
  | .cancel, .dispatchAttemptRecorded _ _
  | .cancel, .cancelOutcomeObserved _ _
  | .cancel, .reconciliationObserved .inconclusive
  | .cancel, .requestFinalized _
  | .cancel, .conflictObserved _ _ _ _ => true
  | _, _ => false

def validateActionEvent (action : Stage6DurableActionKind) (payload : Stage6JournalPayloadV1) :
    Except Stage6DurableIdentityError Unit :=
  rejectIf (actionAllowsPayload action payload = false) .invalidActionEvent

def conflictPayloadInvalid (conflicting : Option Stage6JournalRecordId)
    (expected observed : Option Stage6Sha256Digest) : Prop :=
  (conflicting = none ∧ expected = none ∧ observed = none) ∨ expected.isSome ≠ observed.isSome

instance (conflicting : Option Stage6JournalRecordId) (expected observed : Option Stage6Sha256Digest) :
    Decidable (conflictPayloadInvalid conflicting expected observed) :=
  inferInstanceAs (Decidable (_ ∨ _))

def Stage6JournalRecordWireV1.validate (record : Stage6JournalRecordWireV1) :
    Except Stage6DurableIdentityError Unit := do
  rejectIf (record.schemaVersion ≠ stage6DurableRecordSchemaVersion) .unsupportedSchema
  rejectIf (record.journalRecordId ≠ Stage6JournalRecordId.derive codec
    record.durableRequestIdentity.strategyRequestId record.lifecycleSequence) .recordIdentityMismatch
  let digest := Stage6Sha256Digest.of codec (codec.payloadToVec record.payload)
  rejectIf (record.canonicalPayloadSha256 ≠ digest) .payloadDigestMismatch
  rejectIf (record.payload = .marker) .unsupportedEventPayload
  rejectIf (eventMatchesPayload record.eventKind record.payload = false) .eventPayloadMismatch
  validateActionEvent record.durableRequestIdentity.action record.payload
  match record.payload with
  | .requestAccepted command => validateSnapshotIdentity record.durableRequestIdentity command
  | .dispatchAttemptRecorded attemptOrdinal _ =>
      rejectIf (attemptOrdinal = 0) .invalidDispatchAttemptOrdinal
  | .cancelOutcomeObserved targetBrokerOrderId _ =>
      rejectIf (record.durableRequestIdentity.action ≠ .cancel ∨
        record.durableRequestIdentity.targetBrokerOrderId ≠ some targetBrokerOrderId)
        .invalidCancelOutcomePayload
  | .conflictObserved _ conflicting expected observed =>
      rejectIf (conflictPayloadInvalid conflicting expected observed) .invalidConflictPayload
  | _ => .ok ()
  record.durableRequestIdentity.validateSelf

/-- A record that passes its own validation; every constructor and the decoder
end in that check. -/
structure Stage6JournalRecordV1 extends Stage6JournalRecordWireV1 where
  valid : toStage6JournalRecordWireV1.validate codec = .ok ()
deriving DecidableEq

variable {codec}

def Stage6JournalRecordV1.ofWire (wire : Stage6JournalRecordWireV1) :
    Except Stage6DurableIdentityError (Stage6JournalRecordV1 codec) :=
  match validated : wire.validate codec with
  | .error error => .error error
  | .ok () => .ok { toStage6JournalRecordWireV1 := wire, valid := validated }

def Stage6JournalRecordV1.build (identity : Stage6DurableRequestIdentityV1)
    (eventKind : Stage6JournalEventKind) (payload : Stage6JournalPayloadV1)
    (sequence : Stage6LifecycleSequence) (previous causalParent : Option Stage6JournalRecordId)
    (sourceEvidence : Stage6Sha256Digest) :
    Except Stage6DurableIdentityError (Stage6JournalRecordV1 codec) := do
  identity.validateSelf
  Stage6JournalRecordV1.ofWire {
    schemaVersion := stage6DurableRecordSchemaVersion
    journalRecordId := Stage6JournalRecordId.derive codec identity.strategyRequestId sequence
    lifecycleSequence := sequence
    previousRecordId := previous
    causalParentId := causalParent
    durableRequestIdentity := identity
    eventKind := eventKind
    payload := payload
    canonicalPayloadSha256 := Stage6Sha256Digest.of codec (codec.payloadToVec payload)
    sourceEvidenceSha256 := sourceEvidence }

def Stage6JournalRecordV1.requestAccepted (identity : Stage6DurableRequestIdentityV1)
    (command : Stage6DurableCommandSnapshotV1) (sequence : Stage6LifecycleSequence)
    (previous causalParent : Option Stage6JournalRecordId) (sourceEvidence : Stage6Sha256Digest) :
    Except Stage6DurableIdentityError (Stage6JournalRecordV1 codec) := do
  validateSnapshotIdentity identity command
  Stage6JournalRecordV1.build identity .requestAccepted (.requestAccepted command) sequence previous
    causalParent sourceEvidence

def Stage6JournalRecordV1.dispatchAttemptRecorded (identity : Stage6DurableRequestIdentityV1)
    (attemptOrdinal : UInt32) (acceptedRequestPayloadSha256 : Stage6Sha256Digest)
    (sequence : Stage6LifecycleSequence) (previous : Option Stage6JournalRecordId)
    (sourceEvidence : Stage6Sha256Digest) :
    Except Stage6DurableIdentityError (Stage6JournalRecordV1 codec) := do
  rejectIf (attemptOrdinal = 0) .invalidDispatchAttemptOrdinal
  Stage6JournalRecordV1.build identity .dispatchAttemptRecorded
    (.dispatchAttemptRecorded attemptOrdinal acceptedRequestPayloadSha256) sequence previous previous
    sourceEvidence

def Stage6JournalRecordV1.brokerOrderObserved (identity : Stage6DurableRequestIdentityV1)
    (brokerOrderId : BrokerOrderId) (sequence : Stage6LifecycleSequence)
    (previous : Option Stage6JournalRecordId) (sourceEvidence : Stage6Sha256Digest) :
    Except Stage6DurableIdentityError (Stage6JournalRecordV1 codec) := do
  rejectIf (identity.action ≠ .place) .invalidActionEvent
  Stage6JournalRecordV1.build identity .brokerOrderObserved (.brokerOrderObserved brokerOrderId) sequence
    previous previous sourceEvidence

def Stage6JournalRecordV1.brokerTradeObserved (identity : Stage6DurableRequestIdentityV1)
    (brokerTradeId : BrokerTradeId) (brokerOrderId : BrokerOrderId) (sequence : Stage6LifecycleSequence)
    (previous : Option Stage6JournalRecordId) (sourceEvidence : Stage6Sha256Digest) :
    Except Stage6DurableIdentityError (Stage6JournalRecordV1 codec) := do
  rejectIf (identity.action ≠ .place) .invalidActionEvent
  Stage6JournalRecordV1.build identity .brokerTradeObserved
    (.brokerTradeObserved brokerTradeId brokerOrderId) sequence previous previous sourceEvidence

def Stage6JournalRecordV1.cancelOutcomeObserved (identity : Stage6DurableRequestIdentityV1)
    (targetBrokerOrderId : BrokerOrderId) (outcome : Stage6CancelOutcomeV1)
    (sequence : Stage6LifecycleSequence) (previous : Option Stage6JournalRecordId)
    (sourceEvidence : Stage6Sha256Digest) :
    Except Stage6DurableIdentityError (Stage6JournalRecordV1 codec) := do
  rejectIf (identity.action ≠ .cancel ∨ identity.targetBrokerOrderId ≠ some targetBrokerOrderId)
    .invalidCancelOutcomePayload
  Stage6JournalRecordV1.build identity .cancelOutcomeObserved
    (.cancelOutcomeObserved targetBrokerOrderId outcome) sequence previous previous sourceEvidence

def Stage6JournalRecordV1.reconciliationObserved (identity : Stage6DurableRequestIdentityV1)
    (disposition : Stage6ReconciliationDispositionV1) (sequence : Stage6LifecycleSequence)
    (previous : Option Stage6JournalRecordId) (sourceEvidence : Stage6Sha256Digest) :
    Except Stage6DurableIdentityError (Stage6JournalRecordV1 codec) := do
  validateActionEvent identity.action (.reconciliationObserved disposition)
  Stage6JournalRecordV1.build identity .reconciliationObserved (.reconciliationObserved disposition)
    sequence previous previous sourceEvidence

def Stage6JournalRecordV1.requestFinalized (identity : Stage6DurableRequestIdentityV1)
    (disposition : Stage6RequestFinalDispositionV1) (sequence : Stage6LifecycleSequence)
    (previous : Option Stage6JournalRecordId) (sourceEvidence : Stage6Sha256Digest) :
    Except Stage6DurableIdentityError (Stage6JournalRecordV1 codec) :=
  Stage6JournalRecordV1.build identity .requestFinalized (.requestFinalized disposition) sequence
    previous previous sourceEvidence

def Stage6JournalRecordV1.conflictObserved (identity : Stage6DurableRequestIdentityV1)
    (conflictKind : Stage6ConflictKindV1) (conflictingJournalRecordId : Option Stage6JournalRecordId)
    (expectedDigest observedDigest : Option Stage6Sha256Digest) (sequence : Stage6LifecycleSequence)
    (previous : Option Stage6JournalRecordId) (sourceEvidence : Stage6Sha256Digest) :
    Except Stage6DurableIdentityError (Stage6JournalRecordV1 codec) := do
  rejectIf (conflictPayloadInvalid conflictingJournalRecordId expectedDigest observedDigest)
    .invalidConflictPayload
  Stage6JournalRecordV1.build identity .conflictObserved
    (.conflictObserved conflictKind conflictingJournalRecordId expectedDigest observedDigest) sequence
    previous previous sourceEvidence

def Stage6JournalRecordV1.encodeCanonical (record : Stage6JournalRecordV1 codec) : List UInt8 :=
  codec.recordToVec record.toStage6JournalRecordWireV1

/-- Deserialization already validates, so an invalid wire record is a decode failure. -/
def Stage6JournalRecordV1.decodeCanonical (codec : DurableRecordCodec) (bytes : List UInt8) :
    Except Stage6DurableIdentityError (Stage6JournalRecordV1 codec) := do
  let wire ← orReject (codec.recordFromSlice bytes) .decodeFailed
  let record ← (Stage6JournalRecordV1.ofWire wire).mapError fun _ => .decodeFailed
  rejectIf (record.encodeCanonical ≠ bytes) .nonCanonicalEncoding
  .ok record

end Codec

/-! What the validation of a journal record promises about the records that exist. -/

structure PayloadFacts (codec : DurableRecordCodec) (wire : Stage6JournalRecordWireV1) : Prop where
  recordId : wire.journalRecordId =
    Stage6JournalRecordId.derive codec wire.durableRequestIdentity.strategyRequestId wire.lifecycleSequence
  payloadDigest : wire.canonicalPayloadSha256 = Stage6Sha256Digest.of codec (codec.payloadToVec wire.payload)
  eventMatches : eventMatchesPayload wire.eventKind wire.payload = true
  actionAllows : actionAllowsPayload wire.durableRequestIdentity.action wire.payload = true
  attemptNonzero : ∀ attemptOrdinal digest,
    wire.payload = .dispatchAttemptRecorded attemptOrdinal digest → attemptOrdinal ≠ 0

variable {codec : DurableRecordCodec}

theorem Stage6JournalRecordWireV1.validate_facts {wire : Stage6JournalRecordWireV1}
    (valid : wire.validate codec = .ok ()) : PayloadFacts codec wire := by
  unfold Stage6JournalRecordWireV1.validate at valid
  obtain ⟨_, valid⟩ := check_bind_ok_iff.1 valid
  obtain ⟨recordId, valid⟩ := check_bind_ok_iff.1 valid
  obtain ⟨digest, valid⟩ := check_bind_ok_iff.1 valid
  obtain ⟨_, valid⟩ := check_bind_ok_iff.1 valid
  obtain ⟨matched, valid⟩ := check_bind_ok_iff.1 valid
  obtain ⟨allowed, valid⟩ := check_bind_ok_iff.1 valid
  exact {
    recordId := by simpa using recordId
    payloadDigest := by simpa using digest
    eventMatches := by simpa using matched
    actionAllows := by simpa [validateActionEvent] using allowed
    attemptNonzero := by
      intro attemptOrdinal digest shape
      rw [shape] at valid
      obtain ⟨nonzero, _⟩ := check_bind_ok_iff.1 valid
      simpa using nonzero }

theorem Stage6JournalRecordV1.facts (record : Stage6JournalRecordV1 codec) :
    PayloadFacts codec record.toStage6JournalRecordWireV1 :=
  Stage6JournalRecordWireV1.validate_facts record.valid

theorem Stage6JournalRecordV1.ofWire_ok {wire : Stage6JournalRecordWireV1} {record : Stage6JournalRecordV1 codec}
    (success : Stage6JournalRecordV1.ofWire wire = .ok record) : record.toStage6JournalRecordWireV1 = wire := by
  unfold Stage6JournalRecordV1.ofWire at success
  split at success
  · cases success
  · cases success
    rfl

structure BuiltRecord (identity : Stage6DurableRequestIdentityV1) (kind : Stage6JournalEventKind)
    (payload : Stage6JournalPayloadV1) (sequence : Stage6LifecycleSequence)
    (previous : Option Stage6JournalRecordId) (wire : Stage6JournalRecordWireV1) : Prop where
  ofRequest : wire.durableRequestIdentity = identity
  ofKind : wire.eventKind = kind
  carries : wire.payload = payload
  atSequence : wire.lifecycleSequence = sequence
  behind : wire.previousRecordId = previous
  parent : wire.causalParentId = previous

theorem Stage6JournalRecordV1.build_ok {identity : Stage6DurableRequestIdentityV1} {kind : Stage6JournalEventKind}
    {payload : Stage6JournalPayloadV1} {sequence : Stage6LifecycleSequence}
    {previous : Option Stage6JournalRecordId} {source : Stage6Sha256Digest} {record : Stage6JournalRecordV1 codec}
    (success : Stage6JournalRecordV1.build identity kind payload sequence previous previous source = .ok record) :
    BuiltRecord identity kind payload sequence previous record.toStage6JournalRecordWireV1 := by
  obtain ⟨_, built⟩ := check_bind_ok_iff.1 success
  rw [Stage6JournalRecordV1.ofWire_ok built]
  exact { ofRequest := rfl, ofKind := rfl, carries := rfl, atSequence := rfl, behind := rfl, parent := rfl }

end TradingGateway.Stage6.JournalRecord
