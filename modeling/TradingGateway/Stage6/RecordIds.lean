import TradingGateway.Stage6.VersionedRecord

/-! Record ids are hashes: what is hashed into the id of each version, and what
follows for two records where the hash does not collide. -/

set_option autoImplicit false

namespace TradingGateway.Stage6.RecordIds

open BrokerCore.Identifiers JournalRecord ReconciliationV2 VersionedRecord
open Stage8b.WorkingLimitEvidence
open Foundation.Bytes Foundation.ExceptRun

section Preimages

def CollisionFree (codec : DurableRecordCodec) (inputs : List (List UInt8)) : Prop :=
  ∀ left ∈ inputs, ∀ right ∈ inputs, codec.sha256 left = codec.sha256 right → left = right

instance (codec : DurableRecordCodec) (inputs : List (List UInt8)) : Decidable (CollisionFree codec inputs) :=
  inferInstanceAs (Decidable (∀ left ∈ inputs, ∀ right ∈ inputs, _))

theorem CollisionFree.mono {codec : DurableRecordCodec} {inputs fewer : List (List UInt8)}
    (free : CollisionFree codec inputs) (subset : fewer ⊆ inputs) : CollisionFree codec fewer :=
  fun left leftMember right rightMember => free left (subset leftMember) right (subset rightMember)

theorem toBigEndian_injective {width left right : Nat} (leftSmall : left < 256 ^ width)
    (rightSmall : right < 256 ^ width) (same : toBigEndian width left = toBigEndian width right) : left = right := by
  rw [← ofBigEndian_toBigEndian leftSmall, same, ofBigEndian_toBigEndian rightSmall]

/-- The request and the sequence can be read back from the bytes hashed into a record id. -/
theorem recordIdPreimage_injective {request other : StrategyRequestId} {sequence otherSequence : Stage6LifecycleSequence}
    (same : recordIdPreimage request sequence = recordIdPreimage other otherSequence) :
    request = other ∧ sequence = otherSequence := by
  unfold recordIdPreimage at same
  rw [List.append_assoc, List.append_assoc, List.append_cancel_left_eq] at same
  obtain ⟨sameUuid, sameSequence⟩ := List.append_inj same (by simp)
  have bound (value : UInt64) : value.toNat < 256 ^ 8 := value.toNat_lt
  have sameValue : sequence.value = otherSequence.value :=
    UInt64.toNat_inj.1 (toBigEndian_injective (bound _) (bound _) sameSequence)
  constructor
  · cases request
    cases other
    simpa [Vector.toList_inj] using sameUuid
  · cases sequence
    cases otherSequence
    simpa using sameValue

variable {codec : ReconciliationCodec}

def outcomeIdPreimage (evidence : Stage8bP1d3OutcomeEvidenceV1) : List UInt8 :=
  "stage6-p1d3-outcome-record-v1".toUTF8.toList ++
    lengthPrefixed (String.ofList evidence.operationalIdentitySha256).toUTF8.toList ++
    lengthPrefixed evidence.brokerOrderId.value.toUTF8.toList ++
    lengthPrefixed evidence.outcomeKind.canonicalName.toUTF8.toList ++
    toBigEndian 8 evidence.transitionOrdinal.toNat

def idPreimage (record : Stage6JournalRecordVersioned codec) : List UInt8 :=
  match record with
  | .v1 v1 => recordIdPreimage v1.durableRequestIdentity.strategyRequestId v1.lifecycleSequence
  | .v2 v2 => recordIdPreimage v2.requestId v2.lifecycleSequence
  | .v3 v3 =>
      match Stage8bP1d3OutcomeEvidenceV1.decodeCanonical codec.toOutcomeEvidenceCodec v3.outcomeEvidenceBytes with
      | .ok evidence => outcomeIdPreimage evidence
      | .error _ => []
  | .v4 v4 => "moex.stage6.schedule-evidence-bound.record-id.v1".toUTF8.toList ++ 0 ::
      codec.bodyV4ToVec v4.toStage6JournalRecordBodyV4

theorem v2_recordId (v2 : Stage6JournalRecordV2 codec.toTransitionCodec) :
    v2.journalRecordId = Stage6JournalRecordId.derive codec.toDurableRecordCodec v2.requestId v2.lifecycleSequence := by
  have valid := v2.valid
  unfold Stage6JournalRecordWireV2.validate at valid
  obtain ⟨_, valid⟩ := check_bind_ok_iff.1 valid
  obtain ⟨_, valid⟩ := check_bind_ok_iff.1 valid
  obtain ⟨derived, _⟩ := check_bind_ok_iff.1 valid
  simpa using derived

/-- Every record carries the hash of its own id bytes. -/
theorem journalRecordId_eq_hash (record : Stage6JournalRecordVersioned codec) :
    record.journalRecordId.value = (codec.sha256 (idPreimage record)).hex := by
  cases record with
  | v1 v1 => exact congrArg (fun id => id.value) v1.facts.recordId
  | v2 v2 => exact congrArg (fun id => id.value) (v2_recordId v2)
  | v3 v3 =>
      have valid := v3.valid
      unfold Stage6JournalRecordWireV3.validate at valid
      obtain ⟨_, valid⟩ := check_bind_ok_iff.1 valid
      obtain ⟨evidence, decoded, valid⟩ := bind_ok_iff.1 valid
      obtain ⟨_, _, valid⟩ := bind_ok_iff.1 valid
      obtain ⟨_, _, valid⟩ := bind_ok_iff.1 valid
      rw [mapError_ok_iff] at decoded
      simp only [rejectIf_ok_iff, not_or, ne_eq, not_not] at valid
      simp only [idPreimage, decoded]
      exact congrArg (fun id => id.value) valid.1
  | v4 v4 =>
      have valid := v4.valid
      unfold Stage6JournalRecordWireV4.validate at valid
      obtain ⟨valid, _⟩ := check_bind_ok_iff.1 valid
      unfold Stage6JournalRecordWireV4.validateEnvelope at valid
      obtain ⟨_, _, valid⟩ := bind_ok_iff.1 valid
      obtain ⟨_, _, valid⟩ := bind_ok_iff.1 valid
      obtain ⟨_, _, valid⟩ := bind_ok_iff.1 valid
      obtain ⟨_, _, valid⟩ := bind_ok_iff.1 valid
      obtain ⟨_, _, valid⟩ := bind_ok_iff.1 valid
      obtain ⟨_, _, valid⟩ := bind_ok_iff.1 valid
      obtain ⟨_, valid⟩ := check_bind_ok_iff.1 valid
      obtain ⟨_, valid⟩ := check_bind_ok_iff.1 valid
      obtain ⟨_, valid⟩ := check_bind_ok_iff.1 valid
      obtain ⟨_, valid⟩ := check_bind_ok_iff.1 valid
      obtain ⟨derived, derives, valid⟩ := bind_ok_iff.1 valid
      simp only [rejectIf_ok_iff, ne_eq, not_not] at valid
      unfold Stage6JournalRecordBodyV4.deriveRecordId at derives
      rw [mapError_ok_iff] at derives
      unfold Stage6JournalRecordId.parseExact at derives
      split at derives
      · cases derives
        exact congrArg (fun id => id.value) valid.symm
      · cases derives

def IdsCollisionFree (records : List (Stage6JournalRecordVersioned codec)) : Prop :=
  CollisionFree codec.toDurableRecordCodec (records.map idPreimage)

instance (records : List (Stage6JournalRecordVersioned codec)) : Decidable (IdsCollisionFree records) :=
  inferInstanceAs (Decidable (CollisionFree _ _))

theorem IdsCollisionFree.mono {records fewer : List (Stage6JournalRecordVersioned codec)}
    (free : IdsCollisionFree records) (subset : fewer ⊆ records) : IdsCollisionFree fewer :=
  CollisionFree.mono free (List.map_subset _ subset)

def chainPosition (record : Stage6JournalRecordVersioned codec) :
    Option (StrategyRequestId × Stage6LifecycleSequence) :=
  match record with
  | .v1 v1 => some (v1.durableRequestIdentity.strategyRequestId, v1.lifecycleSequence)
  | .v2 v2 => some (v2.requestId, v2.lifecycleSequence)
  | .v3 _ | .v4 _ => none

theorem idPreimage_of_chainPosition {record : Stage6JournalRecordVersioned codec} {request : StrategyRequestId}
    {sequence : Stage6LifecycleSequence} (position : chainPosition record = some (request, sequence)) :
    idPreimage record = recordIdPreimage request sequence := by
  cases record with
  | v1 v1 =>
      cases position
      rfl
  | v2 v2 =>
      cases position
      rfl
  | v3 v3 => cases position
  | v4 v4 => cases position

/-- Outcome and schedule records hash other texts than the records of a request's chain. -/
theorem chainPosition_of_idPreimage {record : Stage6JournalRecordVersioned codec} {request : StrategyRequestId}
    {sequence : Stage6LifecycleSequence} (same : idPreimage record = recordIdPreimage request sequence) :
    chainPosition record = some (request, sequence) := by
  have first : (idPreimage record)[7]? = some 106 := by
    rw [same]
    unfold recordIdPreimage
    rw [List.append_assoc, List.getElem?_append_left (by with_unfolding_all decide)]
    with_unfolding_all decide
  cases record with
  | v1 v1 =>
      obtain ⟨rfl, rfl⟩ := recordIdPreimage_injective same
      rfl
  | v2 v2 =>
      obtain ⟨rfl, rfl⟩ := recordIdPreimage_injective same
      rfl
  | v3 v3 =>
      simp only [idPreimage] at first
      cases decoded : Stage8bP1d3OutcomeEvidenceV1.decodeCanonical codec.toOutcomeEvidenceCodec
          v3.outcomeEvidenceBytes with
      | ok evidence =>
          simp only [decoded, outcomeIdPreimage, List.append_assoc] at first
          rw [List.getElem?_append_left (by with_unfolding_all decide)] at first
          exact absurd first (by with_unfolding_all decide)
      | error error => simp [decoded] at first
  | v4 v4 =>
      simp only [idPreimage] at first
      rw [List.getElem?_append_left (by with_unfolding_all decide)] at first
      exact absurd first (by with_unfolding_all decide)

/-- A record that shares the id of a chain record stands at its position. -/
theorem chainPosition_of_same_id {records : List (Stage6JournalRecordVersioned codec)}
    (free : IdsCollisionFree records) {record chained : Stage6JournalRecordVersioned codec}
    (member : record ∈ records) (chainedMember : chained ∈ records) {request : StrategyRequestId}
    {sequence : Stage6LifecycleSequence} (position : chainPosition chained = some (request, sequence))
    (same : record.journalRecordId.value = chained.journalRecordId.value) :
    chainPosition record = some (request, sequence) := by
  rw [journalRecordId_eq_hash, journalRecordId_eq_hash] at same
  have samePreimage := free _ (List.mem_map_of_mem member) _ (List.mem_map_of_mem chainedMember)
    (Sha256Output.hex_injective same)
  exact chainPosition_of_idPreimage (samePreimage.trans (idPreimage_of_chainPosition position))

end Preimages

end TradingGateway.Stage6.RecordIds
