import TradingGateway.Stage6.VersionedRecord

/-! The equality that the source derives for journal records. Decimals in them
compare by value, not by their digits; everything else compares structurally. -/

set_option autoImplicit false

namespace TradingGateway.Stage6.VersionedRecord

open BrokerCore.FixedPoint DurableIdentity JournalRecord ReconciliationV2

instance : BEq Decimal := ⟨fun left right => decide (left.Same right)⟩

instance : ReflBEq Decimal := ⟨by simp [BEq.beq, Decimal.Same]⟩

deriving instance BEq, ReflBEq for PlaceCommandPayload
deriving instance BEq, ReflBEq for Stage6DurableCommandPayloadV1

instance : BEq Stage6DurableCommandSnapshotV1 := ⟨fun left right => left.payload == right.payload⟩

instance : ReflBEq Stage6DurableCommandSnapshotV1 :=
  ⟨fun {snapshot} => beq_self_eq_true snapshot.payload⟩

deriving instance BEq, ReflBEq for Stage6JournalPayloadV1
deriving instance BEq, ReflBEq for Stage6JournalRecordWireV1
deriving instance BEq, ReflBEq for Stage6ReconciliationFillEffectV2
deriving instance BEq, ReflBEq for Stage6BrokerOrderFactV2
deriving instance BEq, ReflBEq for Stage6MaterialTradeFactV2
deriving instance BEq, ReflBEq for Stage6AccountSafetySummaryV2
deriving instance BEq, ReflBEq for Stage6PreAppendPreconditionV2
deriving instance BEq, ReflBEq for Stage6ExactOrderObservationV2
deriving instance BEq, ReflBEq for AttemptedLookup
deriving instance BEq, ReflBEq for Stage6ExactLookupEvidenceV2
deriving instance BEq, ReflBEq for Stage6ReconciliationTransitionPayloadV2
deriving instance BEq, ReflBEq for Stage6JournalRecordWireV2
deriving instance BEq, ReflBEq for Stage6JournalRecordWireV3
deriving instance BEq, ReflBEq for Stage8bP1eRequestOrOrderBindingV1
deriving instance BEq, ReflBEq for Stage6ScheduleM10IdentityV4
deriving instance BEq, ReflBEq for Stage6JournalRecordBodyV4
deriving instance BEq, ReflBEq for Stage6JournalRecordWireV4

section Records

variable {codec : ReconciliationCodec}

instance : BEq (Stage6JournalRecordV1 codec.toDurableRecordCodec) :=
  ⟨fun left right => left.toStage6JournalRecordWireV1 == right.toStage6JournalRecordWireV1⟩

instance : BEq (Stage6JournalRecordV2 codec.toTransitionCodec) :=
  ⟨fun left right => left.toStage6JournalRecordWireV2 == right.toStage6JournalRecordWireV2⟩

instance : BEq (Stage6JournalRecordV3 codec) :=
  ⟨fun left right => left.toStage6JournalRecordWireV3 == right.toStage6JournalRecordWireV3⟩

instance : BEq (Stage6JournalRecordV4 codec) :=
  ⟨fun left right => left.toStage6JournalRecordWireV4 == right.toStage6JournalRecordWireV4⟩

instance : ReflBEq (Stage6JournalRecordV1 codec.toDurableRecordCodec) :=
  ⟨fun {record} => beq_self_eq_true record.toStage6JournalRecordWireV1⟩

instance : ReflBEq (Stage6JournalRecordV2 codec.toTransitionCodec) :=
  ⟨fun {record} => beq_self_eq_true record.toStage6JournalRecordWireV2⟩

instance : ReflBEq (Stage6JournalRecordV3 codec) :=
  ⟨fun {record} => beq_self_eq_true record.toStage6JournalRecordWireV3⟩

instance : ReflBEq (Stage6JournalRecordV4 codec) :=
  ⟨fun {record} => beq_self_eq_true record.toStage6JournalRecordWireV4⟩

end Records

deriving instance BEq, ReflBEq for Stage6JournalRecordVersioned

end TradingGateway.Stage6.VersionedRecord
