import TradingGateway.Stage6.ReplayProperties

/-! Recovery does not depend on how the requests of a journal interleave. -/

set_option autoImplicit false

namespace TradingGateway.Stage6.Replay

open BrokerCore.Identifiers DurableIdentity JournalRecord PlainCodec
open Foundation.ExceptRun

section Reordering

variable {codec : DurableRecordCodec}

/-- `reordered` holds the records of every request in the order `records` has them. -/
def ReordersRequests (records reordered : List (Stage6JournalRecordV1 codec)) : Prop :=
  ∀ request : StrategyRequestId,
    reordered.filter (fun record => record.durableRequestIdentity.strategyRequestId = request) =
      records.filter (fun record => record.durableRequestIdentity.strategyRequestId = request)

def ParentsFirst (records : List (Stage6JournalRecordV1 codec)) : Prop :=
  ∀ (index : Nat) (bound : index < records.length), records[index] ∉ records.take index →
    ∀ parent ∈ records[index].causalParentId,
      ∃ previous ∈ records.take index, previous.journalRecordId = parent

instance (records : List (Stage6JournalRecordV1 codec)) : Decidable (ParentsFirst records) :=
  inferInstanceAs (Decidable (∀ (index : Nat) (_ : index < records.length), _))

/-- Only the requests that occur have to be compared. -/
theorem reordersRequests_of_occurring {records reordered : List (Stage6JournalRecordV1 codec)}
    (occurring : ∀ record ∈ records ++ reordered,
      reordered.filter (fun other => other.durableRequestIdentity.strategyRequestId =
        record.durableRequestIdentity.strategyRequestId) =
      records.filter (fun other => other.durableRequestIdentity.strategyRequestId =
        record.durableRequestIdentity.strategyRequestId)) :
    ReordersRequests records reordered := by
  intro request
  by_cases present : ∃ record ∈ records ++ reordered,
      record.durableRequestIdentity.strategyRequestId = request
  · obtain ⟨record, member, isRequest⟩ := present
    exact isRequest ▸ occurring record member
  · have absent : ∀ record ∈ records ++ reordered,
        record.durableRequestIdentity.strategyRequestId ≠ request :=
      fun record member same => present ⟨record, member, same⟩
    have none (list : List (Stage6JournalRecordV1 codec)) (within : list ⊆ records ++ reordered) :
        list.filter (fun record => record.durableRequestIdentity.strategyRequestId = request) = [] :=
      List.filter_eq_nil_iff.2 fun record member => by simpa using absent record (within member)
    rw [none reordered (by simp), none records (by simp)]

/-- A text key that names no request selects nothing. -/
theorem ReordersRequests.routes {records reordered : List (Stage6JournalRecordV1 codec)}
    (sameOrder : ReordersRequests records reordered) (route : List Char) :
    reordered.filter (fun record => (replayLog codec).route record = route) =
      records.filter (fun record => (replayLog codec).route record = route) := by
  by_cases named : ∃ request : StrategyRequestId, request.toText = route
  · obtain ⟨request, rfl⟩ := named
    have same := sameOrder request
    have texts (record : Stage6JournalRecordV1 codec) :
        decide (record.durableRequestIdentity.strategyRequestId = request) =
          decide ((replayLog codec).route record = request.toText) :=
      decide_eq_decide.2 StrategyRequestId.toText_injective.eq_iff.symm
    simpa only [texts] using same
  · have unnamed (record : Stage6JournalRecordV1 codec) : (replayLog codec).route record ≠ route :=
      fun same => named ⟨_, same⟩
    simp [unnamed]

theorem ParentsFirst.causal {records : List (Stage6JournalRecordV1 codec)}
    (parentsFirst : ParentsFirst records) : (replayLog codec).Causal records := by
  intro before record after split unseen parent isParent
  subst split
  obtain ⟨parentId, hasParent, rfl⟩ := Option.mem_map.1 isParent
  have first : record ∉ before := fun member => unseen record member rfl
  have bound : before.length < (before ++ record :: after).length := by simp
  have found := parentsFirst before.length bound (by simpa using first) parentId (by simpa using hasParent)
  obtain ⟨previous, member, same⟩ := found
  exact ⟨previous, by simpa using member, congrArg Stage6JournalRecordId.value same⟩

/-- Interleaving requests differently recovers the same snapshot. The encoding
is only asked to tell the records of this journal apart. -/
theorem replay_independent_of_interleaving {codec : ReplayCodec}
    {records reordered : List (Stage6JournalRecordV1 codec.toDurableRecordCodec)}
    {snapshot : Stage6ReplaySnapshotV1}
    (encodingInjective : ∀ left ∈ records, ∀ right ∈ records,
      left.encodeCanonical = right.encodeCanonical → left = right)
    (success : Stage6ReplayEngineV1.replay codec records = .ok snapshot)
    (sameOrder : ReordersRequests records reordered) (parentsFirst : ParentsFirst reordered) :
    Stage6ReplayEngineV1.replay codec reordered = .ok snapshot := by
  obtain ⟨cursor, ran, shape⟩ := (replay_ok_iff codec records snapshot).1 success
  have copiesShareRoute : ∀ left ∈ records, ∀ right ∈ records,
      (replayLog codec.toDurableRecordCodec).toLog.SameEntry left right →
        (replayLog codec.toDurableRecordCodec).route left = (replayLog codec.toDurableRecordCodec).route right := by
    intro left leftMember right rightMember same
    rw [encodingInjective left leftMember right rightMember same.2]
  obtain ⟨seen, reran⟩ := (replayLog codec.toDurableRecordCodec).run_reordered ran copiesShareRoute
    sameOrder.routes parentsFirst.causal
  exact (replay_ok_iff codec reordered snapshot).2 ⟨_, reran, shape⟩

end Reordering

section Sample

/-- Two place requests, the second accepted because of the first, and the same
records with the second request's dispatch moved before the first's. -/
def interleavedJournals : Option (List (Stage6JournalRecordV1 plainCodec.toDurableRecordCodec) ×
    List (Stage6JournalRecordV1 plainCodec.toDurableRecordCodec)) := do
  let attribution ← sampleAttribution "ENTRY"
  let evidence := Stage6Sha256Digest.of plainCodec.toDurableRecordCodec [1]
  let identity ← (Stage6DurableRequestIdentityV1.fromPlace (samplePlaceOrder 1) attribution).toOption
  let snapshot ← (Stage6DurableCommandSnapshotV1.fromPlace identity (samplePlaceOrder 1)).toOption
  let other ← (Stage6DurableRequestIdentityV1.fromPlace (samplePlaceOrder 2) attribution).toOption
  let otherSnapshot ← (Stage6DurableCommandSnapshotV1.fromPlace other (samplePlaceOrder 2)).toOption
  let accepted ← (Stage6JournalRecordV1.requestAccepted identity snapshot (sampleSequence 0) none none
    evidence).toOption
  let attempt ← (Stage6JournalRecordV1.dispatchAttemptRecorded identity 1 accepted.canonicalPayloadSha256
    (sampleSequence 1) (some accepted.journalRecordId) evidence).toOption
  let otherAccepted ← (Stage6JournalRecordV1.requestAccepted other otherSnapshot (sampleSequence 0) none
    (some accepted.journalRecordId) evidence).toOption
  let otherAttempt ← (Stage6JournalRecordV1.dispatchAttemptRecorded other 1
    otherAccepted.canonicalPayloadSha256 (sampleSequence 1) (some otherAccepted.journalRecordId)
    evidence).toOption
  some ([accepted, attempt, otherAccepted, otherAttempt], [accepted, otherAccepted, otherAttempt, attempt])

theorem replay_independent_of_interleaving_sample :
    ∃ records reordered snapshot, interleavedJournals = some (records, reordered) ∧ records ≠ reordered ∧
      Stage6ReplayEngineV1.replay plainCodec records = .ok snapshot ∧
        Stage6ReplayEngineV1.replay plainCodec reordered = .ok snapshot := by
  have evaluated : (interleavedJournals.map fun (records, reordered) =>
      decide (records ≠ reordered) && (Stage6ReplayEngineV1.replay plainCodec records).isOk &&
        decide (∀ left ∈ records, ∀ right ∈ records,
          left.encodeCanonical = right.encodeCanonical → left = right) &&
        decide (∀ record ∈ records ++ reordered,
          reordered.filter (fun other => other.durableRequestIdentity.strategyRequestId =
            record.durableRequestIdentity.strategyRequestId) =
          records.filter (fun other => other.durableRequestIdentity.strategyRequestId =
            record.durableRequestIdentity.strategyRequestId)) &&
        decide (ParentsFirst reordered)) = some true := by
    decide +kernel
  obtain ⟨⟨records, reordered⟩, journals, facts⟩ := Option.map_eq_some_iff.1 evaluated
  simp only [Bool.and_eq_true, decide_eq_true_eq] at facts
  obtain ⟨⟨⟨⟨differ, replays⟩, encodingInjective⟩, occurring⟩, parentsFirst⟩ := facts
  obtain ⟨snapshot, success⟩ := exists_ok_of_isOk replays
  exact ⟨records, reordered, snapshot, journals, differ, success,
    replay_independent_of_interleaving encodingInjective success
      (reordersRequests_of_occurring occurring) parentsFirst⟩

end Sample

end TradingGateway.Stage6.Replay
