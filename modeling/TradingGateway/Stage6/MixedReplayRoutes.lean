import TradingGateway.Stage6.MixedReplayProperties

/-! Which request a record of a mixed journal acts on, and what it can do there. -/

set_option autoImplicit false

namespace TradingGateway.Stage6.MixedReplay

open DurableIdentity JournalRecord Replay ReconciliationV2 VersionedRecord
open Stage8b.WorkingLimitEvidence
open Foundation.ExceptRun

variable {codec : ReconciliationCodec}

def outcomeEffect (v3 : Stage6JournalRecordV3 codec) : Option Stage8bP1d3Stage6RequestReplayEffect :=
  ((Stage8bP1d3OutcomeEvidenceV1.decodeCanonical codec.toOutcomeEvidenceCodec
    v3.outcomeEvidenceBytes).toOption.bind fun evidence =>
      (evidence.stage6RequestReplayEffect codec.toOutcomeEvidenceCodec).toOption).join

/-- The request a schedule record advances; a cancel step advances the one accepted just before it. -/
def scheduledRequest (lastAccepted : Option Stage6DurableRequestIdentityV1)
    (v4 : Stage6JournalRecordV4 codec) : Option (List Char) :=
  match v4.transitionKind with
  | .marketExecution | .initialLimitEvaluation =>
      v4.requestOrOrderBinding.strategyRequestId.map String.toList
  | .cancelStep => lastAccepted.map fun identity => identity.strategyRequestId.toText
  | .workingLimitEvaluation | .dayExpiry => none

def requestRoute (lastAccepted : Option Stage6DurableRequestIdentityV1)
    (record : Stage6JournalRecordVersioned codec) : Option (List Char) :=
  match record with
  | .v1 v1 => some (requestKey v1)
  | .v2 v2 => some v2.requestId.toText
  | .v3 v3 => (outcomeEffect v3).map fun effect => effect.requestId.toText
  | .v4 v4 => scheduledRequest lastAccepted v4

inductive RequestEffect (current : Option (MixedWorkingRequest codec))
    (record : Stage6JournalRecordVersioned codec) (updated : MixedWorkingRequest codec) : Prop
  | taken (v1 : Stage6JournalRecordV1 codec.toDurableRecordCodec) (shape : record = .v1 v1)
      (takes : MixedWorkingRequest.takeV1 current v1 = .ok updated)
  | opened (v2 : Stage6JournalRecordV2 codec.toTransitionCodec) (request : MixedWorkingRequest codec)
      (shape : record = .v2 v2) (found : current = some request) (unfinished : request.v1.isFinalized = false)
      (opens : request.applyV2 v2 = .ok updated)
  | settled (v3 : Stage6JournalRecordV3 codec) (effect : Stage8bP1d3Stage6RequestReplayEffect)
      (request : MixedWorkingRequest codec) (shape : record = .v3 v3)
      (isEffect : outcomeEffect v3 = some effect) (found : current = some request)
      (settles : request.applyOutcome effect v3 = .ok updated)
  | scheduled (v4 : Stage6JournalRecordV4 codec) (identity : Stage6DurableRequestIdentityV1)
      (request : MixedWorkingRequest codec) (shape : record = .v4 v4) (found : current = some request)
      (noBatch : request.batch = none) (advances : request.advanceSchedule identity v4 = .ok updated)

/-- What a record of the first version can do to the batch of its request. -/
inductive SuffixEffect (current : Option (Stage6PendingReconciliationBatchV2 codec))
    (v1 : Stage6JournalRecordV1 codec.toDurableRecordCodec)
    (updated : Option (Stage6PendingReconciliationBatchV2 codec)) : Prop
  | noBatch (absent : current = none) (kept : updated = none)
  | beyond (batch : Stage6PendingReconciliationBatchV2 codec) (open_ : current = some batch)
      (complete : batch.completion = .complete) (kept : updated = some batch)
  | next (batch : Stage6PendingReconciliationBatchV2 codec) (entry : Stage6SuffixManifestEntryV2)
      (open_ : current = some batch) (incomplete : batch.completion = .incomplete)
      (named : batch.missingSuffixEntries.head? = some entry)
      (matches_ : entry.matchesRecord codec.toTransitionCodec v1 = true)
      (extends_ : updated = some (batch.extended v1))

namespace MixedWorkingRequest

/-- A record of the first version is applied as ever, and the batch takes its effect. -/
theorem applyV1_ok {request updated : MixedWorkingRequest codec}
    {v1 : Stage6JournalRecordV1 codec.toDurableRecordCodec} (success : request.applyV1 v1 = .ok updated) :
    request.v1.apply v1 = .ok updated.v1 ∧ SuffixEffect request.batch v1 updated.batch := by
  unfold applyV1 at success
  cases batch : request.batch with
  | none =>
      rw [batch] at success
      obtain ⟨state, applied, result⟩ := bind_ok_iff.1 success
      rw [mapError_ok_iff] at applied
      cases result
      exact ⟨applied, .noBatch rfl rfl⟩
  | some current =>
      rw [batch] at success
      cases progress : current.completion with
      | incomplete =>
          simp only [progress, ↓reduceIte] at success
          obtain ⟨entry, named, success⟩ := bind_ok_iff.1 success
          obtain ⟨matched, success⟩ := check_bind_ok_iff.1 success
          obtain ⟨state, applied, result⟩ := bind_ok_iff.1 success
          rw [mapError_ok_iff] at applied
          cases result
          exact ⟨applied, .next current entry rfl progress ((orReject_ok_iff ..).1 named)
            (by simpa using matched) rfl⟩
      | complete =>
          simp only [progress, reduceCtorEq, ↓reduceIte] at success
          obtain ⟨state, applied, result⟩ := bind_ok_iff.1 success
          rw [mapError_ok_iff] at applied
          cases result
          exact ⟨applied, .beyond current rfl progress rfl⟩

/-- A transition finds no batch, passes the causal checks and opens the batch. -/
theorem applyV2_ok_iff {request updated : MixedWorkingRequest codec}
    {v2 : Stage6JournalRecordV2 codec.toTransitionCodec} :
    request.applyV2 v2 = .ok updated ↔
      request.batch = none ∧
        request.v1.checkCausalLink v2.durableRequestIdentity v2.lifecycleSequence v2.previousRecordId = .ok () ∧
          updated = { v1 := request.v1.advanceTo v2.lifecycleSequence v2.journalRecordId
                      batch := some (.opened v2) } := by
  unfold applyV2 WorkingRequest.advanceCausalOnly
  rw [check_bind_ok_iff, bind_ok_iff, rejectIf_ok_iff]
  simp only [mapError_ok_iff, check_bind_ok_iff, Except.ok.injEq, @eq_comm _ _ updated]
  cases request.batch <;> simp

end MixedWorkingRequest

namespace MixedReplayState

theorem request_ok_iff {state : MixedReplayState codec} {key : List Char}
    {request : MixedWorkingRequest codec} :
    state.request key = .ok request ↔ state.requests[key]? = some request :=
  orReject_ok_iff ..

def Drives (state : MixedReplayState codec) (record : Stage6JournalRecordVersioned codec)
    (updated : Std.ExtTreeMap (List Char) (MixedWorkingRequest codec)) : Prop :=
  match requestRoute state.lastUniqueRequestAcceptedIdentity record with
  | none => updated = state.requests
  | some key => ∃ request, RequestEffect state.requests[key]? record request ∧
      updated = state.requests.insert key request

theorem consumeV1_drives {state updated : MixedReplayState codec}
    {seen : Std.ExtTreeMap HexText (List UInt8)} {v1 : Stage6JournalRecordV1 codec.toDurableRecordCodec}
    (success : state.consumeV1 seen v1 = .ok updated) : state.Drives (.v1 v1) updated.requests := by
  obtain ⟨_, success⟩ := check_bind_ok_iff.1 success
  obtain ⟨request, takes, result⟩ := bind_ok_iff.1 success
  cases result
  exact ⟨request, .taken v1 rfl takes, rfl⟩

theorem consumeV2_drives {state updated : MixedReplayState codec} {canonical : List UInt8}
    {v2 : Stage6JournalRecordV2 codec.toTransitionCodec}
    (success : state.consumeV2 canonical v2 = .ok updated) : state.Drives (.v2 v2) updated.requests := by
  obtain ⟨request, found, success⟩ := bind_ok_iff.1 success
  obtain ⟨unfinished, success⟩ := check_bind_ok_iff.1 success
  obtain ⟨_, _, success⟩ := bind_ok_iff.1 success
  obtain ⟨opened, opens, result⟩ := bind_ok_iff.1 success
  cases result
  exact ⟨opened, .opened v2 request rfl (request_ok_iff.1 found) (by simpa using unfinished) opens, rfl⟩

theorem applyOutcomeEffect_drives {state updated : MixedReplayState codec}
    {v3 : Stage6JournalRecordV3 codec} (success : state.applyOutcomeEffect v3 = .ok updated) :
    state.Drives (.v3 v3) updated.requests := by
  obtain ⟨evidence, decoded, success⟩ := bind_ok_iff.1 success
  obtain ⟨effect, effects, success⟩ := bind_ok_iff.1 success
  rw [mapError_ok_iff] at decoded effects
  have isEffect : outcomeEffect v3 = effect := by simp [outcomeEffect, decoded, effects, Except.toOption]
  unfold Drives requestRoute
  cases effect with
  | none =>
      cases success
      simp [isEffect]
  | some effect =>
      obtain ⟨request, found, success⟩ := bind_ok_iff.1 success
      obtain ⟨settled, settles, result⟩ := bind_ok_iff.1 success
      cases result
      simp only [isEffect, Option.map_some]
      exact ⟨settled, .settled v3 effect request rfl isEffect (request_ok_iff.1 found) settles, rfl⟩

theorem consumeV3_drives {state updated : MixedReplayState codec} {canonical : List UInt8}
    {v3 : Stage6JournalRecordV3 codec} (success : state.consumeV3 canonical v3 = .ok updated) :
    state.Drives (.v3 v3) updated.requests := by
  obtain ⟨_, success⟩ := check_bind_ok_iff.1 success
  obtain ⟨_, _, success⟩ := bind_ok_iff.1 success
  obtain ⟨applied, applies, result⟩ := bind_ok_iff.1 success
  have drives := applyOutcomeEffect_drives applies
  cases result
  exact drives

theorem applySchedule_drives {state updated : MixedReplayState codec} {v4 : Stage6JournalRecordV4 codec}
    (success : state.applySchedule v4 = .ok updated) : state.Drives (.v4 v4) updated.requests := by
  have place (advances : state.advancePlace v4 = .ok updated)
      (route : scheduledRequest state.lastUniqueRequestAcceptedIdentity v4 =
        v4.requestOrOrderBinding.strategyRequestId.map String.toList) : state.Drives (.v4 v4) updated.requests := by
    obtain ⟨requestId, binds, advances⟩ := bind_ok_iff.1 advances
    obtain ⟨request, found, advances⟩ := bind_ok_iff.1 advances
    obtain ⟨noBatch, advances⟩ := check_bind_ok_iff.1 advances
    obtain ⟨identity, _, advances⟩ := bind_ok_iff.1 advances
    obtain ⟨advanced, moves, result⟩ := bind_ok_iff.1 advances
    cases result
    rw [orReject_ok_iff] at binds
    unfold Drives requestRoute
    simp only [route, binds, Option.map_some]
    exact ⟨advanced, .scheduled v4 identity request rfl (request_ok_iff.1 found) (by simpa using noBatch) moves,
      rfl⟩
  unfold applySchedule at success
  cases kind : v4.transitionKind with
  | marketExecution => exact place (by simpa [kind] using success) (by simp [scheduledRequest, kind])
  | initialLimitEvaluation => exact place (by simpa [kind] using success) (by simp [scheduledRequest, kind])
  | cancelStep =>
      rw [kind] at success
      obtain ⟨identity, accepted, success⟩ := bind_ok_iff.1 success
      obtain ⟨request, found, success⟩ := bind_ok_iff.1 success
      obtain ⟨noBatch, success⟩ := check_bind_ok_iff.1 success
      obtain ⟨advanced, moves, result⟩ := bind_ok_iff.1 success
      cases result
      rw [orReject_ok_iff, Option.filter_eq_some_iff] at accepted
      unfold Drives requestRoute
      simp only [scheduledRequest, kind, accepted.1, Option.map_some]
      exact ⟨advanced, .scheduled v4 identity request rfl (request_ok_iff.1 found) (by simpa using noBatch)
        moves, rfl⟩
  | workingLimitEvaluation =>
      rw [kind] at success
      cases success
      simp [Drives, requestRoute, scheduledRequest, kind]
  | dayExpiry =>
      rw [kind] at success
      cases success
      simp [Drives, requestRoute, scheduledRequest, kind]

theorem consumeV4_drives {state updated : MixedReplayState codec} {canonical : List UInt8}
    {v4 : Stage6JournalRecordV4 codec} (success : state.consumeV4 canonical v4 = .ok updated) :
    state.Drives (.v4 v4) updated.requests := by
  obtain ⟨_, success⟩ := check_bind_ok_iff.1 success
  obtain ⟨_, _, success⟩ := bind_ok_iff.1 success
  obtain ⟨applied, applies, result⟩ := bind_ok_iff.1 success
  have drives := applySchedule_drives applies
  cases result
  exact drives

/-- Everything one turn of the mixed loop can do to the requests. -/
theorem consume_drives {state updated : MixedReplayState codec}
    {seen : Std.ExtTreeMap HexText (List UInt8)} {record : Stage6JournalRecordVersioned codec}
    (success : state.consume seen record = .ok updated) : state.Drives record updated.requests := by
  obtain ⟨admitted, admits, result⟩ := bind_ok_iff.1 success
  have drives : state.Drives record admitted.requests := by
    cases record with
    | v1 v1 => exact consumeV1_drives admits
    | v2 v2 => exact consumeV2_drives admits
    | v3 v3 => exact consumeV3_drives admits
    | v4 v4 => exact consumeV4_drives admits
  cases result
  exact drives

/-- The remembered acceptance is that of the record just admitted. -/
theorem consume_lastAccepted {state updated : MixedReplayState codec}
    {seen : Std.ExtTreeMap HexText (List UInt8)} {record : Stage6JournalRecordVersioned codec}
    (success : state.consume seen record = .ok updated) :
    updated.lastUniqueRequestAcceptedIdentity = acceptedIdentity record := by
  obtain ⟨admitted, _, result⟩ := bind_ok_iff.1 success
  cases result
  rfl

/-- A request off the record's route is left as it was. -/
theorem Drives.off_route {state updated : MixedReplayState codec}
    {record : Stage6JournalRecordVersioned codec} (drives : state.Drives record updated.requests) {key : List Char}
    (offRoute : requestRoute state.lastUniqueRequestAcceptedIdentity record ≠ some key) :
    updated.requests[key]? = state.requests[key]? := by
  unfold Drives at drives
  cases route : requestRoute state.lastUniqueRequestAcceptedIdentity record with
  | none =>
      rw [route] at drives
      rw [drives]
  | some other =>
      rw [route] at drives
      obtain ⟨request, _, result⟩ := drives
      have differs : other ≠ key := fun same => offRoute (by rw [route, same])
      simp [result, Std.ExtTreeMap.getElem?_insert, differs]

/-- The request on the record's route takes the record's effect. -/
theorem Drives.on_route {state updated : MixedReplayState codec}
    {record : Stage6JournalRecordVersioned codec} (drives : state.Drives record updated.requests) {key : List Char}
    (onRoute : requestRoute state.lastUniqueRequestAcceptedIdentity record = some key) :
    ∃ request, updated.requests[key]? = some request ∧
      RequestEffect state.requests[key]? record request := by
  unfold Drives at drives
  rw [onRoute] at drives
  obtain ⟨request, effect, result⟩ := drives
  exact ⟨request, by simp [result], effect⟩

end MixedReplayState

end TradingGateway.Stage6.MixedReplay
