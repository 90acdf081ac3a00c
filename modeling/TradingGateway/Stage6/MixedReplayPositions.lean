import TradingGateway.Stage6.JournalFramesProperties
import TradingGateway.Stage6.RecordIds
import TradingGateway.Stage6.TransitionSafety

/-! Where every request of a mixed journal stands, and which records the engine
takes behind it. -/

set_option autoImplicit false

namespace TradingGateway.Stage6.MixedReplay

open BrokerCore.Identifiers DurableIdentity JournalRecord Replay VersionedRecord RecordIds
open Stage8b.WorkingLimitEvidence
open Foundation.ExceptRun Foundation.IdempotentLog

section Marks

def Marked (kind : Stage6JournalEventKind) (state : WorkingRequest) : Prop :=
  match kind with
  | .brokerOrderObserved | .brokerTradeObserved => state.knownBrokerOrderId ≠ none
  | .cancelOutcomeObserved => state.cancelOutcome ≠ none
  | .requestFinalized => state.finalDisposition ≠ none
  | .requestAccepted | .dispatchAttemptRecorded | .reconciliationObserved | .conflictObserved => True

structure Remembers (state updated : WorkingRequest) : Prop where
  order : state.knownBrokerOrderId ≠ none → updated.knownBrokerOrderId ≠ none
  outcome : state.cancelOutcome ≠ none → updated.cancelOutcome ≠ none
  disposition : state.finalDisposition ≠ none → updated.finalDisposition ≠ none

theorem Remembers.marked {state updated : WorkingRequest} (remembers : Remembers state updated)
    {kind : Stage6JournalEventKind} (marked : Marked kind state) : Marked kind updated := by
  cases kind with
  | brokerOrderObserved => exact remembers.order marked
  | brokerTradeObserved => exact remembers.order marked
  | cancelOutcomeObserved => exact remembers.outcome marked
  | requestFinalized => exact remembers.disposition marked
  | requestAccepted => trivial
  | dispatchAttemptRecorded => trivial
  | reconciliationObserved => trivial
  | conflictObserved => trivial

theorem applyReconciliation_remembers {state updated : WorkingRequest}
    {disposition : Stage6ReconciliationDispositionV1} (success : state.applyReconciliation disposition = .ok updated) :
    Remembers state updated := by
  obtain ⟨_, success⟩ := check_bind_ok_iff.1 success
  cases disposition with
  | noBrokerOrderFound =>
      obtain ⟨_, success⟩ := check_bind_ok_iff.1 success
      obtain ⟨_, result⟩ := check_bind_ok_iff.1 success
      cases result
      exact { order := id, outcome := id, disposition := id }
  | brokerOrderFound brokerOrderId =>
      obtain ⟨_, success⟩ := check_bind_ok_iff.1 success
      obtain ⟨established, establishes, result⟩ := bind_ok_iff.1 success
      obtain ⟨_, rfl⟩ := WorkingRequest.establishBrokerOrder_ok_iff.1 establishes
      cases result
      exact { order := by simp, outcome := id, disposition := id }
  | inconclusive =>
      obtain ⟨_, result⟩ := check_bind_ok_iff.1 success
      cases result
      exact { order := id, outcome := id, disposition := id }

theorem applyPayload_marks {state updated : WorkingRequest} {payload : Stage6JournalPayloadV1}
    {kind : Stage6JournalEventKind} (matches_ : eventMatchesPayload kind payload = true)
    (success : state.applyPayload payload = .ok updated) : Marked kind updated ∧ Remembers state updated := by
  cases payload with
  | requestAccepted command => cases success
  | dispatchAttemptRecorded attemptOrdinal digest =>
      obtain ⟨_, success⟩ := check_bind_ok_iff.1 success
      obtain ⟨_, result⟩ := check_bind_ok_iff.1 success
      cases result
      refine ⟨?_, { order := id, outcome := id, disposition := id }⟩
      cases kind <;> trivial
  | brokerOrderObserved brokerOrderId =>
      obtain ⟨_, success⟩ := check_bind_ok_iff.1 success
      obtain ⟨established, establishes, result⟩ := bind_ok_iff.1 success
      obtain ⟨_, rfl⟩ := WorkingRequest.establishBrokerOrder_ok_iff.1 establishes
      cases result
      refine ⟨?_, { order := by simp, outcome := id, disposition := id }⟩
      cases kind <;> simp_all [Marked, eventMatchesPayload]
  | brokerTradeObserved brokerTradeId brokerOrderId =>
      obtain ⟨_, success⟩ := check_bind_ok_iff.1 success
      obtain ⟨traded, trades, success⟩ := bind_ok_iff.1 success
      obtain ⟨established, establishes, result⟩ := bind_ok_iff.1 success
      obtain ⟨_, rfl⟩ := WorkingRequest.establishBrokerOrder_ok_iff.1 establishes
      rw [WorkingRequest.recordTrade_ok trades] at result
      cases result
      refine ⟨?_, { order := by simp, outcome := id, disposition := id }⟩
      cases kind <;> simp_all [Marked, eventMatchesPayload]
  | cancelOutcomeObserved targetBrokerOrderId outcome =>
      obtain ⟨_, success⟩ := check_bind_ok_iff.1 success
      obtain ⟨_, success⟩ := check_bind_ok_iff.1 success
      obtain ⟨_, result⟩ := check_bind_ok_iff.1 success
      cases result
      refine ⟨?_, { order := id, outcome := by simp, disposition := id }⟩
      cases kind <;> simp_all [Marked, eventMatchesPayload]
  | reconciliationObserved disposition =>
      refine ⟨?_, applyReconciliation_remembers success⟩
      cases kind <;> trivial
  | requestFinalized disposition =>
      cases success
      refine ⟨?_, { order := id, outcome := id, disposition := by simp }⟩
      cases kind <;> simp_all [Marked, eventMatchesPayload]
  | conflictObserved kind conflicting expected observed =>
      cases success
      refine ⟨?_, { order := id, outcome := id, disposition := id }⟩
      rename_i eventKind
      cases eventKind <;> trivial
  | marker => cases success

/-- An applied record leaves its mark, and keeps those that are there. -/
theorem apply_marks {codec : DurableRecordCodec} {state updated : WorkingRequest}
    {record : Stage6JournalRecordV1 codec} (applied : state.apply record = .ok updated) :
    Marked record.eventKind updated ∧ Remembers state updated := by
  obtain ⟨_, _, middle, applies, result⟩ := WorkingRequest.apply_ok_iff.1 applied
  obtain ⟨marked, remembers⟩ := applyPayload_marks record.facts.eventMatches applies
  have kept : Remembers middle updated := by
    rw [result]
    exact { order := id, outcome := id, disposition := id }
  exact ⟨kept.marked marked, {
    order := kept.order ∘ remembers.order
    outcome := kept.outcome ∘ remembers.outcome
    disposition := kept.disposition ∘ remembers.disposition }⟩

end Marks

section Positions

variable {codec : ReconciliationCodec}

theorem lt_of_eq_succ {value next : UInt64} (nonzero : next ≠ 0) (succeeds : next = value + 1) : value < next := by
  have positive : next.toNat ≠ 0 := fun zero => nonzero (UInt64.toNat_inj.1 zero)
  have bound := value.toNat_lt
  rw [succeeds, UInt64.toNat_add, UInt64.toNat_one] at positive
  rw [UInt64.lt_iff_toNat_lt, succeeds, UInt64.toNat_add, UInt64.toNat_one]
  omega

structure Advances (current : Option (MixedWorkingRequest codec)) (recordId : Stage6JournalRecordId)
    (sequence : Stage6LifecycleSequence) (updated : MixedWorkingRequest codec) : Prop where
  atRecord : updated.v1.lastRecordId = recordId
  atSequence : updated.v1.lastSequence = sequence.value
  beyond : ∀ request ∈ current, request.v1.lastSequence < sequence.value
  sameIdentity : ∀ request ∈ current, updated.v1.identity = request.v1.identity

theorem Advances.of_link {request : MixedWorkingRequest codec} {middle : WorkingRequest}
    {identity : Stage6DurableRequestIdentityV1} {sequence : Stage6LifecycleSequence}
    {previous : Option Stage6JournalRecordId} {recordId : Stage6JournalRecordId}
    (linked : request.v1.checkCausalLink identity sequence previous = .ok ())
    (sameIdentity : middle.identity = request.v1.identity)
    (batch : Option (Stage6PendingReconciliationBatchV2 codec)) :
    Advances (some request) recordId sequence { v1 := middle.advanceTo sequence recordId, batch := batch } := by
  obtain ⟨_, _, succeeds, _⟩ := WorkingRequest.checkCausalLink_ok_iff.1 linked
  refine { atRecord := rfl, atSequence := rfl, beyond := ?_, sameIdentity := ?_ }
  · intro other isRequest
    cases isRequest
    exact lt_of_eq_succ sequence.nonzero succeeds
  · intro other isRequest
    cases isRequest
    exact sameIdentity

theorem applyOutcomeKind_identity {state updated : WorkingRequest}
    {kind : Stage8bP1d3Stage6RequestReplayEffectKind} (success : applyOutcomeKind state kind = .ok updated) :
    updated.identity = state.identity := by
  cases kind with
  | place brokerOrderId brokerTradeId =>
      obtain ⟨_, success⟩ := check_bind_ok_iff.1 success
      obtain ⟨established, establishes, inserts⟩ := bind_ok_iff.1 success
      obtain ⟨_, rfl⟩ := WorkingRequest.establishBrokerOrder_ok_iff.1 establishes
      unfold insertOutcomeTrade at inserts
      split at inserts
      · cases inserts
        rfl
      · split at inserts
        · cases inserts
        · cases inserts
          rfl
  | cancel targetBrokerOrderId targetPlaceClientId outcome =>
      obtain ⟨_, success⟩ := check_bind_ok_iff.1 success
      obtain ⟨_, result⟩ := check_bind_ok_iff.1 success
      cases result
      rfl

/-- Every effect on a request moves it on. -/
theorem advances_of_effect {current : Option (MixedWorkingRequest codec)}
    {record : Stage6JournalRecordVersioned codec} {updated : MixedWorkingRequest codec}
    (effect : RequestEffect current record updated) :
    Advances current record.journalRecordId record.lifecycleSequence updated := by
  cases effect with
  | taken v1 shape takes =>
      subst shape
      cases current with
      | none =>
          obtain ⟨first, opens, result⟩ := bind_ok_iff.1 takes
          rw [mapError_ok_iff] at opens
          obtain ⟨⟨_, one, _⟩, rfl⟩ := WorkingRequest.fromFirst_ok_iff.1 opens
          cases result
          exact { atRecord := rfl, atSequence := one.symm, beyond := by simp, sameIdentity := by simp }
      | some request =>
          obtain ⟨applied, _⟩ := MixedWorkingRequest.applyV1_ok takes
          obtain ⟨linked, _, middle, applies, result⟩ := WorkingRequest.apply_ok_iff.1 applied
          have advanced : Advances (some request) v1.journalRecordId v1.lifecycleSequence
              { v1 := middle.advanceTo v1.lifecycleSequence v1.journalRecordId, batch := updated.batch } :=
            .of_link linked (WorkingRequest.applyPayload_effect applies).identity_eq updated.batch
          rwa [← result] at advanced
  | opened v2 request shape found unfinished opens =>
      subst shape found
      obtain ⟨_, linked, rfl⟩ := MixedWorkingRequest.applyV2_ok_iff.1 opens
      exact .of_link linked rfl _
  | settled v3 effect request shape isEffect found settles =>
      subst shape found
      obtain ⟨_, settles⟩ := check_bind_ok_iff.1 settles
      obtain ⟨applied, applies, result⟩ := bind_ok_iff.1 settles
      rw [mapError_ok_iff] at applies
      cases result
      obtain ⟨_, applies⟩ := check_bind_ok_iff.1 applies
      obtain ⟨named, applies⟩ := check_bind_ok_iff.1 applies
      obtain ⟨_, applies⟩ := check_bind_ok_iff.1 applies
      obtain ⟨_, applies⟩ := check_bind_ok_iff.1 applies
      obtain ⟨kinded, kinds, result⟩ := bind_ok_iff.1 applies
      cases result
      simp only [rejectIf_ok_iff, not_not] at named
      refine { atRecord := rfl, atSequence := rfl, beyond := ?_, sameIdentity := ?_ }
      · intro other isRequest
        cases isRequest
        exact named.2.2.2.2.2.2.1
      · intro other isRequest
        cases isRequest
        have same := applyOutcomeKind_identity kinds
        exact same
  | scheduled v4 identity request shape found noBatch advances =>
      subst shape found
      obtain ⟨advanced, moves, result⟩ := bind_ok_iff.1 advances
      rw [mapError_ok_iff] at moves
      obtain ⟨linked, moved⟩ := check_bind_ok_iff.1 moves
      cases moved
      cases result
      exact .of_link linked rfl _

/-- An open batch is where its transition left it, or its first suffix record has left its mark. -/
def BatchPosition (request : MixedWorkingRequest codec) : Prop :=
  ∀ batch ∈ request.batch, ∀ entry ∈ batch.transitionRecord.manifestEntries.head?,
    (batch = .opened batch.transitionRecord ∧
        request.v1.identity = batch.transitionRecord.durableRequestIdentity ∧
          request.v1.lastSequence = batch.transitionRecord.lifecycleSequence.value ∧
            request.v1.lastRecordId = batch.transitionRecord.journalRecordId) ∨
      Marked entry.eventKind request.v1

theorem batchPosition_of_effect {current : Option (MixedWorkingRequest codec)}
    {record : Stage6JournalRecordVersioned codec} {updated : MixedWorkingRequest codec}
    (holds : ∀ request ∈ current, BatchPosition request) (effect : RequestEffect current record updated) :
    BatchPosition updated := by
  cases effect with
  | taken v1 shape takes =>
      cases current with
      | none =>
          obtain ⟨first, _, result⟩ := bind_ok_iff.1 takes
          cases result
          intro batch isBatch
          cases isBatch
      | some request =>
          obtain ⟨applied, suffix⟩ := MixedWorkingRequest.applyV1_ok takes
          obtain ⟨marked, remembers⟩ := apply_marks applied
          have before := holds request rfl
          intro batch isBatch first isFirst
          cases suffix with
          | noBatch absent kept => simp [kept] at isBatch
          | beyond old open_ complete kept =>
              obtain rfl : old = batch := by simpa [kept] using isBatch
              rcases before old open_ first isFirst with ⟨untouched, _⟩ | known
              · rw [untouched] at complete
                have entries : old.transitionRecord.manifestEntries ≠ [] := by
                  intro empty
                  simp [empty] at isFirst
                simp [Stage6PendingReconciliationBatchV2.opened, entries] at complete
              · exact .inr (remembers.marked known)
          | next old entry open_ incomplete named matches_ extends_ =>
              obtain rfl : old.extended v1 = batch := by simpa [extends_] using isBatch
              rcases before old open_ first isFirst with ⟨untouched, _⟩ | known
              · have sameEntry : entry = first := by
                  have head : old.missingSuffixEntries.head? = some first := by
                    rw [untouched]
                    exact isFirst
                  exact Option.some.inj (named.symm.trans head)
                refine .inr ?_
                rw [← sameEntry, matchesRecord_eventKind matches_]
                exact marked
              · exact .inr (remembers.marked known)
  | opened v2 request shape found unfinished opens =>
      obtain ⟨_, linked, rfl⟩ := MixedWorkingRequest.applyV2_ok_iff.1 opens
      intro batch isBatch _ _
      cases isBatch
      exact .inl ⟨rfl, (WorkingRequest.checkCausalLink_ok_iff.1 linked).1, rfl, rfl⟩
  | settled v3 effect request shape isEffect found settles =>
      obtain ⟨noBatch, settles⟩ := check_bind_ok_iff.1 settles
      obtain ⟨applied, _, result⟩ := bind_ok_iff.1 settles
      cases result
      intro batch isBatch
      simp_all
  | scheduled v4 identity request shape found noBatch advances =>
      obtain ⟨advanced, _, result⟩ := bind_ok_iff.1 advances
      cases result
      intro batch isBatch
      simp_all

structure RequestPosition (history : List (Stage6JournalRecordVersioned codec)) (key : List Char)
    (request : MixedWorkingRequest codec) : Prop where
  named : request.v1.identity.strategyRequestId.toText = key
  atRecord : ∃ record ∈ history, record.journalRecordId = request.v1.lastRecordId
  batch : BatchPosition request

def ChainReached (history : List (Stage6JournalRecordVersioned codec)) (key : List Char)
    (current : Option (MixedWorkingRequest codec)) : Prop :=
  ∀ record ∈ history, ∀ requestId sequence, chainPosition record = some (requestId, sequence) →
    requestId.toText = key → ∃ request, current = some request ∧ sequence.value ≤ request.v1.lastSequence

theorem chainPosition_route {record : Stage6JournalRecordVersioned codec} {requestId : StrategyRequestId}
    {sequence : Stage6LifecycleSequence} (position : chainPosition record = some (requestId, sequence))
    (identity : Option Stage6DurableRequestIdentityV1) :
    requestRoute identity record = some requestId.toText ∧ record.lifecycleSequence = sequence := by
  cases record with
  | v1 v1 =>
      cases position
      exact ⟨rfl, rfl⟩
  | v2 v2 =>
      cases position
      exact ⟨rfl, rfl⟩
  | v3 v3 => cases position
  | v4 v4 => cases position

theorem ChainReached.on_route {history : List (Stage6JournalRecordVersioned codec)} {key : List Char}
    {current : Option (MixedWorkingRequest codec)} {record : Stage6JournalRecordVersioned codec}
    {updated : MixedWorkingRequest codec} (reached : ChainReached history key current)
    (effect : RequestEffect current record updated) : ChainReached (history ++ [record]) key (some updated) := by
  have advances := advances_of_effect effect
  intro other member requestId sequence position named
  refine ⟨updated, rfl, ?_⟩
  rw [advances.atSequence]
  rcases List.mem_append.1 member with earlier | isLast
  · obtain ⟨request, found, within⟩ := reached other earlier requestId sequence position named
    exact UInt64.le_of_lt (UInt64.lt_of_le_of_lt within (advances.beyond request found))
  · obtain rfl : other = record := by simpa using isLast
    rw [(chainPosition_route position none).2]
    exact UInt64.le_refl _

theorem RequestPosition.on_route {history : List (Stage6JournalRecordVersioned codec)} {key : List Char}
    {current : Option (MixedWorkingRequest codec)} {record : Stage6JournalRecordVersioned codec}
    {updated : MixedWorkingRequest codec} {identity : Option Stage6DurableRequestIdentityV1}
    (holds : ∀ request ∈ current, RequestPosition history key request)
    (onRoute : requestRoute identity record = some key) (effect : RequestEffect current record updated) :
    RequestPosition (history ++ [record]) key updated := by
  have advances := advances_of_effect effect
  refine {
    named := ?_
    atRecord := ⟨record, by simp, advances.atRecord.symm⟩
    batch := batchPosition_of_effect (fun request found => (holds request found).batch) effect }
  cases current with
  | none =>
      cases effect with
      | taken v1 shape takes =>
          subst shape
          obtain ⟨first, opens, result⟩ := bind_ok_iff.1 takes
          rw [mapError_ok_iff] at opens
          obtain ⟨_, rfl⟩ := WorkingRequest.fromFirst_ok_iff.1 opens
          cases result
          exact Option.some.inj onRoute
      | opened _ _ _ found _ _ => cases found
      | settled _ _ _ _ _ found _ => cases found
      | scheduled _ _ _ _ found _ _ => cases found
  | some request =>
      rw [advances.sameIdentity request rfl]
      exact (holds request rfl).named

/-- The run lemma: after every mixed replay each request stands at its last record. -/
theorem mixedRun_positions {records : List (Stage6JournalRecordVersioned codec)}
    {cursor : MixedReplayCursor codec} (success : (mixedLog codec).run .empty records = .ok cursor)
    (key : List Char) :
    (∀ request ∈ cursor.state.requests[key]?, RequestPosition (distinctRecords records) key request) ∧
      ChainReached (distinctRecords records) key cursor.state.requests[key]? := by
  have positions := (mixedLog codec).run_induction
    (fun history state => ∀ key : List Char,
      (∀ request ∈ state.requests[key]?, RequestPosition history key request) ∧
        ChainReached history key state.requests[key]?) ?_ ?_ success
  · exact positions.2.2 key
  · intro key
    refine ⟨by simp [MixedReplayState.empty], ?_⟩
    intro record member
    cases member
  · intro history cursor updated record _ _ _ holds consumed key
    have drives := MixedReplayState.consume_drives consumed
    obtain ⟨positioned, reached⟩ := holds key
    by_cases onRoute : requestRoute cursor.state.lastUniqueRequestAcceptedIdentity record = some key
    · obtain ⟨request, stored, effect⟩ := drives.on_route onRoute
      rw [stored]
      refine ⟨?_, reached.on_route effect⟩
      intro other isRequest
      cases isRequest
      exact .on_route positioned onRoute effect
    · rw [drives.off_route onRoute]
      constructor
      · intro request found
        have position := positioned request found
        obtain ⟨last, member, isLast⟩ := position.atRecord
        exact { position with atRecord := ⟨last, List.mem_append_left _ member, isLast⟩ }
      · intro other member requestId sequence position named
        rcases List.mem_append.1 member with earlier | isLast
        · exact reached other earlier requestId sequence position named
        · obtain rfl : other = record := by simpa using isLast
          rw [(chainPosition_route position _).1, named] at onRoute
          exact absurd rfl onRoute

end Positions

section Extensions

variable {codec : ReconciliationCodec}

/-- The record that follows a request's last one has an id the journal does not know. -/
theorem fresh_of_follows {records : List (Stage6JournalRecordVersioned codec)} {cursor : MixedReplayCursor codec}
    (ran : (mixedLog codec).run .empty records = .ok cursor) {key : List Char}
    {request : MixedWorkingRequest codec} (stored : cursor.state.requests[key]? = some request)
    {record : Stage6JournalRecordV1 codec.toDurableRecordCodec} (named : requestKey record = key)
    (follows : record.lifecycleSequence.value = request.v1.lastSequence + 1)
    (free : IdsCollisionFree (records ++ [.v1 record])) :
    cursor.seen[record.journalRecordId.value]? = none := by
  have tracks := (mixedLog codec).run_tracks ran
  refine tracks.fresh.2 fun other member same => ?_
  have inRecords := Log.mem_of_mem_distinct _ member
  have isRecord : .v1 record ∈ records ++ [.v1 record] := by simp
  have position := chainPosition_of_same_id free (List.mem_append_left _ inRecords) isRecord rfl same
  obtain ⟨reached, found, within⟩ := (mixedRun_positions ran key).2 other member _ _ position named
  obtain rfl : request = reached := Option.some.inj (stored.symm.trans found)
  have beyond := lt_of_eq_succ record.lifecycleSequence.nonzero follows
  exact UInt64.lt_irrefl _ (UInt64.lt_of_lt_of_le beyond within)


/-- The step lemma: a record under a fresh id, whose parent is known, is admitted
if its request takes it, and changes nothing but that request. -/
theorem mixedRun_admits {records : List (Stage6JournalRecordVersioned codec)} {cursor : MixedReplayCursor codec}
    (ran : (mixedLog codec).run .empty records = .ok cursor)
    {record : Stage6JournalRecordV1 codec.toDurableRecordCodec} {updated : MixedWorkingRequest codec}
    (fresh : cursor.seen[record.journalRecordId.value]? = none)
    (parents : ∀ parent ∈ record.causalParentId, parent.value ∈ cursor.seen)
    (takes : MixedWorkingRequest.takeV1 cursor.state.requests[requestKey record]? record = .ok updated) :
    ∃ next, (mixedLog codec).run .empty (records ++ [.v1 record]) = .ok next ∧
      (∀ other ∈ records, other.journalRecordId ≠ record.journalRecordId) ∧
        next.state.requests = cursor.state.requests.insert (requestKey record) updated := by
  have known : ¬ ∃ parent ∈ record.causalParentId, parent.value ∉ cursor.seen := by
    intro missing
    obtain ⟨parent, isParent, unseen⟩ := missing
    exact unseen (parents parent isParent)
  have consumed : ∃ admitted, cursor.state.consume cursor.seen (.v1 record) = .ok admitted ∧
      admitted.requests = cursor.state.requests.insert (requestKey record) updated := by
    change ∃ admitted, cursor.state.consumeV1 cursor.seen record >>= _ = .ok admitted ∧ _
    unfold MixedReplayState.consumeV1
    rw [rejectIf_of_not _ known, takes]
    exact ⟨_, rfl, rfl⟩
  obtain ⟨admitted, admits, result⟩ := consumed
  have stepped : (mixedLog codec).step cursor (.v1 record) = .ok {
      seen := cursor.seen.insert record.journalRecordId.value record.encodeCanonical
      state := admitted } := by
    rw [(mixedLog codec).step_fresh fresh]
    change cursor.state.consume cursor.seen (.v1 record) >>= _ = _
    rw [admits]
    rfl
  refine ⟨_, ((mixedLog codec).run_append_singleton_iff ..).2 ⟨cursor, ran, stepped⟩, ?_, result⟩
  intro other member same
  obtain ⟨first, kept, sameKey, _⟩ := (mixedLog codec).distinct_covers member
  have sameId : first.journalRecordId.value = other.journalRecordId.value := sameKey
  refine ((mixedLog codec).run_tracks ran).fresh.1 fresh first kept ?_
  exact sameId.trans (congrArg (fun id => id.value) same)

/-- A record behind the last one of its request is admitted if the request takes it. -/
theorem mixedRun_follows {records : List (Stage6JournalRecordVersioned codec)} {cursor : MixedReplayCursor codec}
    (ran : (mixedLog codec).run .empty records = .ok cursor) {request updated : MixedWorkingRequest codec}
    {record : Stage6JournalRecordV1 codec.toDurableRecordCodec} {middle : WorkingRequest}
    (stored : cursor.state.requests[requestKey record]? = some request)
    (applied : request.v1.apply record = .ok middle) (takes : request.applyV1 record = .ok updated)
    (parent : record.causalParentId = record.previousRecordId)
    (free : IdsCollisionFree (records ++ [.v1 record])) :
    ∃ next, (mixedLog codec).run .empty (records ++ [.v1 record]) = .ok next ∧
      (∀ other ∈ records, other.journalRecordId ≠ record.journalRecordId) ∧
        next.state.requests = cursor.state.requests.insert (requestKey record) updated := by
  obtain ⟨linked, _⟩ := WorkingRequest.apply_ok_iff.1 applied
  obtain ⟨_, _, follows, behind⟩ := WorkingRequest.checkCausalLink_ok_iff.1 linked
  have fresh := fresh_of_follows ran stored rfl follows free
  have parents : ∀ parent ∈ record.causalParentId, parent.value ∈ cursor.seen := by
    rw [parent, behind]
    obtain ⟨last, member, isLast⟩ := ((mixedRun_positions ran _).1 request stored).atRecord
    have seen := ((mixedLog codec).run_tracks ran).contains.2 ⟨last, member, congrArg (fun id => id.value) isLast⟩
    simpa using seen
  have takes : MixedWorkingRequest.takeV1 cursor.state.requests[requestKey record]? record = .ok updated := by
    rw [stored]
    exact takes
  exact mixedRun_admits ran fresh parents takes

end Extensions

end TradingGateway.Stage6.MixedReplay
