import TradingGateway.Stage6.ReconciliationBatches

/-! Dispatch after a reconciliation transition. The transition only moves the
causal chain, so it forbids no attempt by itself: its suffix has to. -/

set_option autoImplicit false

namespace TradingGateway.Stage6.MixedReplay

open BrokerCore.Identifiers JournalRecord Replay ReconciliationV2 VersionedRecord
open PlainReconciliationCodec
open Foundation.ExceptRun Foundation.IdempotentLog Foundation.OrderedMap Foundation.Splits

section Table

def dispatchTransition (safety : Stage6DispatchSafetyStateV1) (payload : Stage6JournalPayloadV1) :
    Option Stage6DispatchSafetyStateV1 :=
  if closesDispatch payload then some .dispatchForbidden
  else
    match payload, safety with
    | .dispatchAttemptRecorded _ _, .readyForFirstDispatch => some .reconciliationRequired
    | .dispatchAttemptRecorded _ _, .retryEligibleSameIdentity => some .reconciliationRequired
    | .reconciliationObserved .noBrokerOrderFound, .reconciliationRequired => some .retryEligibleSameIdentity
    | .reconciliationObserved .inconclusive, .reconciliationRequired => some .reconciliationRequired
    | _, _ => none

/-- Every effect on a working request is a transition of the table. -/
theorem dispatchEffect_transition {state updated : WorkingRequest} {payload : Stage6JournalPayloadV1}
    (effect : WorkingRequest.DispatchEffect state payload updated) :
    dispatchTransition state.dispatchSafetyState payload = some updated.dispatchSafetyState := by
  cases effect with
  | attempted attemptOrdinal digest shape next ready result =>
      subst shape result
      rcases ready with ⟨ready, _⟩ | ⟨ready, _⟩ <;> simp [dispatchTransition, closesDispatch, ready]
  | retryAllowed shape unresolved place result =>
      subst shape result
      simp [dispatchTransition, closesDispatch, unresolved]
  | stillUnresolved shape unresolved result =>
      subst shape result
      simp [dispatchTransition, closesDispatch, unresolved]
  | closed closes forbidden sameCount sameIdentity =>
      simp [dispatchTransition, closes, forbidden]

/-- Nothing leaves the forbidden state, and no attempt is allowed in it. -/
theorem dispatchTransition_forbidden {payload : Stage6JournalPayloadV1} {next : Stage6DispatchSafetyStateV1}
    (transition : dispatchTransition .dispatchForbidden payload = some next) :
    next = .dispatchForbidden ∧ attemptOrdinal? payload = none := by
  unfold dispatchTransition at transition
  split at transition
  next closes => exact ⟨(Option.some.inj transition).symm, closesDispatch_not_attempt closes⟩
  next => split at transition <;> simp_all

theorem dispatchTransition_closes {safety next : Stage6DispatchSafetyStateV1} {payload : Stage6JournalPayloadV1}
    (closes : closesDispatch payload = true) (transition : dispatchTransition safety payload = some next) :
    next = .dispatchForbidden := by
  simpa [dispatchTransition, closes, eq_comm] using transition

/-- An applied record is a transition of the table. -/
theorem apply_transition {codec : DurableRecordCodec} {state updated : WorkingRequest}
    {record : Stage6JournalRecordV1 codec} (applied : state.apply record = .ok updated) :
    dispatchTransition state.dispatchSafetyState record.payload = some updated.dispatchSafetyState := by
  obtain ⟨_, _, middle, applies, result⟩ := WorkingRequest.apply_ok_iff.1 applied
  rw [result, WorkingRequest.advanceTo_dispatchSafetyState]
  exact dispatchEffect_transition (WorkingRequest.applyPayload_effect applies)

end Table

section Manifests

/-- From the given safety state, the records a manifest names forbid dispatch
before one of them attempts it. An entry names every record it matches. -/
def ManifestClosesDispatch (codec : TransitionCodec) (safety : Stage6DispatchSafetyStateV1) :
    List Stage6SuffixManifestEntryV2 → Prop
  | [] => safety = .dispatchForbidden
  | entry :: rest => safety = .dispatchForbidden ∨
      ∀ record : Stage6JournalRecordV1 codec.toDurableRecordCodec, entry.matchesRecord codec record = true →
        ∀ next, dispatchTransition safety record.payload = some next →
          attemptOrdinal? record.payload = none ∧ ManifestClosesDispatch codec next rest

variable {codec : TransitionCodec}

theorem ManifestClosesDispatch.of_forbidden (entries : List Stage6SuffixManifestEntryV2) :
    ManifestClosesDispatch codec .dispatchForbidden entries := by
  cases entries with
  | nil => rfl
  | cons entry rest => exact .inl rfl

/-- The record a closing manifest names next attempts nothing and leaves a closing rest. -/
theorem ManifestClosesDispatch.next {entry : Stage6SuffixManifestEntryV2}
    {rest : List Stage6SuffixManifestEntryV2} {safety next : Stage6DispatchSafetyStateV1}
    (closes : ManifestClosesDispatch codec safety (entry :: rest))
    {record : Stage6JournalRecordV1 codec.toDurableRecordCodec} (matches_ : entry.matchesRecord codec record = true)
    (transition : dispatchTransition safety record.payload = some next) :
    attemptOrdinal? record.payload = none ∧ ManifestClosesDispatch codec next rest := by
  rcases closes with forbidden | named
  · subst forbidden
    obtain ⟨still, notAttempt⟩ := dispatchTransition_forbidden transition
    exact ⟨notAttempt, still ▸ .of_forbidden rest⟩
  · exact named record matches_ next transition

/-- The event kinds that close dispatch whatever their payload says. -/
def kindClosesDispatch (kind : Stage6JournalEventKind) : Bool :=
  match kind with
  | .brokerOrderObserved | .brokerTradeObserved | .cancelOutcomeObserved | .conflictObserved
  | .requestFinalized => true
  | .requestAccepted | .dispatchAttemptRecorded | .reconciliationObserved => false

theorem closesDispatch_of_kind {kind : Stage6JournalEventKind} {payload : Stage6JournalPayloadV1}
    (matched : eventMatchesPayload kind payload = true) (closing : kindClosesDispatch kind = true) :
    closesDispatch payload = true := by
  unfold eventMatchesPayload at matched
  split at matched <;> simp_all [kindClosesDispatch, closesDispatch]

theorem matchesRecord_eventKind {entry : Stage6SuffixManifestEntryV2}
    {record : Stage6JournalRecordV1 codec.toDurableRecordCodec}
    (matched : entry.matchesRecord codec record = true) : entry.eventKind = record.eventKind := by
  simp only [Stage6SuffixManifestEntryV2.matchesRecord, Bool.and_eq_true, decide_eq_true_eq] at matched
  exact matched.1.1.1.1

/-- A manifest that starts with such an event closes dispatch from any state. -/
theorem ManifestClosesDispatch.of_first {entry : Stage6SuffixManifestEntryV2}
    (closing : kindClosesDispatch entry.eventKind = true) (safety : Stage6DispatchSafetyStateV1)
    (rest : List Stage6SuffixManifestEntryV2) : ManifestClosesDispatch codec safety (entry :: rest) := by
  refine .inr fun record matched next transition => ?_
  have closes : closesDispatch record.payload = true :=
    closesDispatch_of_kind record.facts.eventMatches (matchesRecord_eventKind matched ▸ closing)
  exact ⟨closesDispatch_not_attempt closes,
    dispatchTransition_closes closes transition ▸ .of_forbidden rest⟩

end Manifests

section Held

variable {codec : ReconciliationCodec}

structure TransitionHeld (request : MixedWorkingRequest codec)
    (batch : Stage6PendingReconciliationBatchV2 codec) : Prop where
  open_ : request.batch = some batch
  finished : batch.completion = .complete → batch.missingSuffixEntries = []
  closes : ManifestClosesDispatch codec.toTransitionCodec request.v1.dispatchSafetyState
    batch.missingSuffixEntries

theorem TransitionHeld.opened {request updated : MixedWorkingRequest codec}
    {v2 : Stage6JournalRecordV2 codec.toTransitionCodec} (opens : request.applyV2 v2 = .ok updated)
    (closes : ManifestClosesDispatch codec.toTransitionCodec request.v1.dispatchSafetyState v2.manifestEntries) :
    TransitionHeld updated (.opened v2) := by
  obtain ⟨_, _, rfl⟩ := MixedWorkingRequest.applyV2_ok_iff.1 opens
  refine { open_ := rfl, finished := fun complete => ?_, closes := closes }
  by_contra unfinished
  have entries : v2.manifestEntries ≠ [] := unfinished
  simp [Stage6PendingReconciliationBatchV2.opened, entries] at complete

/-- A batch that is extended by the record its manifest names next has one entry less to go. -/
theorem missingSuffixEntries_extended {batch : Stage6PendingReconciliationBatchV2 codec}
    {entry : Stage6SuffixManifestEntryV2} (named : batch.missingSuffixEntries.head? = some entry)
    (v1 : Stage6JournalRecordV1 codec.toDurableRecordCodec) :
    batch.missingSuffixEntries = entry :: (batch.extended v1).missingSuffixEntries := by
  have rest : (batch.extended v1).missingSuffixEntries = batch.missingSuffixEntries.tail := by
    simp [Stage6PendingReconciliationBatchV2.missingSuffixEntries, Stage6PendingReconciliationBatchV2.extended]
  rw [rest]
  exact List.eq_cons_of_mem_head? named

theorem extended_finished {batch : Stage6PendingReconciliationBatchV2 codec}
    (incomplete : batch.completion = .incomplete) (v1 : Stage6JournalRecordV1 codec.toDurableRecordCodec)
    (complete : (batch.extended v1).completion = .complete) :
    (batch.extended v1).missingSuffixEntries = [] := by
  unfold Stage6PendingReconciliationBatchV2.extended at complete
  by_contra unfinished
  have entries : batch.transitionRecord.manifestEntries.drop (batch.verifiedSuffixPrefixLength + 1) ≠ [] :=
    unfinished
  simp [entries, incomplete] at complete

/-- A held request takes only suffix records and later ones, stays held and attempts nothing. -/
theorem TransitionHeld.step {request updated : MixedWorkingRequest codec}
    {batch : Stage6PendingReconciliationBatchV2 codec} (held : TransitionHeld request batch)
    {record : Stage6JournalRecordVersioned codec} (effect : RequestEffect (some request) record updated) :
    ∃ v1 extended, record = .v1 v1 ∧ attemptOrdinal? v1.payload = none ∧ TransitionHeld updated extended := by
  have open_ := held.open_
  cases effect with
  | taken v1 shape takes =>
      obtain ⟨applied, suffix⟩ := MixedWorkingRequest.applyV1_ok takes
      have transition := apply_transition applied
      refine ⟨v1, ?_⟩
      cases suffix with
      | noBatch absent kept => simp [open_] at absent
      | beyond current isBatch complete kept =>
          obtain rfl : batch = current := Option.some.inj (open_.symm.trans isBatch)
          have missing := held.finished complete
          have forbidden : request.v1.dispatchSafetyState = .dispatchForbidden := by
            have closes := held.closes
            rwa [missing] at closes
          rw [forbidden] at transition
          obtain ⟨still, notAttempt⟩ := dispatchTransition_forbidden transition
          exact ⟨batch, shape, notAttempt,
            { open_ := kept, finished := held.finished, closes := still ▸ .of_forbidden _ }⟩
      | next current entry isBatch incomplete named matches_ extends_ =>
          obtain rfl : batch = current := Option.some.inj (open_.symm.trans isBatch)
          have closes := held.closes
          rw [missingSuffixEntries_extended named v1] at closes
          obtain ⟨notAttempt, rest⟩ := closes.next matches_ transition
          exact ⟨batch.extended v1, shape, notAttempt,
            { open_ := extends_, finished := extended_finished incomplete v1, closes := rest }⟩
  | opened v2 current shape found unfinished opens =>
      obtain rfl : request = current := Option.some.inj found
      have absent := (MixedWorkingRequest.applyV2_ok_iff.1 opens).1
      simp [open_] at absent
  | settled v3 effect current shape isEffect found settles =>
      obtain rfl : request = current := Option.some.inj found
      obtain ⟨absent, _⟩ := check_bind_ok_iff.1 settles
      simp [open_] at absent
  | scheduled v4 identity current shape found noBatch advances =>
      obtain rfl : request = current := Option.some.inj found
      simp [open_] at noBatch

end Held

section Runs

variable {codec : ReconciliationCodec}

/-- An exact transition whose order has a broker id, or a conflict hold. -/
def ResolvesDispatch (payload : Stage6ReconciliationTransitionPayloadV2) : Prop :=
  match payload.transitionKind with
  | .exact _ => ∃ order ∈ payload.brokerOrderFact, order.brokerOrderId ≠ none
  | .reconciliationConflictHold => True
  | .reconciliationStillUnknownHold => False

/-- A journal with `v2`, a resolving transition of a place request, between `before` and `after`. -/
structure ResolvedAt (history before : List (Stage6JournalRecordVersioned codec))
    (v2 : Stage6JournalRecordV2 codec.toTransitionCodec)
    (after : List (Stage6JournalRecordVersioned codec)) : Prop where
  split : history = before ++ .v2 v2 :: after
  place : v2.durableRequestIdentity.action = .place
  resolves : ResolvesDispatch v2.payload

def NoAttemptAfterTransition (history : List (Stage6JournalRecordVersioned codec)) : Prop :=
  ∀ before v2 after, ResolvedAt history before v2 after →
    ∀ v1, .v1 v1 ∈ after → v1.durableRequestIdentity.strategyRequestId = v2.requestId →
      v1.eventKind ≠ .dispatchAttemptRecorded

/-- Every resolving transition closes dispatch through its manifest, from the
safety state that the journal before it recovers. -/
def TransitionsCloseDispatch (history : List (Stage6JournalRecordVersioned codec)) : Prop :=
  ∀ before v2 after, ResolvedAt history before v2 after →
    ∀ snapshot recovered, Stage6MixedReplayEngineV2.replay before = .ok snapshot →
      recovered ∈ snapshot.requests → recovered.strategyRequestId = v2.requestId →
        ManifestClosesDispatch codec.toTransitionCodec recovered.dispatchSafetyState v2.manifestEntries

/-- Manifests that all start with a closing event are enough. -/
theorem TransitionsCloseDispatch.of_first {history : List (Stage6JournalRecordVersioned codec)}
    (first : ∀ v2, .v2 v2 ∈ history →
      ∃ entry ∈ v2.manifestEntries.head?, kindClosesDispatch entry.eventKind = true) :
    TransitionsCloseDispatch history := by
  intro before v2 after resolved snapshot recovered _ _ _
  obtain ⟨entry, isFirst, closing⟩ := first v2 (by simp [resolved.split])
  rw [List.eq_cons_of_mem_head? isFirst]
  exact .of_first closing ..

/-- Since the transition `v2` its request is held, and has not been sent in `after`. -/
def HeldSince (state : MixedReplayState codec) (v2 : Stage6JournalRecordV2 codec.toTransitionCodec)
    (after : List (Stage6JournalRecordVersioned codec)) : Prop :=
  (∃ request batch, state.requests[v2.requestId.toText]? = some request ∧ TransitionHeld request batch) ∧
    ∀ v1, .v1 v1 ∈ after → requestKey v1 = v2.requestId.toText → attemptOrdinal? v1.payload = none

/-- A transition that closes dispatch holds its request from the moment it is admitted. -/
theorem HeldSince.admitted {state updated : MixedReplayState codec}
    {seen : Std.ExtTreeMap HexText (List UInt8)} {v2 : Stage6JournalRecordV2 codec.toTransitionCodec}
    (consumed : state.consume seen (.v2 v2) = .ok updated)
    (closes : ∀ recovered ∈ state.snapshot.requests, recovered.strategyRequestId = v2.requestId →
      ManifestClosesDispatch codec.toTransitionCodec recovered.dispatchSafetyState v2.manifestEntries) :
    HeldSince updated v2 [] := by
  have drives := MixedReplayState.consume_drives consumed
  obtain ⟨opened, stored, effect⟩ := drives.on_route rfl
  refine ⟨?_, by simp⟩
  cases effect with
  | opened other request shape found unfinished opens =>
      obtain rfl : v2 = other := Stage6JournalRecordVersioned.v2.inj shape
      have member : request.v1.intoRecovered ∈ state.snapshot.requests :=
        List.mem_map.2 ⟨request, mem_intoValues_iff.2 ⟨_, found⟩, rfl⟩
      have linked := (MixedWorkingRequest.applyV2_ok_iff.1 opens).2.1
      have named : request.v1.intoRecovered.strategyRequestId = v2.requestId :=
        congrArg (fun identity => identity.strategyRequestId)
          (WorkingRequest.checkCausalLink_ok_iff.1 linked).1
      exact ⟨opened, _, stored, .opened opens (closes _ member named)⟩
  | taken _ shape _ => cases shape
  | settled _ _ _ shape _ _ _ => cases shape
  | scheduled _ _ _ shape _ _ _ => cases shape

/-- The step lemma: whatever is admitted next, the request stays held. -/
theorem HeldSince.step {state updated : MixedReplayState codec}
    {v2 : Stage6JournalRecordV2 codec.toTransitionCodec} {after : List (Stage6JournalRecordVersioned codec)}
    (held : HeldSince state v2 after) {seen : Std.ExtTreeMap HexText (List UInt8)}
    {record : Stage6JournalRecordVersioned codec} (consumed : state.consume seen record = .ok updated) :
    HeldSince updated v2 (after ++ [record]) := by
  obtain ⟨⟨request, batch, stored, holds⟩, quiet⟩ := held
  have drives := MixedReplayState.consume_drives consumed
  have later (last : ∀ v1, record = .v1 v1 → requestKey v1 = v2.requestId.toText →
      attemptOrdinal? v1.payload = none) (v1 : Stage6JournalRecordV1 codec.toDurableRecordCodec)
      (member : .v1 v1 ∈ after ++ [record]) (routed : requestKey v1 = v2.requestId.toText) :
      attemptOrdinal? v1.payload = none := by
    rcases List.mem_append.1 member with earlier | isLast
    · exact quiet v1 earlier routed
    · exact last v1 (List.mem_singleton.1 isLast).symm routed
  by_cases onRoute : requestRoute state.lastUniqueRequestAcceptedIdentity record = some v2.requestId.toText
  · obtain ⟨taken, takes, effect⟩ := drives.on_route onRoute
    rw [stored] at effect
    obtain ⟨v1, extended, shape, notAttempt, stillHolds⟩ := holds.step effect
    subst shape
    refine ⟨⟨taken, extended, takes, stillHolds⟩, later fun other same _ => ?_⟩
    exact Stage6JournalRecordVersioned.v1.inj same ▸ notAttempt
  · refine ⟨⟨request, batch, by rw [drives.off_route onRoute, stored], holds⟩, later fun v1 shape routed => ?_⟩
    subst shape
    exact absurd (congrArg some routed) onRoute

/-- The run lemma: every resolving transition of a replayed journal holds its request to the end. -/
theorem mixedRun_holds {records : List (Stage6JournalRecordVersioned codec)}
    {cursor : MixedReplayCursor codec} (success : (mixedLog codec).run .empty records = .ok cursor)
    (closing : TransitionsCloseDispatch (distinctRecords records))
    {before after : List (Stage6JournalRecordVersioned codec)}
    {v2 : Stage6JournalRecordV2 codec.toTransitionCodec}
    (resolved : ResolvedAt (distinctRecords records) before v2 after) : HeldSince cursor.state v2 after := by
  have holds := (mixedLog codec).run_induction (fun history state => TransitionsCloseDispatch history →
    ∀ before v2 after, ResolvedAt history before v2 after → HeldSince state v2 after) ?_ ?_ success
  · exact holds.2.2 closing before v2 after resolved
  · intro _ before v2 after resolved
    have split := resolved.split
    simp at split
  · intro history cursor updated record ran _ _ holds consumed closing before v2 after resolved
    rcases split_append_singleton resolved.split with ⟨atEnd, isRecord, nothing⟩ | ⟨shorter, extends_, earlier⟩
    · subst atEnd isRecord nothing
      refine .admitted consumed fun recovered member named => ?_
      exact closing _ v2 [] resolved cursor.state.snapshot recovered
        ((mixedReplay_ok_iff ..).2 ⟨cursor, ran, rfl⟩) member named
    · subst extends_
      have closed : TransitionsCloseDispatch history := fun front v2 back inHistory =>
        closing front v2 (back ++ [record])
          { inHistory with split := by simp [inHistory.split] }
      exact (holds closed before v2 shorter { resolved with split := earlier }).step consumed

/-- Where every resolving transition closes dispatch through its manifest, no
place request is sent again after such a transition. -/
theorem no_attempt_after_transition {records : List (Stage6JournalRecordVersioned codec)}
    {snapshot : Stage6MixedReplaySnapshotV2 codec}
    (success : Stage6MixedReplayEngineV2.replay records = .ok snapshot)
    (closing : TransitionsCloseDispatch (distinctRecords records)) :
    NoAttemptAfterTransition (distinctRecords records) := by
  obtain ⟨cursor, ran, _⟩ := (mixedReplay_ok_iff ..).1 success
  intro before v2 after resolved v1 member sameRequest isAttempt
  have quiet := (mixedRun_holds ran closing resolved).2 v1 member (congrArg StrategyRequestId.toText sameRequest)
  have matched := v1.facts.eventMatches
  rw [isAttempt] at matched
  cases payload : v1.payload <;> simp_all [eventMatchesPayload, attemptOrdinal?]

theorem no_attempt_after_transition_rejected :
    ∃ (sample : RejectedPlace) (transition : Stage6JournalRecordV2 (plainReconciliationCodec []).toTransitionCodec),
      rejectedPlace = some sample ∧ Stage6JournalRecordV2.ofWire sample.transition = .ok transition ∧
        NoAttemptAfterTransition (distinctRecords (sample.journal transition)) := by
  have evaluated : (rejectedPlace.bind fun sample =>
      (Stage6JournalRecordV2.ofWire sample.transition).toOption.map fun transition =>
        ((Stage6MixedReplayEngineV2.replay (sample.journal transition)).isOk,
          transition.manifestEntries.head?.any fun entry => kindClosesDispatch entry.eventKind)) =
        some (true, true) := by
    decide +kernel
  obtain ⟨sample, isSample, evaluated⟩ := Option.bind_eq_some_iff.1 evaluated
  obtain ⟨transition, built, evaluated⟩ := Option.map_eq_some_iff.1 evaluated
  obtain ⟨replays, closing⟩ := Prod.mk.inj evaluated
  obtain ⟨snapshot, success⟩ := exists_ok_of_isOk replays
  refine ⟨sample, transition, isSample, toOption_eq_some_iff.1 built,
    no_attempt_after_transition success (.of_first fun v2 member => ?_)⟩
  obtain rfl : v2 = transition := by
    simpa [RejectedPlace.journal] using Log.mem_of_mem_distinct _ member
  exact (Option.any_eq_true ..).1 closing

/-- A conflict hold without suffix does not hold: the engine accepts the journal
in which the held request is sent again. -/
theorem conflict_hold_is_resent :
    ∃ sample snapshot, retriedAfterHold = some sample ∧
      sample.transition.payload.transitionKind = .reconciliationConflictHold ∧
        Stage6MixedReplayEngineV2.replay sample.journal = .ok snapshot ∧
          ¬ NoAttemptAfterTransition (distinctRecords sample.journal) := by
  have evaluated : (retriedAfterHold.map fun sample =>
      decide (sample.transition.payload.transitionKind = .reconciliationConflictHold ∧
        sample.transition.durableRequestIdentity.action = .place ∧
          sample.second.eventKind = .dispatchAttemptRecorded ∧
            sample.second.durableRequestIdentity.strategyRequestId = sample.transition.requestId ∧
              (Stage6MixedReplayEngineV2.replay sample.journal).isOk = true ∧
                (sample.journal.map (mixedLog (plainReconciliationCodec [])).key).Nodup)) = some true := by
    decide +kernel
  obtain ⟨sample, isSample, evaluated⟩ := Option.map_eq_some_iff.1 evaluated
  obtain ⟨hold, place, isAttempt, sameRequest, replays, distinctKeys⟩ := of_decide_eq_true evaluated
  obtain ⟨snapshot, success⟩ := exists_ok_of_isOk replays
  refine ⟨sample, snapshot, isSample, hold, success, fun quiet => ?_⟩
  have same : distinctRecords sample.journal = sample.journal := Log.distinct_eq_self _ distinctKeys
  have resolves : ResolvesDispatch sample.transition.payload := by
    unfold ResolvesDispatch
    rw [hold]
    trivial
  have resolved : ResolvedAt _ [.v1 sample.accepted, .v1 sample.attempt] sample.transition
      [.v1 sample.missing, .v1 sample.second] :=
    { split := same, place := place, resolves := resolves }
  exact quiet _ _ _ resolved sample.second (by simp) sameRequest isAttempt

end Runs

end TradingGateway.Stage6.MixedReplay
