import TradingGateway.Stage6.MixedReplayPositions
import TradingGateway.Stage6.SuffixReconstruction

/-! A batch that a crash interrupted can be completed: mixed replay accepts the
reconstructed suffix records, one after another, behind the transition. -/

set_option autoImplicit false

namespace TradingGateway.Stage6.SuffixReconstruction

open BrokerCore.Identifiers DurableIdentity JournalRecord Replay ReconciliationV2 VersionedRecord RecordIds
open MixedReplay PlainReconciliationCodec Stage8b.WorkingLimitEvidence
open Foundation.ExceptRun Foundation.IdempotentLog Foundation.OrderedMap

section Acceptance

variable {codec : TransitionCodec}

def applyAll (state : WorkingRequest) (records : List (Stage6JournalRecordV1 codec.toDurableRecordCodec)) :
    Except Stage6ReplayError WorkingRequest :=
  records.foldlM (fun state record => state.apply record) state

def isSuffixKind (kind : Stage6JournalEventKind) : Bool :=
  match kind with
  | .brokerOrderObserved | .brokerTradeObserved | .cancelOutcomeObserved | .requestFinalized => true
  | .requestAccepted | .dispatchAttemptRecorded | .reconciliationObserved | .conflictObserved => false

/-- The records built so far take the request from `start` to `state`, where the next one follows. -/
structure Built (transition : Stage6JournalRecordV2 codec) (start : WorkingRequest)
    (progress : SuffixProgress codec) (state : WorkingRequest) : Prop where
  applied : applyAll start progress.records = .ok state
  identity : state.identity = transition.durableRequestIdentity
  sequence : state.lastSequence.toNat + 1 = transition.lifecycleSequence.value.toNat + progress.ordinal.toNat
  previous : state.lastRecordId = progress.previous
  parents : ∀ record ∈ progress.records, record.causalParentId = record.previousRecordId
  kinds : ∀ record ∈ progress.records, isSuffixKind record.eventKind = true

theorem nextSequence_ok {transition : Stage6JournalRecordV2 codec} {offset : UInt64}
    {sequence : Stage6LifecycleSequence} (success : nextSequence transition offset = .ok sequence) :
    sequence.value.toNat = transition.lifecycleSequence.value.toNat + offset.toNat := by
  obtain ⟨value, added, success⟩ := bind_ok_iff.1 success
  rw [orReject_ok_iff] at added
  rw [mapError_ok_iff] at success
  unfold checkedAdd at added
  unfold Stage6LifecycleSequence.new at success
  split at added
  · rename_i small
    split at success
    · cases added
      cases success
      rw [UInt64.toNat_add, Nat.mod_eq_of_lt small]
    · cases success
  · cases added

/-- A record built behind the last one is applied if the request takes its payload. -/
theorem Built.push {transition : Stage6JournalRecordV2 codec} {start state middle : WorkingRequest}
    {progress updated : SuffixProgress codec}
    {build : Stage6LifecycleSequence → Option Stage6JournalRecordId →
      Except Stage6DurableIdentityError (Stage6JournalRecordV1 codec.toDurableRecordCodec)}
    {kind : Stage6JournalEventKind} {payload : Stage6JournalPayloadV1}
    (built : Built transition start progress state) (pushed : progress.push transition build = .ok updated)
    (builds : ∀ sequence previous record, build sequence previous = .ok record →
      BuiltRecord transition.durableRequestIdentity kind payload sequence previous
        record.toStage6JournalRecordWireV1)
    (suffixKind : isSuffixKind kind = true) (unfinished : state.finalDisposition = none)
    (takes : state.applyPayload payload = .ok middle) :
    ∃ sequence recordId, Built transition start updated (middle.advanceTo sequence recordId) := by
  obtain ⟨sequence, next, pushed⟩ := bind_ok_iff.1 pushed
  obtain ⟨record, isBuilt, result⟩ := bind_ok_iff.1 pushed
  rw [mapError_ok_iff] at isBuilt
  have facts := builds _ _ _ isBuilt
  have position := nextSequence_ok next
  have sequenceBound := sequence.value.toNat_lt
  have startBound : 0 < transition.lifecycleSequence.value.toNat := by
    have nonzero := transition.lifecycleSequence.nonzero
    have : transition.lifecycleSequence.value.toNat ≠ 0 := fun zero => nonzero (UInt64.toNat_inj.1 zero)
    omega
  have follows := built.sequence
  have succeeds : sequence.value = state.lastSequence + 1 := by
    apply UInt64.toNat_inj.1
    rw [UInt64.toNat_add, UInt64.toNat_one, Nat.mod_eq_of_lt (by omega)]
    omega
  have allowed : actionAllowsPayload state.identity.action payload = true := by
    rw [built.identity, ← facts.ofRequest, ← facts.carries]
    exact record.facts.actionAllows
  have taken : state.apply record = .ok (middle.advanceTo record.lifecycleSequence record.journalRecordId) := by
    refine WorkingRequest.apply_ok_iff.2 ⟨?_, by rwa [facts.carries], middle, by rwa [facts.carries], rfl⟩
    rw [facts.ofRequest, facts.atSequence, facts.behind]
    exact WorkingRequest.checkCausalLink_ok_iff.2 ⟨built.identity, unfinished, succeeds, by rw [built.previous]⟩
  have sameIdentity := (WorkingRequest.applyPayload_effect takes).identity_eq
  cases result
  refine ⟨record.lifecycleSequence, record.journalRecordId, ?_⟩
  refine { applied := ?_, identity := ?_, sequence := ?_, previous := rfl, parents := ?_, kinds := ?_ }
  · exact (foldlM_append_ok_iff ..).2 ⟨state, built.applied, by simpa using taken⟩
  · exact sameIdentity.trans built.identity
  · have grows : (progress.ordinal + 1).toNat = progress.ordinal.toNat + 1 := by
      rw [UInt64.toNat_add, UInt64.toNat_one, Nat.mod_eq_of_lt (by omega)]
    change record.lifecycleSequence.value.toNat + 1 = _ + (progress.ordinal + 1).toNat
    rw [facts.atSequence, grows]
    omega
  · intro other member
    rcases List.mem_append.1 member with earlier | isLast
    · exact built.parents other earlier
    · obtain rfl : other = record := by simpa using isLast
      rw [facts.parent, facts.behind]
  · intro other member
    rcases List.mem_append.1 member with earlier | isLast
    · exact built.kinds other earlier
    · obtain rfl : other = record := by simpa using isLast
      rw [facts.ofKind]
      exact suffixKind

/-- A dispatched request, not finalized, whose order and trades so far are all of `orderId`. -/
structure OpenFor (orderId : Option BrokerOrderId) (state : WorkingRequest) : Prop where
  attempted : state.dispatchAttemptCount ≠ 0
  unfinished : state.finalDisposition = none
  known : ∀ known ∈ state.knownBrokerOrderId, orderId = some known
  trades : ∀ (tradeId : BrokerTradeId) (known : BrokerOrderId),
    state.trades[tradeId]? = some known → orderId = some known

theorem OpenFor.requireDispatchAttempt {orderId : Option BrokerOrderId} {state : WorkingRequest}
    (open_ : OpenFor orderId state) : state.requireDispatchAttempt = .ok () :=
  rejectIf_of_not _ open_.attempted

theorem OpenFor.establishes {orderId : BrokerOrderId} {state : WorkingRequest} (open_ : OpenFor (some orderId) state) :
    state.establishBrokerOrder orderId = .ok { state with knownBrokerOrderId := some orderId } := by
  refine WorkingRequest.establishBrokerOrder_ok_iff.2 ⟨fun known isKnown => ?_, rfl⟩
  exact (Option.some.inj (open_.known known isKnown)).symm

theorem OpenFor.records_trade {orderId : BrokerOrderId} {state : WorkingRequest} (open_ : OpenFor (some orderId) state)
    (tradeId : BrokerTradeId) :
    ∃ traded, state.recordTrade tradeId orderId = .ok traded ∧ OpenFor (some orderId) traded := by
  unfold WorkingRequest.recordTrade
  cases found : state.trades[tradeId]? with
  | some existing =>
      have same : existing = orderId := (Option.some.inj (open_.trades tradeId existing found)).symm
      exact ⟨state, by simp [same], open_⟩
  | none =>
      refine ⟨_, rfl, { open_ with trades := fun other known stored => ?_ }⟩
      rw [Std.ExtTreeMap.getElem?_insert] at stored
      split at stored
      · exact congrArg some (Option.some.inj stored)
      · exact open_.trades other known stored

theorem Built.pushOrder {transition : Stage6JournalRecordV2 codec} {start state : WorkingRequest}
    {progress updated : SuffixProgress codec} {orderId : BrokerOrderId}
    (built : Built transition start progress state) (open_ : OpenFor (some orderId) state)
    (pushed : progress.pushOrder transition orderId = .ok updated) :
    ∃ next, Built transition start updated next ∧ OpenFor (some orderId) next := by
  have takes : state.applyPayload (.brokerOrderObserved orderId) =
      .ok { state with knownBrokerOrderId := some orderId, dispatchSafetyState := .dispatchForbidden } := by
    simp only [WorkingRequest.applyPayload, open_.requireDispatchAttempt, open_.establishes, ok_bind]
  obtain ⟨sequence, recordId, extended⟩ := built.push pushed (fun _ _ _ success =>
    Stage6JournalRecordV1.build_ok (check_bind_ok_iff.1 success).2) rfl open_.unfinished takes
  refine ⟨_, extended, { attempted := open_.attempted, unfinished := open_.unfinished, known := ?_, trades := open_.trades }⟩
  intro known isKnown
  exact isKnown

theorem Built.pushTrade {transition : Stage6JournalRecordV2 codec} {start state : WorkingRequest}
    {progress updated : SuffixProgress codec} {orderId : BrokerOrderId} {trade : Stage6MaterialTradeFactV2}
    (built : Built transition start progress state) (open_ : OpenFor (some orderId) state)
    (pushed : progress.pushTrade transition orderId trade = .ok updated) :
    ∃ next, Built transition start updated next ∧ OpenFor (some orderId) next := by
  unfold SuffixProgress.pushTrade at pushed
  split at pushed
  · cases pushed
    exact ⟨state, built, open_⟩
  · obtain ⟨traded, records, tradedOpen⟩ := open_.records_trade trade.brokerTradeId
    have takes : state.applyPayload (.brokerTradeObserved trade.brokerTradeId orderId) =
        .ok { traded with knownBrokerOrderId := some orderId, dispatchSafetyState := .dispatchForbidden } := by
      simp only [WorkingRequest.applyPayload, open_.requireDispatchAttempt, records, tradedOpen.establishes, ok_bind]
    obtain ⟨sequence, recordId, extended⟩ := built.push pushed (fun _ _ _ success =>
      Stage6JournalRecordV1.build_ok (check_bind_ok_iff.1 success).2) rfl open_.unfinished takes
    refine ⟨_, extended, { attempted := tradedOpen.attempted, unfinished := tradedOpen.unfinished, known := ?_, trades := tradedOpen.trades }⟩
    intro known isKnown
    exact isKnown

theorem Built.pushFinalized {transition : Stage6JournalRecordV2 codec} {start state : WorkingRequest}
    {progress updated : SuffixProgress codec} {disposition : Stage6RequestFinalDispositionV1}
    (built : Built transition start progress state) (unfinished : state.finalDisposition = none)
    (pushed : progress.pushFinalized transition disposition = .ok updated) :
    ∃ next, Built transition start updated next := by
  obtain ⟨sequence, recordId, extended⟩ := built.push pushed
    (fun _ _ _ success => Stage6JournalRecordV1.build_ok success) rfl unfinished rfl
  exact ⟨_, extended⟩

structure AwaitsSuffix (transition : Stage6JournalRecordV2 codec) (state : WorkingRequest) : Prop where
  identity : state.identity = transition.durableRequestIdentity
  sequence : state.lastSequence = transition.lifecycleSequence.value
  recordId : state.lastRecordId = transition.journalRecordId
  attempted : state.dispatchAttemptCount ≠ 0
  noOrder : state.knownBrokerOrderId = none
  noTrades : state.trades = ∅
  noCancelOutcome : state.cancelOutcome = none
  unfinished : state.finalDisposition = none

theorem AwaitsSuffix.built {transition : Stage6JournalRecordV2 codec} {start : WorkingRequest}
    (awaits : AwaitsSuffix transition start) : Built transition start (.start transition) start :=
  { applied := rfl
    identity := awaits.identity
    sequence := by rw [awaits.sequence]; rfl
    previous := awaits.recordId
    parents := by simp [SuffixProgress.start]
    kinds := by simp [SuffixProgress.start] }

theorem AwaitsSuffix.openFor {transition : Stage6JournalRecordV2 codec} {start : WorkingRequest}
    (awaits : AwaitsSuffix transition start) (orderId : Option BrokerOrderId) : OpenFor orderId start :=
  { attempted := awaits.attempted
    unfinished := awaits.unfinished
    known := by simp [awaits.noOrder]
    trades := by simp [awaits.noTrades] }

/-- Trade records name the selected order, if there is one. -/
theorem projectedTradeOrderId_selected {selected projected : Option BrokerOrderId}
    {trades : List Stage6MaterialTradeFactV2} (success : projectedTradeOrderId selected trades = .ok projected)
    {orderId : BrokerOrderId} (isSelected : selected = some orderId) : projected = some orderId := by
  subst isSelected
  obtain ⟨_, result⟩ := check_bind_ok_iff.1 success
  exact (Except.ok.inj result).symm

theorem placeSuffix_built {transition : Stage6JournalRecordV2 codec} {start : WorkingRequest}
    {lifecycle : Stage6ReconciliationLifecycleV2} {built : SuffixProgress codec}
    (awaits : AwaitsSuffix transition start) (success : placeSuffix transition lifecycle = .ok built) :
    ∃ final, Built transition start built final := by
  obtain ⟨projected, projects, success⟩ := bind_ok_iff.1 success
  obtain ⟨observed, observes, success⟩ := bind_ok_iff.1 success
  obtain ⟨traded, trades, finalizes⟩ := bind_ok_iff.1 success
  have afterOrder : ∃ state, Built transition start observed state ∧ OpenFor projected state := by
    cases selected : transition.payload.brokerOrderFact.bind fun order => order.brokerOrderId with
    | none =>
        rw [selected] at observes
        cases observes
        exact ⟨start, awaits.built, awaits.openFor projected⟩
    | some orderId =>
        rw [projectedTradeOrderId_selected projects selected]
        rw [selected] at observes
        exact awaits.built.pushOrder (awaits.openFor _) observes
  obtain ⟨state, builtOrder, openOrder⟩ := afterOrder
  have afterTrades : ∃ state, Built transition start traded state ∧ OpenFor projected state := by
    cases projected with
    | none =>
        cases trades
        exact ⟨state, builtOrder, openOrder⟩
    | some orderId =>
        refine foldlM_induction
          (fun _ progress => ∃ state, Built transition start progress state ∧ OpenFor (some orderId) state)
          ⟨state, builtOrder, openOrder⟩ ?_ trades
        intro _ progress trade updated reached pushed
        obtain ⟨current, builtTrades, openTrades⟩ := reached
        exact builtTrades.pushTrade openTrades pushed
  obtain ⟨state, builtTrades, openTrades⟩ := afterTrades
  exact builtTrades.pushFinalized openTrades.unfinished finalizes

theorem cancelSuffix_built {transition : Stage6JournalRecordV2 codec} {start : WorkingRequest}
    {lifecycle : Stage6ReconciliationLifecycleV2} {built : SuffixProgress codec}
    (awaits : AwaitsSuffix transition start) (isCancel : transition.durableRequestIdentity.action = .cancel)
    (success : cancelSuffix transition lifecycle = .ok built) : ∃ final, Built transition start built final := by
  obtain ⟨target, isTarget, success⟩ := bind_ok_iff.1 success
  obtain ⟨outcome, _, success⟩ := bind_ok_iff.1 success
  obtain ⟨observed, observes, finalizes⟩ := bind_ok_iff.1 success
  rw [orReject_ok_iff] at isTarget
  have takes : start.applyPayload (.cancelOutcomeObserved target outcome) =
      .ok { start with cancelOutcome := some outcome, dispatchSafetyState := .dispatchForbidden } := by
    have named : ¬ (start.identity.action ≠ .cancel ∨ start.identity.targetBrokerOrderId ≠ some target) := by
      simp [awaits.identity, isCancel, isTarget]
    simp only [WorkingRequest.applyPayload, (awaits.openFor none).requireDispatchAttempt, rejectIf_of_not _ named,
      awaits.noCancelOutcome, ok_bind]
    rfl
  obtain ⟨sequence, recordId, builtOutcome⟩ := awaits.built.push observes (fun _ _ _ success =>
    Stage6JournalRecordV1.build_ok (check_bind_ok_iff.1 success).2) rfl awaits.unfinished takes
  exact builtOutcome.pushFinalized awaits.unfinished finalizes

/-- The request takes every record that is built for its transition. -/
theorem exactSuffix_built {transition : Stage6JournalRecordV2 codec} {start : WorkingRequest}
    {lifecycle : Stage6ReconciliationLifecycleV2} {built : SuffixProgress codec}
    (awaits : AwaitsSuffix transition start) (success : exactSuffix transition lifecycle = .ok built) :
    ∃ final, Built transition start built final := by
  unfold exactSuffix at success
  cases action : transition.durableRequestIdentity.action with
  | place =>
      rw [action] at success
      exact placeSuffix_built awaits success
  | cancel =>
      rw [action] at success
      exact cancelSuffix_built awaits action success

/-- A request that was dispatched once and then met the transition. -/
def awaitingRequest (transition : Stage6JournalRecordV2 codec) : WorkingRequest :=
  { identity := transition.durableRequestIdentity
    acceptedPayloadSha256 := transition.canonicalPayloadSha256
    lastSequence := transition.lifecycleSequence.value
    lastRecordId := transition.journalRecordId
    dispatchSafetyState := .reconciliationRequired
    dispatchAttemptCount := 1
    knownBrokerOrderId := none
    trades := ∅
    cancelOutcome := none
    finalDisposition := none
    conflictObserved := false }

theorem awaitingRequest_awaits (transition : Stage6JournalRecordV2 codec) :
    AwaitsSuffix transition (awaitingRequest transition) :=
  { identity := rfl
    sequence := rfl
    recordId := rfl
    attempted := (by decide : (1 : UInt32) ≠ 0)
    noOrder := rfl
    noTrades := rfl
    noCancelOutcome := rfl
    unfinished := rfl }

/-- What a reconstructed suffix is good for: it is the one the manifest names,
and a request that waits for it takes all of it. -/
structure SuffixOf (transition : Stage6JournalRecordV2 codec)
    (suffix : List (Stage6JournalRecordV1 codec.toDurableRecordCodec)) : Prop where
  named : List.Forall₂ (fun entry record => Stage6SuffixManifestEntryV2.matchesRecord codec entry record = true)
    transition.manifestEntries suffix
  parents : ∀ record ∈ suffix, record.causalParentId = record.previousRecordId
  kinds : ∀ record ∈ suffix, isSuffixKind record.eventKind = true
  taken : ∀ start, AwaitsSuffix transition start → ∃ final, applyAll start suffix = .ok final

theorem verifySuffix_ok {transition : Stage6JournalRecordV2 codec}
    {records kept : List (Stage6JournalRecordV1 codec.toDurableRecordCodec)}
    (success : verifySuffix transition records = .ok kept) :
    kept = records.take transition.manifestEntries.length ∧
      List.Forall₂ (fun entry record => Stage6SuffixManifestEntryV2.matchesRecord codec entry record = true)
        transition.manifestEntries kept := by
  obtain ⟨verified, result⟩ := check_bind_ok_iff.1 success
  obtain rfl := Except.ok.inj result
  simp only [rejectIf_ok_iff, not_or, not_exists, not_and, ne_eq, not_not, Bool.not_eq_false] at verified
  refine ⟨rfl, List.forall₂_iff_zip.2 ⟨verified.1, fun {entry record} member => ?_⟩⟩
  exact verified.2 (entry, record) member

theorem applyAll_take {start final : WorkingRequest}
    {records : List (Stage6JournalRecordV1 codec.toDurableRecordCodec)} (success : applyAll start records = .ok final)
    (count : Nat) : ∃ middle, applyAll start (records.take count) = .ok middle := by
  unfold applyAll at success
  rw [← List.take_append_drop count records] at success
  obtain ⟨middle, taken, _⟩ := (foldlM_append_ok_iff ..).1 success
  exact ⟨middle, taken⟩

theorem reconstruct_suffixOf {transition : Stage6JournalRecordV2 codec}
    {suffix : List (Stage6JournalRecordV1 codec.toDurableRecordCodec)}
    {shape : Option Stage6DurablePlaceOrderShapeV1}
    (decodes : Stage6JournalRecordV2.decodeCanonical codec transition.encodeCanonical = .ok transition)
    (success : reconstructStage8a4SuffixFromV2 transition = .ok (suffix, shape)) : SuffixOf transition suffix := by
  unfold reconstructStage8a4SuffixFromV2 at success
  rw [decodes, ok_bind] at success
  obtain ⟨_, _, success⟩ := bind_ok_iff.1 success
  cases hasLifecycle : suffixLifecycle transition with
  | none =>
      rw [hasLifecycle] at success
      obtain ⟨noManifest, result⟩ := check_bind_ok_iff.1 success
      cases result
      simp only [rejectIf_ok_iff, ne_eq, not_not] at noManifest
      refine { named := by rw [noManifest]; exact .nil, parents := by simp, kinds := by simp, taken := ?_ }
      intro start _
      exact ⟨start, rfl⟩
  | some lifecycle =>
      rw [hasLifecycle] at success
      obtain ⟨built, builds, success⟩ := bind_ok_iff.1 success
      obtain ⟨kept, verifies, result⟩ := bind_ok_iff.1 success
      cases result
      obtain ⟨rfl, named⟩ := verifySuffix_ok verifies
      obtain ⟨_, example_⟩ := exactSuffix_built (awaitingRequest_awaits transition) builds
      refine { named := named, parents := ?_, kinds := ?_, taken := ?_ }
      · intro record member
        exact example_.parents record (List.mem_of_mem_take member)
      · intro record member
        exact example_.kinds record (List.mem_of_mem_take member)
      · intro start awaits
        obtain ⟨_, all⟩ := exactSuffix_built awaits builds
        exact applyAll_take all.applied _

end Acceptance

section Runs

variable {codec : ReconciliationCodec}

/-- The step lemma: the engine takes the record an open batch names next, if its
request does and it was built behind the request's last record. -/
theorem mixedRun_extends {records : List (Stage6JournalRecordVersioned codec)} {cursor : MixedReplayCursor codec}
    (ran : (mixedLog codec).run .empty records = .ok cursor)
    {request : MixedWorkingRequest codec} {batch : Stage6PendingReconciliationBatchV2 codec}
    {record : Stage6JournalRecordV1 codec.toDurableRecordCodec} {entry : Stage6SuffixManifestEntryV2}
    {updated : WorkingRequest} (stored : cursor.state.requests[requestKey record]? = some request)
    (open_ : request.batch = some batch) (incomplete : batch.completion = .incomplete)
    (named : batch.missingSuffixEntries.head? = some entry)
    (matches_ : entry.matchesRecord codec.toTransitionCodec record = true)
    (applied : request.v1.apply record = .ok updated) (parent : record.causalParentId = record.previousRecordId)
    (free : IdsCollisionFree (records ++ [.v1 record])) :
    ∃ next, (mixedLog codec).run .empty (records ++ [.v1 record]) = .ok next ∧
      next.state.requests[requestKey record]? = some { v1 := updated, batch := some (batch.extended record) } := by
  have takes : request.applyV1 record = .ok { v1 := updated, batch := some (batch.extended record) } := by
    simp only [MixedWorkingRequest.applyV1, open_, incomplete, ↓reduceIte, named, orReject, ok_bind, matches_,
      applied, Except.mapError]
    rfl
  obtain ⟨next, runs, _, result⟩ := mixedRun_follows ran stored applied takes parent free
  exact ⟨next, runs, by simp [result]⟩

/-- A batch that has verified `count` records of its suffix. -/
structure VerifiedTo (batch : Stage6PendingReconciliationBatchV2 codec)
    (transition : Stage6JournalRecordV2 codec.toTransitionCodec) (count : Nat) : Prop where
  ofTransition : batch.transitionRecord = transition
  verified : batch.verifiedSuffixPrefixLength = count
  completion : batch.completion = .complete ↔ count = transition.manifestEntries.length

theorem VerifiedTo.opened (transition : Stage6JournalRecordV2 codec.toTransitionCodec) :
    VerifiedTo (.opened transition : Stage6PendingReconciliationBatchV2 codec) transition 0 := by
  refine { ofTransition := rfl, verified := rfl, completion := ?_ }
  unfold Stage6PendingReconciliationBatchV2.opened
  cases transition.manifestEntries <;> simp

theorem VerifiedTo.extended {batch : Stage6PendingReconciliationBatchV2 codec}
    {transition : Stage6JournalRecordV2 codec.toTransitionCodec} {count : Nat}
    (verified : VerifiedTo batch transition count) (within : count < transition.manifestEntries.length)
    (record : Stage6JournalRecordV1 codec.toDurableRecordCodec) :
    VerifiedTo (batch.extended record) transition (count + 1) := by
  have unfinished : batch.completion ≠ .complete := by
    rw [ne_eq, verified.completion]
    omega
  refine { ofTransition := verified.ofTransition, verified := congrArg (· + 1) verified.verified, completion := ?_ }
  unfold Stage6PendingReconciliationBatchV2.extended
  rw [verified.ofTransition, verified.verified]
  simp only [List.drop_eq_nil_iff]
  split
  · simp only [true_iff]
    omega
  · simp only [unfinished, false_iff]
    omega

theorem forall₂_getElem? {Left Right : Type} {related : Left → Right → Prop} {left : List Left} {right : List Right}
    (all : List.Forall₂ related left right) {index : Nat} {item : Right} (found : right[index]? = some item) :
    ∃ other, left[index]? = some other ∧ related other item := by
  induction all generalizing index with
  | nil => simp at found
  | cons head tail ih =>
      cases index with
      | zero =>
          obtain rfl := Option.some.inj found
          exact ⟨_, rfl, head⟩
      | succ index => exact ih found

/-- The run lemma: the engine takes any number of suffix records behind a transition that waits for them. -/
theorem mixedRun_resumes {records : List (Stage6JournalRecordVersioned codec)} {cursor : MixedReplayCursor codec}
    (ran : (mixedLog codec).run .empty records = .ok cursor)
    {transition : Stage6JournalRecordV2 codec.toTransitionCodec} {request : MixedWorkingRequest codec}
    (stored : cursor.state.requests[transition.requestId.toText]? = some request)
    (open_ : request.batch = some (.opened transition)) (awaits : AwaitsSuffix transition request.v1)
    {suffix : List (Stage6JournalRecordV1 codec.toDurableRecordCodec)} (suffixOf : SuffixOf transition suffix)
    (free : IdsCollisionFree (records ++ suffix.map .v1)) {count : Nat} (within : count ≤ suffix.length) :
    ∃ next resumed batch, (mixedLog codec).run .empty (records ++ (suffix.take count).map .v1) = .ok next ∧
      next.state.requests[transition.requestId.toText]? = some resumed ∧ resumed.batch = some batch ∧
        VerifiedTo batch transition count ∧ applyAll request.v1 (suffix.take count) = .ok resumed.v1 := by
  induction count with
  | zero => exact ⟨cursor, request, _, by simpa using ran, stored, open_, .opened transition, rfl⟩
  | succ count ih =>
      obtain ⟨next, resumed, batch, reached, found, isBatch, verified, applied⟩ := ih (by omega)
      obtain ⟨record, isRecord⟩ : ∃ record, suffix[count]? = some record := ⟨_, List.getElem?_eq_getElem (by omega)⟩
      have grown : suffix.take (count + 1) = suffix.take count ++ [record] := by
        rw [List.take_add_one, isRecord]
        rfl
      have member : record ∈ suffix := List.mem_of_getElem? isRecord
      obtain ⟨entry, isEntry, matches_⟩ := forall₂_getElem? suffixOf.named isRecord
      obtain ⟨final, takesAll⟩ := suffixOf.taken request.v1 awaits
      obtain ⟨updated, takesMore⟩ := applyAll_take takesAll (count + 1)
      rw [grown] at takesMore
      obtain ⟨middle, takesCount, takes⟩ := (foldlM_append_ok_iff ..).1 takesMore
      obtain rfl : middle = resumed.v1 := Except.ok.inj (takesCount.symm.trans applied)
      have takes : resumed.v1.apply record = .ok updated := by simpa using takes
      have short : count < transition.manifestEntries.length := by
        have sameLength := suffixOf.named.length_eq
        omega
      have incomplete : batch.completion = .incomplete := by
        cases progress : batch.completion with
        | incomplete => rfl
        | complete =>
            have whole := verified.completion.1 progress
            omega
      have named : batch.missingSuffixEntries.head? = some entry := by
        unfold Stage6PendingReconciliationBatchV2.missingSuffixEntries
        rw [verified.ofTransition, verified.verified, List.head?_drop, isEntry]
      have sameKey : requestKey record = transition.requestId.toText := by
        obtain ⟨linked, _⟩ := WorkingRequest.apply_ok_iff.1 takes
        have sameIdentity := (WorkingRequest.checkCausalLink_ok_iff.1 linked).1
        rw [requestKey, ← sameIdentity]
        exact ((mixedRun_positions reached _).1 resumed found).named
      have freeNext : IdsCollisionFree (records ++ (suffix.take count).map .v1 ++ [.v1 record]) := by
        refine free.mono fun other isOther => ?_
        rw [List.append_assoc, ← List.map_singleton, ← List.map_append, ← grown] at isOther
        rcases List.mem_append.1 isOther with earlier | later
        · exact List.mem_append_left _ earlier
        · obtain ⟨built, inTake, rfl⟩ := List.mem_map.1 later
          exact List.mem_append_right _ (List.mem_map_of_mem (List.mem_of_mem_take inTake))
      obtain ⟨extended, runs, storedNext⟩ := mixedRun_extends reached (sameKey ▸ found) isBatch incomplete named
        matches_ takes (suffixOf.parents record member) freeNext
      rw [sameKey] at storedNext
      refine ⟨extended, _, _, ?_, storedNext, rfl, verified.extended short record, ?_⟩
      · rwa [grown, List.map_append, List.map_singleton, ← List.append_assoc]
      · rw [grown]
        exact takesMore

/-- A transition that restores from its encoding is among the first deliveries. -/
theorem transition_mem_distinct {records : List (Stage6JournalRecordVersioned codec)}
    (restores : ∀ record ∈ records, JournalFrames.Restores record)
    {transition : Stage6JournalRecordV2 codec.toTransitionCodec} (member : .v2 transition ∈ records) :
    .v2 transition ∈ distinctRecords records := by
  obtain ⟨first, kept, _, sameCode⟩ := (mixedLog codec).distinct_covers member
  have restored := restores first (Log.mem_of_mem_distinct _ kept)
  have sameBytes : first.encodeCanonical = (Stage6JournalRecordVersioned.v2 transition).encodeCanonical := sameCode
  unfold JournalFrames.Restores at restored
  rw [sameBytes, restores _ member] at restored
  exact Except.ok.inj restored ▸ kept

theorem transition_decodes {transition : Stage6JournalRecordV2 codec.toTransitionCodec}
    (restores : JournalFrames.Restores (.v2 transition : Stage6JournalRecordVersioned codec)) :
    Stage6JournalRecordV2.decodeCanonical codec.toTransitionCodec transition.encodeCanonical = .ok transition := by
  obtain ⟨version, _, versioned⟩ := bind_ok_iff.1 restores
  split_ifs at versioned
  · rw [mapError_ok_iff, map_ok_iff] at versioned
    obtain ⟨v1, _, other⟩ := versioned
    cases other
  · rw [map_ok_iff] at versioned
    obtain ⟨v2, found, same⟩ := versioned
    cases same
    exact found
  · rw [mapError_ok_iff, map_ok_iff] at versioned
    obtain ⟨v3, _, other⟩ := versioned
    cases other
  · rw [mapError_ok_iff, map_ok_iff] at versioned
    obtain ⟨v4, _, other⟩ := versioned
    cases other

/-- The request of a transition, of which the snapshot knows nothing but its
dispatch, waits for the suffix; without a manifest there is nothing to wait for. -/
theorem awaits_of_unresolved {records : List (Stage6JournalRecordVersioned codec)} {cursor : MixedReplayCursor codec}
    (ran : (mixedLog codec).run .empty records = .ok cursor)
    {transition : Stage6JournalRecordV2 codec.toTransitionCodec} {request : MixedWorkingRequest codec}
    (stored : cursor.state.requests[transition.requestId.toText]? = some request)
    {batch : Stage6PendingReconciliationBatchV2 codec} (open_ : request.batch = some batch)
    (ofTransition : batch.transitionRecord = transition)
    (attempted : request.v1.dispatchAttemptCount ≠ 0) (noOrder : request.v1.knownBrokerOrderId = none)
    (noTrades : request.v1.trades = ∅) (noCancelOutcome : request.v1.cancelOutcome = none)
    (unfinished : request.v1.finalDisposition = none)
    {entry : Stage6SuffixManifestEntryV2} (isEntry : entry ∈ transition.manifestEntries.head?)
    (suffixKind : isSuffixKind entry.eventKind = true) :
    batch = .opened transition ∧ AwaitsSuffix transition request.v1 := by
  subst ofTransition
  rcases ((mixedRun_positions ran _).1 request stored).batch batch open_ entry isEntry with untouched | marked
  · obtain ⟨opened, identity, sequence, recordId⟩ := untouched
    exact ⟨opened, {
      identity := identity
      sequence := sequence
      recordId := recordId
      attempted := attempted
      noOrder := noOrder
      noTrades := noTrades
      noCancelOutcome := noCancelOutcome
      unfinished := unfinished }⟩
  · cases kind : entry.eventKind <;> simp_all [Marked, isSuffixKind]

/-- A recovered request that was dispatched, with no known order or trade and no finalization. -/
def Unresolved (recovered : Stage6RecoveredRequestV1) : Prop :=
  recovered.dispatchAttemptCount ≠ 0 ∧ recovered.knownBrokerOrderId = none ∧
    recovered.observedBrokerTradeIds = [] ∧ recovered.finalDisposition = none

instance (recovered : Stage6RecoveredRequestV1) : Decidable (Unresolved recovered) :=
  inferInstanceAs (Decidable (_ ∧ _))

/-- A batch of the snapshot is `count` records into `suffix`, and misses exactly the rest. -/
def ResumedTo (snapshot : Stage6MixedReplaySnapshotV2 codec)
    (transition : Stage6JournalRecordV2 codec.toTransitionCodec)
    (suffix : List (Stage6JournalRecordV1 codec.toDurableRecordCodec)) (count : Nat) : Prop :=
  ∃ batch ∈ snapshot.reconciliationBatches, batch.transitionRecord = transition ∧
    batch.verifiedSuffixPrefixLength = count ∧
      List.Forall₂ (fun entry record => Stage6SuffixManifestEntryV2.matchesRecord codec.toTransitionCodec entry record = true)
        batch.missingSuffixEntries (suffix.drop count) ∧
        (count = suffix.length → batch.completion = .complete)

theorem VerifiedTo.resumedTo {cursor : MixedReplayCursor codec} {request : MixedWorkingRequest codec}
    {batch : Stage6PendingReconciliationBatchV2 codec} {transition : Stage6JournalRecordV2 codec.toTransitionCodec}
    {suffix : List (Stage6JournalRecordV1 codec.toDurableRecordCodec)} {count : Nat}
    (verified : VerifiedTo batch transition count) (suffixOf : SuffixOf transition suffix)
    (stored : cursor.state.requests[transition.requestId.toText]? = some request)
    (open_ : request.batch = some batch) : ResumedTo cursor.state.snapshot transition suffix count := by
  refine ⟨batch, mem_reconciliationBatches_iff.2 ⟨_, by rw [stored]; exact open_⟩, verified.ofTransition,
    verified.verified, ?_, fun whole => ?_⟩
  · unfold Stage6PendingReconciliationBatchV2.missingSuffixEntries
    rw [verified.ofTransition, verified.verified]
    exact List.forall₂_drop count suffixOf.named
  · exact verified.completion.2 (whole.trans suffixOf.named.length_eq.symm)

/-- Behind the transition of an unresolved request without a cancel outcome any
number of reconstructed suffix records is accepted, and all of them complete the batch. -/
theorem reconstruction_completes_batch {records : List (Stage6JournalRecordVersioned codec)}
    {snapshot : Stage6MixedReplaySnapshotV2 codec}
    {transition : Stage6JournalRecordV2 codec.toTransitionCodec} {recovered : Stage6RecoveredRequestV1}
    {suffix : List (Stage6JournalRecordV1 codec.toDurableRecordCodec)}
    {shape : Option Stage6DurablePlaceOrderShapeV1}
    (success : Stage6MixedReplayEngineV2.replay records = .ok snapshot)
    (last : records.getLast? = some (.v2 transition))
    (member : recovered ∈ snapshot.requests) (named : recovered.strategyRequestId = transition.requestId)
    (unresolved : Unresolved recovered) (noCancelOutcome : recovered.cancelOutcome = none)
    (reconstructed : reconstructStage8a4SuffixFromV2 transition = .ok (suffix, shape))
    (restores : ∀ record ∈ records, JournalFrames.Restores record)
    (collisionFree : IdsCollisionFree (records ++ suffix.map .v1)) {count : Nat} (within : count ≤ suffix.length) :
    ∃ resumed, Stage6MixedReplayEngineV2.replay (records ++ (suffix.take count).map .v1) = .ok resumed ∧
      ResumedTo resumed transition suffix count := by
  obtain ⟨cursor, ran, rfl⟩ := (mixedReplay_ok_iff ..).1 success
  have inRecords : .v2 transition ∈ records := List.mem_of_getLast? last
  have suffixOf := reconstruct_suffixOf (transition_decodes (restores _ inRecords)) reconstructed
  obtain ⟨batch, found, ofTransition⟩ :=
    (mixedRun_accounts ran _).of_transition (transition_mem_distinct restores inRecords)
  obtain ⟨request, stored, open_⟩ := Option.bind_eq_some_iff.1 found
  have isRecovered : recovered = request.v1.intoRecovered := by
    obtain ⟨other, isValue, rfl⟩ := List.mem_map.1 member
    obtain ⟨key, otherStored⟩ := mem_intoValues_iff.1 isValue
    have sameKey := ((mixedRun_positions ran key).1 other otherStored).named
    have isKey : other.v1.identity.strategyRequestId = transition.requestId := named
    rw [← sameKey, isKey, stored] at otherStored
    rw [Option.some.inj otherStored]
  subst isRecovered
  obtain ⟨attempted, noOrder, noTrades, unfinished⟩ := unresolved
  cases manifest : transition.manifestEntries with
  | nil =>
      have sameLength := suffixOf.named.length_eq
      rw [manifest, List.length_nil] at sameLength
      obtain rfl : suffix = [] := List.length_eq_zero_iff.1 sameLength.symm
      obtain rfl : count = 0 := by simpa using within
      have accounts := mixedRun_accounts ran transition.requestId.toText
      rw [found] at accounts
      obtain ⟨_, _, _, _, _, account⟩ := accounts
      have verified : VerifiedTo batch transition 0 := {
        ofTransition := ofTransition
        verified := by rw [account.verified, ofTransition, manifest, List.length_nil, Nat.min_zero]
        completion := by
          rw [account.completion, account.verified, ofTransition, manifest, List.length_nil, Nat.min_zero] }
      exact ⟨_, by simpa using success, verified.resumedTo suffixOf stored open_⟩
  | cons entry rest =>
      have suffixKind : isSuffixKind entry.eventKind = true := by
        obtain ⟨record, isRecord, matches_⟩ : ∃ record ∈ suffix,
            entry.matchesRecord codec.toTransitionCodec record = true := by
          have all := suffixOf.named
          rw [manifest] at all
          obtain ⟨record, tail, matches_, _, shape⟩ := List.forall₂_cons_left_iff.1 all
          exact ⟨record, by simp [shape], matches_⟩
        rw [matchesRecord_eventKind matches_]
        exact suffixOf.kinds record isRecord
      have isEntry : entry ∈ transition.manifestEntries.head? := by simp [manifest]
      obtain ⟨rfl, awaits⟩ := awaits_of_unresolved ran stored open_ ofTransition attempted noOrder
        (Std.ExtTreeMap.keys_eq_nil_iff.1 noTrades) noCancelOutcome unfinished isEntry suffixKind
      obtain ⟨next, resumed, extended, reaches, storedNext, openNext, verified, _⟩ :=
        mixedRun_resumes ran stored open_ awaits suffixOf collisionFree within
      exact ⟨_, (mixedReplay_ok_iff ..).2 ⟨next, reaches, rfl⟩, verified.resumedTo suffixOf storedNext openNext⟩

end Runs

section Samples

theorem v1_ofWire_self {codec : DurableRecordCodec} (record : Stage6JournalRecordV1 codec) :
    Stage6JournalRecordV1.ofWire record.toStage6JournalRecordWireV1 = .ok record := by
  unfold Stage6JournalRecordV1.ofWire
  split
  next error invalid => simp [record.valid] at invalid
  next => rfl

/-- The JSON reader finds the version of the encoding and gives the wire record back. -/
def ReadsBackV1 {codec : ReconciliationCodec} (record : Stage6JournalRecordV1 codec.toDurableRecordCodec) : Prop :=
  (probeSchemaVersion codec record.encodeCanonical).toOption = some 1 ∧
    codec.recordFromSlice record.encodeCanonical = some record.toStage6JournalRecordWireV1

instance {codec : ReconciliationCodec} (record : Stage6JournalRecordV1 codec.toDurableRecordCodec) :
    Decidable (ReadsBackV1 record) :=
  inferInstanceAs (Decidable (_ ∧ _))

theorem restores_v1 {codec : ReconciliationCodec} {record : Stage6JournalRecordV1 codec.toDurableRecordCodec}
    (readsBack : ReadsBackV1 record) :
    JournalFrames.Restores (.v1 record : Stage6JournalRecordVersioned codec) := by
  have probed := toOption_eq_some_iff.1 readsBack.1
  have decoded : Stage6JournalRecordV1.decodeCanonical codec.toDurableRecordCodec record.encodeCanonical = .ok record := by
    unfold Stage6JournalRecordV1.decodeCanonical
    rw [orReject_bind_of_some readsBack.2, v1_ofWire_self]
    exact check_bind_ok_iff.2 ⟨rejectIf_of_not _ (by simp), rfl⟩
  change Stage6JournalRecordVersioned.decodeCanonical codec record.encodeCanonical = _
  unfold Stage6JournalRecordVersioned.decodeCanonical
  rw [probed, decoded]
  rfl

theorem sampleTransition_restores {sample : SampleJournal}
    {transition : Stage6JournalRecordV2 sample.codec.toTransitionCodec}
    (reads : sample.readTransition = some transition)
    (probed : (probeSchemaVersion sample.codec (plainRecordV2 sample.transition)).toOption = some 2) :
    JournalFrames.Restores (.v2 transition : Stage6JournalRecordVersioned sample.codec) := by
  have built : Stage6JournalRecordV2.ofWire sample.transition = .ok transition := toOption_eq_some_iff.1 reads
  have sameWire : transition.toStage6JournalRecordWireV2 = sample.transition := by
    unfold Stage6JournalRecordV2.ofWire at built
    split at built
    · cases built
    · cases built
      rfl
  have encoded : transition.encodeCanonical = plainRecordV2 sample.transition := by
    rw [← sameWire]
    rfl
  have read : sample.codec.recordV2FromSlice (plainRecordV2 sample.transition) = some sample.transition :=
    if_pos rfl
  have decoded : Stage6JournalRecordV2.decodeCanonical sample.codec.toTransitionCodec
      (plainRecordV2 sample.transition) = .ok transition := by
    unfold Stage6JournalRecordV2.decodeCanonical
    rw [orReject_bind_of_some read, built]
    exact check_bind_ok_iff.2 ⟨rejectIf_of_not _ (by simp [encoded]), rfl⟩
  change Stage6JournalRecordVersioned.decodeCanonical sample.codec transition.encodeCanonical = _
  unfold Stage6JournalRecordVersioned.decodeCanonical
  rw [encoded, toOption_eq_some_iff.1 probed, decoded]
  rfl

structure ReadSample (sample : SampleJournal) (records : List (Stage6JournalRecordV1 sample.codec.toDurableRecordCodec))
    (transition : Stage6JournalRecordV2 sample.codec.toTransitionCodec) : Prop where
  isRecords : sample.readRecords = some records
  isTransition : sample.readTransition = some transition
  readsBack : ∀ record ∈ records, @ReadsBackV1 sample.codec record
  probed : (probeSchemaVersion sample.codec (plainRecordV2 sample.transition)).toOption = some 2

abbrev sampleJournal {codec : ReconciliationCodec} (records : List (Stage6JournalRecordV1 codec.toDurableRecordCodec))
    (transition : Stage6JournalRecordV2 codec.toTransitionCodec) : List (Stage6JournalRecordVersioned codec) :=
  records.map .v1 ++ [.v2 transition]

theorem ReadSample.restores {sample : SampleJournal}
    {records : List (Stage6JournalRecordV1 sample.codec.toDurableRecordCodec)}
    {transition : Stage6JournalRecordV2 sample.codec.toTransitionCodec} (read : ReadSample sample records transition) :
    ∀ record ∈ sampleJournal records transition, JournalFrames.Restores record := by
  intro record member
  rcases List.mem_append.1 member with isV1 | isLast
  · obtain ⟨v1, known, rfl⟩ := List.mem_map.1 isV1
    exact restores_v1 (read.readsBack v1 known)
  · obtain rfl := List.mem_singleton.1 isLast
    exact sampleTransition_restores read.isTransition read.probed

def evaluateSample {Result : Type} (source : Option SampleJournal)
    (evaluate : (sample : SampleJournal) → List (Stage6JournalRecordV1 sample.codec.toDurableRecordCodec) →
      Stage6JournalRecordV2 sample.codec.toTransitionCodec → Option Result) : Option Result := do
  let sample ← source
  let records ← sample.readRecords
  let transition ← sample.readTransition
  if (∀ record ∈ records, @ReadsBackV1 sample.codec record) ∧
      (probeSchemaVersion sample.codec (plainRecordV2 sample.transition)).toOption = some 2 then
    evaluate sample records transition
  else none

theorem evaluateSample_eq_some {Result : Type} {source : Option SampleJournal}
    {evaluate : (sample : SampleJournal) → List (Stage6JournalRecordV1 sample.codec.toDurableRecordCodec) →
      Stage6JournalRecordV2 sample.codec.toTransitionCodec → Option Result} {result : Result}
    (evaluated : evaluateSample source evaluate = some result) :
    ∃ sample records transition, source = some sample ∧ ReadSample sample records transition ∧
      evaluate sample records transition = some result := by
  obtain ⟨sample, isSample, evaluated⟩ := Option.bind_eq_some_iff.1 evaluated
  obtain ⟨records, reads, evaluated⟩ := Option.bind_eq_some_iff.1 evaluated
  obtain ⟨transition, readsTransition, evaluated⟩ := Option.bind_eq_some_iff.1 evaluated
  split at evaluated
  next checked =>
    exact ⟨sample, records, transition, isSample,
      { isRecords := reads, isTransition := readsTransition, readsBack := checked.1, probed := checked.2 }, evaluated⟩
  next => cases evaluated

/-- A place found rejected, with a crash behind the transition and again behind the first suffix record. -/
theorem reconstruction_completes_batch_rejected :
    ∃ sample records transition suffix shape resumed, interruptedPlace = some sample ∧
      ReadSample sample records transition ∧
        @reconstructStage8a4SuffixFromV2 sample.codec.toTransitionCodec transition = .ok (suffix, shape) ∧
          suffix.length = 2 ∧
            Stage6MixedReplayEngineV2.replay (sampleJournal records transition ++ (suffix.take 1).map .v1) =
              .ok resumed ∧ ResumedTo resumed transition suffix 1 := by
  have evaluated : (evaluateSample interruptedPlace fun sample records transition =>
      (Stage6MixedReplayEngineV2.replay (sampleJournal records transition)).toOption.bind fun snapshot =>
        snapshot.requests.head?.bind fun recovered =>
          (reconstructStage8a4SuffixFromV2 transition).toOption.map fun (suffix, _) =>
            decide (recovered.strategyRequestId = transition.requestId ∧ Unresolved recovered ∧
              recovered.cancelOutcome = none ∧ suffix.length = 2 ∧
                @IdsCollisionFree sample.codec (sampleJournal records transition ++ suffix.map .v1))) = some true := by
    decide +kernel
  obtain ⟨sample, records, transition, isSample, read, evaluated⟩ := evaluateSample_eq_some evaluated
  obtain ⟨snapshot, replays, evaluated⟩ := Option.bind_eq_some_iff.1 evaluated
  obtain ⟨recovered, isHead, evaluated⟩ := Option.bind_eq_some_iff.1 evaluated
  obtain ⟨⟨suffix, shape⟩, reconstructed, evaluated⟩ := Option.map_eq_some_iff.1 evaluated
  obtain ⟨named, unresolved, noCancelOutcome, two, collisionFree⟩ := of_decide_eq_true evaluated
  rw [toOption_eq_some_iff] at replays reconstructed
  obtain ⟨resumed, replaysMore, resumes⟩ := reconstruction_completes_batch replays (by simp)
    (List.mem_of_mem_head? isHead) named unresolved noCancelOutcome reconstructed read.restores collisionFree
    (by omega : 1 ≤ suffix.length)
  exact ⟨sample, records, transition, suffix, shape, resumed, isSample, read, reconstructed, two, replaysMore, resumes⟩

/-- A cancel whose outcome is already recorded: the suffix is reconstructed, and
the engine refuses its first record. -/
theorem repeated_cancel_outcome_is_refused :
    ∃ sample records transition snapshot recovered suffix shape, cancelObservedTwice = some sample ∧
      ReadSample sample records transition ∧
        Stage6MixedReplayEngineV2.replay (sampleJournal records transition) = .ok snapshot ∧
          recovered ∈ snapshot.requests ∧ recovered.strategyRequestId = transition.requestId ∧
            Unresolved recovered ∧
              @reconstructStage8a4SuffixFromV2 sample.codec.toTransitionCodec transition = .ok (suffix, shape) ∧
                suffix.length = 2 ∧
                  Stage6MixedReplayEngineV2.replay (sampleJournal records transition ++ (suffix.take 1).map .v1) =
                    .error (.replay .cancelOutcomeConflict) := by
  have evaluated : (evaluateSample cancelObservedTwice fun sample records transition =>
      (Stage6MixedReplayEngineV2.replay (sampleJournal records transition)).toOption.bind fun snapshot =>
        snapshot.requests.head?.bind fun recovered =>
          (reconstructStage8a4SuffixFromV2 transition).toOption.map fun (suffix, _) =>
            decide (recovered.strategyRequestId = transition.requestId ∧ Unresolved recovered ∧ suffix.length = 2) &&
              (match Stage6MixedReplayEngineV2.replay
                  (sampleJournal records transition ++ (suffix.take 1).map .v1) with
                | .ok _ => false
                | .error error => decide (error = .replay .cancelOutcomeConflict))) = some true := by
    decide +kernel
  obtain ⟨sample, records, transition, isSample, read, evaluated⟩ := evaluateSample_eq_some evaluated
  obtain ⟨snapshot, replays, evaluated⟩ := Option.bind_eq_some_iff.1 evaluated
  obtain ⟨recovered, isHead, evaluated⟩ := Option.bind_eq_some_iff.1 evaluated
  obtain ⟨⟨suffix, shape⟩, reconstructed, evaluated⟩ := Option.map_eq_some_iff.1 evaluated
  obtain ⟨holds, refused⟩ := Bool.and_eq_true_iff.1 evaluated
  obtain ⟨named, unresolved, two⟩ := of_decide_eq_true holds
  rw [toOption_eq_some_iff] at replays reconstructed
  refine ⟨sample, records, transition, snapshot, recovered, suffix, shape, isSample, read, replays,
    List.mem_of_mem_head? isHead, named, unresolved, reconstructed, two, ?_⟩
  split at refused
  next => cases refused
  next error failed => rw [failed, of_decide_eq_true refused]

end Samples

end TradingGateway.Stage6.SuffixReconstruction
