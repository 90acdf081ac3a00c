import TradingGateway.Stage6.PlainCodec

/-! Safety of crash replay: what one record can do to a working request, and
what a whole journal can therefore never do. -/

set_option autoImplicit false

namespace TradingGateway.Stage6.Replay

open BrokerCore.Identifiers DurableIdentity JournalRecord PlainCodec
open Foundation.ExceptRun Foundation.IdempotentLog Foundation.KeyedReplay Foundation.OrderedMap
open Foundation.Splits

def attemptOrdinal? (payload : Stage6JournalPayloadV1) : Option UInt32 :=
  match payload with
  | .dispatchAttemptRecorded attemptOrdinal _ => some attemptOrdinal
  | _ => none

/-- The events after which no dispatch attempt of the request may follow. -/
def closesDispatch (payload : Stage6JournalPayloadV1) : Bool :=
  match payload with
  | .brokerOrderObserved _ | .brokerTradeObserved _ _ | .reconciliationObserved (.brokerOrderFound _)
  | .cancelOutcomeObserved _ _ | .conflictObserved _ _ _ _ | .requestFinalized _ => true
  | _ => false

namespace WorkingRequest

theorem establishBrokerOrder_ok_iff {state updated : WorkingRequest} {brokerOrderId : BrokerOrderId} :
    state.establishBrokerOrder brokerOrderId = .ok updated ↔
      (∀ known ∈ state.knownBrokerOrderId, known = brokerOrderId) ∧
        updated = { state with knownBrokerOrderId := some brokerOrderId } := by
  unfold establishBrokerOrder
  rw [check_bind_ok_iff, rejectIf_ok_iff, Except.ok.injEq, @eq_comm _ _ updated]
  simp only [not_exists, not_and, ne_eq, not_not]

theorem recordTrade_ok {state updated : WorkingRequest} {brokerTradeId : BrokerTradeId}
    {brokerOrderId : BrokerOrderId} (success : state.recordTrade brokerTradeId brokerOrderId = .ok updated) :
    updated = { state with trades := updated.trades } := by
  unfold recordTrade at success
  split at success
  · split at success
    · cases success
    · cases success
      rfl
  · cases success
    rfl

inductive DispatchEffect (state : WorkingRequest) (payload : Stage6JournalPayloadV1)
    (updated : WorkingRequest) : Prop
  | attempted (attemptOrdinal : UInt32) (digest : Stage6Sha256Digest)
      (shape : payload = .dispatchAttemptRecorded attemptOrdinal digest)
      (next : attemptOrdinal = state.dispatchAttemptCount + 1)
      (ready : (state.dispatchSafetyState = .readyForFirstDispatch ∧ state.dispatchAttemptCount = 0) ∨
        (state.dispatchSafetyState = .retryEligibleSameIdentity ∧ state.identity.action = .place))
      (result : updated =
        { state with dispatchAttemptCount := attemptOrdinal, dispatchSafetyState := .reconciliationRequired })
  | retryAllowed (shape : payload = .reconciliationObserved .noBrokerOrderFound)
      (unresolved : state.dispatchSafetyState = .reconciliationRequired)
      (place : state.identity.action = .place)
      (result : updated = { state with dispatchSafetyState := .retryEligibleSameIdentity })
  | stillUnresolved (shape : payload = .reconciliationObserved .inconclusive)
      (unresolved : state.dispatchSafetyState = .reconciliationRequired) (result : updated = state)
  | closed (closes : closesDispatch payload = true)
      (forbidden : updated.dispatchSafetyState = .dispatchForbidden)
      (sameCount : updated.dispatchAttemptCount = state.dispatchAttemptCount)
      (sameIdentity : updated.identity = state.identity)

theorem authorizeAttempt_ok {state : WorkingRequest} {attemptOrdinal : UInt32}
    (authorized : state.authorizeAttempt attemptOrdinal = .ok ()) :
    (state.dispatchSafetyState = .readyForFirstDispatch ∧ state.dispatchAttemptCount = 0) ∨
      (state.dispatchSafetyState = .retryEligibleSameIdentity ∧ state.identity.action = .place) := by
  unfold authorizeAttempt at authorized
  cases safety : state.dispatchSafetyState with
  | readyForFirstDispatch =>
      simp only [safety, rejectIf_ok_iff, not_not] at authorized
      exact .inl ⟨rfl, authorized.1⟩
  | retryEligibleSameIdentity =>
      simp only [safety, rejectIf_ok_iff, ne_eq, not_not] at authorized
      exact .inr ⟨rfl, authorized⟩
  | reconciliationRequired => simp [safety] at authorized
  | dispatchForbidden => simp [safety] at authorized

theorem applyDispatchAttempt_effect {state updated : WorkingRequest} {attemptOrdinal : UInt32}
    {digest : Stage6Sha256Digest} (success : state.applyDispatchAttempt attemptOrdinal digest = .ok updated) :
    DispatchEffect state (.dispatchAttemptRecorded attemptOrdinal digest) updated := by
  unfold applyDispatchAttempt at success
  obtain ⟨accepted, success⟩ := check_bind_ok_iff.1 success
  obtain ⟨authorized, result⟩ := check_bind_ok_iff.1 success
  simp only [rejectIf_ok_iff, not_or, ne_eq, not_not] at accepted
  exact .attempted _ _ rfl accepted.2 (authorizeAttempt_ok authorized) (by simpa using result.symm)

theorem applyReconciliation_effect {state updated : WorkingRequest}
    {disposition : Stage6ReconciliationDispositionV1}
    (success : state.applyReconciliation disposition = .ok updated) :
    DispatchEffect state (.reconciliationObserved disposition) updated := by
  unfold applyReconciliation at success
  obtain ⟨_, success⟩ := check_bind_ok_iff.1 success
  cases disposition with
  | noBrokerOrderFound =>
      obtain ⟨place, success⟩ := check_bind_ok_iff.1 success
      obtain ⟨unresolved, result⟩ := check_bind_ok_iff.1 success
      simp only [rejectIf_ok_iff, not_or, ne_eq, not_not] at place unresolved
      exact .retryAllowed rfl unresolved.1 place (by simpa using result.symm)
  | brokerOrderFound brokerOrderId =>
      obtain ⟨_, success⟩ := check_bind_ok_iff.1 success
      obtain ⟨established, establishes, result⟩ := bind_ok_iff.1 success
      obtain ⟨_, rfl⟩ := establishBrokerOrder_ok_iff.1 establishes
      cases result
      exact .closed rfl rfl rfl rfl
  | inconclusive =>
      obtain ⟨unresolved, result⟩ := check_bind_ok_iff.1 success
      simp only [rejectIf_ok_iff, not_or, ne_eq, not_not] at unresolved
      exact .stillUnresolved rfl unresolved.1 (by simpa using result.symm)

/-- Every payload a request accepts has one of the four effects. -/
theorem applyPayload_effect {state updated : WorkingRequest} {payload : Stage6JournalPayloadV1}
    (success : state.applyPayload payload = .ok updated) : DispatchEffect state payload updated := by
  cases payload with
  | requestAccepted command => cases success
  | dispatchAttemptRecorded attemptOrdinal digest => exact applyDispatchAttempt_effect success
  | brokerOrderObserved brokerOrderId =>
      obtain ⟨_, success⟩ := check_bind_ok_iff.1 success
      obtain ⟨established, establishes, result⟩ := bind_ok_iff.1 success
      obtain ⟨_, rfl⟩ := establishBrokerOrder_ok_iff.1 establishes
      cases result
      exact .closed rfl rfl rfl rfl
  | brokerTradeObserved brokerTradeId brokerOrderId =>
      obtain ⟨_, success⟩ := check_bind_ok_iff.1 success
      obtain ⟨traded, trades, success⟩ := bind_ok_iff.1 success
      obtain ⟨established, establishes, result⟩ := bind_ok_iff.1 success
      obtain ⟨_, rfl⟩ := establishBrokerOrder_ok_iff.1 establishes
      rw [recordTrade_ok trades] at result
      cases result
      exact .closed rfl rfl rfl rfl
  | reconciliationObserved disposition => exact applyReconciliation_effect success
  | cancelOutcomeObserved targetBrokerOrderId outcome =>
      obtain ⟨_, success⟩ := check_bind_ok_iff.1 success
      obtain ⟨_, success⟩ := check_bind_ok_iff.1 success
      obtain ⟨_, result⟩ := check_bind_ok_iff.1 success
      cases result
      exact .closed rfl rfl rfl rfl
  | requestFinalized disposition =>
      cases success
      exact .closed rfl rfl rfl rfl
  | conflictObserved kind conflicting expected observed =>
      cases success
      exact .closed rfl rfl rfl rfl
  | marker => cases success

theorem DispatchEffect.identity_eq {state updated : WorkingRequest} {payload : Stage6JournalPayloadV1}
    (effect : DispatchEffect state payload updated) : updated.identity = state.identity := by
  cases effect with
  | attempted _ _ _ _ _ result => rw [result]
  | retryAllowed _ _ _ result => rw [result]
  | stillUnresolved _ _ result => rw [result]
  | closed _ _ _ sameIdentity => exact sameIdentity

@[simp] theorem advanceTo_identity (state : WorkingRequest) (sequence : Stage6LifecycleSequence)
    (recordId : Stage6JournalRecordId) : (state.advanceTo sequence recordId).identity = state.identity := rfl

@[simp] theorem advanceTo_dispatchSafetyState (state : WorkingRequest) (sequence : Stage6LifecycleSequence)
    (recordId : Stage6JournalRecordId) :
    (state.advanceTo sequence recordId).dispatchSafetyState = state.dispatchSafetyState := rfl

@[simp] theorem advanceTo_dispatchAttemptCount (state : WorkingRequest) (sequence : Stage6LifecycleSequence)
    (recordId : Stage6JournalRecordId) :
    (state.advanceTo sequence recordId).dispatchAttemptCount = state.dispatchAttemptCount := rfl

theorem validateIdentity_ok_iff {state : WorkingRequest} {observed : Stage6DurableRequestIdentityV1} :
    state.validateIdentity observed = .ok () ↔ state.identity = observed := by
  constructor
  · intro success
    obtain ⟨_, same⟩ := check_bind_ok_iff.1 success
    simpa using same
  · rintro rfl
    simp [validateIdentity]

/-- The causal checks in full. -/
theorem checkCausalLink_ok_iff {state : WorkingRequest} {identity : Stage6DurableRequestIdentityV1}
    {sequence : Stage6LifecycleSequence} {previousRecordId : Option Stage6JournalRecordId} :
    state.checkCausalLink identity sequence previousRecordId = .ok () ↔
      state.identity = identity ∧ state.finalDisposition = none ∧
        sequence.value = state.lastSequence + 1 ∧ previousRecordId = some state.lastRecordId := by
  simp [checkCausalLink, validateIdentity_ok_iff]

section Records

variable {codec : DurableRecordCodec}

/-- An applied record passes the causal checks and its payload's effect. -/
theorem apply_ok_iff {state updated : WorkingRequest} {record : Stage6JournalRecordV1 codec} :
    state.apply record = .ok updated ↔
      state.checkCausalLink record.durableRequestIdentity record.lifecycleSequence record.previousRecordId =
          .ok () ∧
        actionAllowsPayload state.identity.action record.payload = true ∧
          ∃ middle, state.applyPayload record.payload = .ok middle ∧
            updated = middle.advanceTo record.lifecycleSequence record.journalRecordId := by
  unfold apply validateEventForAction
  rw [check_bind_ok_iff, check_bind_ok_iff, bind_ok_iff, rejectIf_ok_iff, Bool.not_eq_false]
  simp only [Except.ok.injEq, @eq_comm _ _ updated]

theorem fromFirst_ok_iff {record : Stage6JournalRecordV1 codec} {state : WorkingRequest} :
    fromFirst record = .ok state ↔
      (record.eventKind = .requestAccepted ∧ record.lifecycleSequence.value = 1 ∧
        record.previousRecordId = none) ∧
        state = {
          identity := record.durableRequestIdentity
          acceptedPayloadSha256 := record.canonicalPayloadSha256
          lastSequence := 1
          lastRecordId := record.journalRecordId
          dispatchSafetyState := .readyForFirstDispatch
          dispatchAttemptCount := 0
          knownBrokerOrderId := none
          trades := ∅
          cancelOutcome := none
          finalDisposition := none
          conflictObserved := false } := by
  unfold fromFirst
  rw [check_bind_ok_iff, rejectIf_ok_iff, Except.ok.injEq, @eq_comm _ _ state]
  simp only [not_or, ne_eq, not_not]

end Records

end WorkingRequest

section Dispatch

variable {codec : DurableRecordCodec}

def attemptOrdinals (history : List (Stage6JournalRecordV1 codec)) : List Nat :=
  history.filterMap fun record => (attemptOrdinal? record.payload).map UInt32.toNat

/-- No attempt is blind: attempts are numbered from one, a reconciliation that
found no broker order stands between any two of them, none follows an event that
closes dispatch, and a cancel is attempted at most once. -/
structure NoBlindRedispatch (history : List (Stage6JournalRecordV1 codec)) : Prop where
  numbered : attemptOrdinals history = List.range' 1 (attemptOrdinals history).length
  reconciled : ∀ front first middle second back, history = front ++ first :: (middle ++ second :: back) →
    (attemptOrdinal? first.payload).isSome → (attemptOrdinal? second.payload).isSome →
      ∃ record ∈ middle, record.payload = .reconciliationObserved .noBrokerOrderFound
  closed : ∀ front closing back, history = front ++ closing :: back →
    closesDispatch closing.payload = true → ∀ later ∈ back, attemptOrdinal? later.payload = none
  cancelOnce : (∃ record ∈ history, record.durableRequestIdentity.action = .cancel) →
    (attemptOrdinals history).length ≤ 1

structure DispatchInvariant (history : List (Stage6JournalRecordV1 codec)) (state : WorkingRequest) :
    Prop extends NoBlindRedispatch history where
  nonempty : history ≠ []
  identity : ∀ record ∈ history, record.durableRequestIdentity = state.identity
  count : (attemptOrdinals history).length = state.dispatchAttemptCount.toNat
  forbidden : (∃ record ∈ history, closesDispatch record.payload = true) →
    state.dispatchSafetyState = .dispatchForbidden
  retry : state.dispatchSafetyState = .retryEligibleSameIdentity →
    state.identity.action = .place ∧ ∃ front reconciliation back,
      history = front ++ reconciliation :: back ∧
        reconciliation.payload = .reconciliationObserved .noBrokerOrderFound ∧
          ∀ later ∈ back, attemptOrdinal? later.payload = none

theorem attemptOrdinals_append_singleton (history : List (Stage6JournalRecordV1 codec))
    (record : Stage6JournalRecordV1 codec) :
    attemptOrdinals (history ++ [record]) =
      attemptOrdinals history ++ ((attemptOrdinal? record.payload).map UInt32.toNat).toList := by
  unfold attemptOrdinals
  rw [List.filterMap_append]
  cases ordinal : attemptOrdinal? record.payload <;> simp [ordinal]

theorem attemptOrdinals_eq_nil_iff {history : List (Stage6JournalRecordV1 codec)} :
    attemptOrdinals history = [] ↔ ∀ record ∈ history, attemptOrdinal? record.payload = none := by
  simp [attemptOrdinals, List.filterMap_eq_nil_iff]

theorem closesDispatch_not_attempt {payload : Stage6JournalPayloadV1}
    (closes : closesDispatch payload = true) : attemptOrdinal? payload = none := by
  cases payload <;> simp_all [closesDispatch, attemptOrdinal?]

private theorem toNat_succ_of_ne_zero {count : UInt32} (nonzero : count + 1 ≠ 0) :
    (count + 1).toNat = count.toNat + 1 := by
  have bound := count.toNat_lt
  have positive : (count + 1).toNat ≠ 0 := fun zero => nonzero (UInt32.toNat_inj.1 zero)
  rw [UInt32.toNat_add] at positive ⊢
  simp only [UInt32.toNat_one] at positive ⊢
  omega

/-- An attempt that leaves a ready or retry-eligible state keeps the invariant. -/
private theorem NoBlindRedispatch.append_attempt {history : List (Stage6JournalRecordV1 codec)}
    {state : WorkingRequest} {record : Stage6JournalRecordV1 codec} {attemptOrdinal : UInt32}
    (holds : DispatchInvariant history state) (isAttempt : attemptOrdinal? record.payload = some attemptOrdinal)
    (number : attemptOrdinal.toNat = state.dispatchAttemptCount.toNat + 1)
    (sameIdentity : record.durableRequestIdentity = state.identity)
    (ready : (state.dispatchSafetyState = .readyForFirstDispatch ∧ state.dispatchAttemptCount = 0) ∨
      (state.dispatchSafetyState = .retryEligibleSameIdentity ∧ state.identity.action = .place)) :
    NoBlindRedispatch (history ++ [record]) := by
  have open_ : ∀ earlier ∈ history, closesDispatch earlier.payload ≠ true := by
    intro earlier member closes
    have forbidden := holds.forbidden ⟨earlier, member, closes⟩
    rcases ready with ⟨safety, _⟩ | ⟨safety, _⟩ <;> simp [forbidden] at safety
  have grown : attemptOrdinals (history ++ [record]) =
      attemptOrdinals history ++ [state.dispatchAttemptCount.toNat + 1] := by
    rw [attemptOrdinals_append_singleton, isAttempt]
    simp [number]
  refine { numbered := ?_, reconciled := ?_, closed := ?_, cancelOnce := ?_ }
  · rw [grown, List.length_append, List.length_singleton, holds.count, List.range'_1_concat, ← holds.count,
      ← holds.numbered, holds.count, Nat.add_comm 1]
  · intro front first middle second back split firstAttempt secondAttempt
    have regrouped : history ++ [record] = (front ++ first :: middle) ++ second :: back := by
      simpa using split
    rcases split_append_singleton regrouped with ⟨earlier, rfl, rfl⟩ | ⟨rest, _, earlier⟩
    · rcases ready with ⟨_, none⟩ | ⟨safety, _⟩
      · have noAttempt : attemptOrdinals history = [] := by
          rw [← List.length_eq_zero_iff, holds.count, none]
          rfl
        have absent := attemptOrdinals_eq_nil_iff.1 noAttempt first (by simp [← earlier])
        simp [absent] at firstAttempt
      · obtain ⟨_, front', reconciliation, back', shape, found, quiet⟩ := holds.retry safety
        rcases split_positions (earlier.trans shape) with ⟨rfl, _, _⟩ | ⟨between, middleShape, _⟩ | ⟨between, backShape, _⟩
        · simp [found, attemptOrdinal?] at firstAttempt
        · exact ⟨reconciliation, by simp [middleShape], found⟩
        · have absent := quiet first (by simp [backShape])
          simp [absent] at firstAttempt
    · exact holds.reconciled front first middle second rest (by simpa using earlier) firstAttempt secondAttempt
  · intro front closing back split closes later laterMember
    rcases split_append_singleton split with ⟨rfl, rfl, rfl⟩ | ⟨rest, rfl, earlier⟩
    · simp at laterMember
    · exact absurd closes (open_ closing (by simp [earlier]))
  · rintro ⟨earlier, member, isCancel⟩
    have actions : state.identity.action = .cancel := by
      rcases List.mem_append.1 member with old | new
      · rw [← holds.identity earlier old]
        exact isCancel
      · have same : earlier = record := by simpa using new
        rw [← sameIdentity, ← same]
        exact isCancel
    rcases ready with ⟨_, none⟩ | ⟨_, place⟩
    · rw [grown, List.length_append, holds.count, none]
      decide
    · simp [place] at actions

/-- A record that is no attempt keeps the history free of blind attempts. -/
private theorem NoBlindRedispatch.append_other {history : List (Stage6JournalRecordV1 codec)}
    {state : WorkingRequest} {record : Stage6JournalRecordV1 codec}
    (holds : DispatchInvariant history state) (notAttempt : attemptOrdinal? record.payload = none)
    (sameIdentity : record.durableRequestIdentity = state.identity) :
    NoBlindRedispatch (history ++ [record]) := by
  have kept : attemptOrdinals (history ++ [record]) = attemptOrdinals history := by
    simp [attemptOrdinals_append_singleton, notAttempt]
  refine { numbered := ?_, reconciled := ?_, closed := ?_, cancelOnce := ?_ }
  · rw [kept]
    exact holds.numbered
  · intro front first middle second back split firstAttempt secondAttempt
    have regrouped : history ++ [record] = (front ++ first :: middle) ++ second :: back := by
      simpa using split
    rcases split_append_singleton regrouped with ⟨_, rfl, _⟩ | ⟨rest, _, earlier⟩
    · simp [notAttempt] at secondAttempt
    · exact holds.reconciled front first middle second rest (by simpa using earlier) firstAttempt secondAttempt
  · intro front closing back split closes later laterMember
    rcases split_append_singleton split with ⟨_, _, rfl⟩ | ⟨rest, rfl, earlier⟩
    · simp at laterMember
    · rcases List.mem_append.1 laterMember with old | new
      · exact holds.closed front closing rest earlier closes later old
      · have same : later = record := by simpa using new
        exact same ▸ notAttempt
  · rintro ⟨earlier, member, isCancel⟩
    rw [kept]
    obtain ⟨first, rest, shape⟩ := List.exists_cons_of_ne_nil holds.nonempty
    have firstMember : first ∈ history := by simp [shape]
    refine holds.cancelOnce ⟨first, firstMember, ?_⟩
    rw [holds.identity first firstMember]
    rcases List.mem_append.1 member with old | new
    · rw [← holds.identity earlier old]
      exact isCancel
    · have same : earlier = record := by simpa using new
      rw [← sameIdentity, ← same]
      exact isCancel

/-- The step lemma: every applied record keeps the invariant. -/
theorem DispatchInvariant.apply {history : List (Stage6JournalRecordV1 codec)} {state updated : WorkingRequest}
    {record : Stage6JournalRecordV1 codec} (holds : DispatchInvariant history state)
    (success : state.apply record = .ok updated) : DispatchInvariant (history ++ [record]) updated := by
  obtain ⟨linked, _, middle, applied, rfl⟩ := WorkingRequest.apply_ok_iff.1 success
  have sameIdentity : record.durableRequestIdentity = state.identity :=
    (WorkingRequest.checkCausalLink_ok_iff.1 linked).1.symm
  have effect := WorkingRequest.applyPayload_effect applied
  have identities : ∀ earlier ∈ history ++ [record],
      earlier.durableRequestIdentity = middle.identity := by
    rw [effect.identity_eq]
    intro earlier member
    rcases List.mem_append.1 member with old | new
    · exact holds.identity earlier old
    · have same : earlier = record := by simpa using new
      exact same ▸ sameIdentity
  have closes_append : closesDispatch record.payload = false →
      (∃ earlier ∈ history ++ [record], closesDispatch earlier.payload = true) →
        state.dispatchSafetyState = .dispatchForbidden := by
    rintro open_ ⟨earlier, member, closes⟩
    rcases List.mem_append.1 member with old | new
    · exact holds.forbidden ⟨earlier, old, closes⟩
    · have same : earlier = record := by simpa using new
      rw [same, open_] at closes
      cases closes
  cases effect with
  | attempted attemptOrdinal digest shape next ready result =>
      have isAttempt : attemptOrdinal? record.payload = some attemptOrdinal := by rw [shape]; rfl
      have nonzero : attemptOrdinal ≠ 0 := record.facts.attemptNonzero attemptOrdinal digest shape
      -- The ordinal is not zero, so the 32-bit successor did not wrap.
      have number : attemptOrdinal.toNat = state.dispatchAttemptCount.toNat + 1 := by
        rw [next] at nonzero ⊢
        exact toNat_succ_of_ne_zero nonzero
      subst result
      exact {
        toNoBlindRedispatch := .append_attempt holds isAttempt number sameIdentity ready
        nonempty := by simp
        identity := identities
        count := by
          rw [attemptOrdinals_append_singleton, isAttempt]
          simp [holds.count, number]
        forbidden := by
          intro closing
          have safety := closes_append (by rw [shape]; rfl) closing
          rcases ready with ⟨other, _⟩ | ⟨other, _⟩ <;> simp [safety] at other
        retry := by simp }
  | retryAllowed shape unresolved place result =>
      subst result
      have notAttempt : attemptOrdinal? record.payload = none := by rw [shape]; rfl
      exact {
        toNoBlindRedispatch := .append_other holds notAttempt sameIdentity
        nonempty := by simp
        identity := identities
        count := by simp [attemptOrdinals_append_singleton, notAttempt, holds.count]
        forbidden := by
          intro closing
          have safety := closes_append (by rw [shape]; rfl) closing
          simp [unresolved] at safety
        retry := fun _ => ⟨place, history, record, [], rfl, shape, by simp⟩ }
  | stillUnresolved shape unresolved result =>
      subst result
      have notAttempt : attemptOrdinal? record.payload = none := by rw [shape]; rfl
      exact {
        toNoBlindRedispatch := .append_other holds notAttempt sameIdentity
        nonempty := by simp
        identity := identities
        count := by simp [attemptOrdinals_append_singleton, notAttempt, holds.count]
        forbidden := closes_append (by rw [shape]; rfl)
        retry := by
          intro safety
          obtain ⟨place, front, reconciliation, back, split, found, quiet⟩ := holds.retry safety
          refine ⟨place, front, reconciliation, back ++ [record], by simp [split], found, ?_⟩
          intro later member
          rcases List.mem_append.1 member with old | new
          · exact quiet later old
          · have same : later = record := by simpa using new
            exact same ▸ notAttempt }
  | closed closes forbidden sameCount _ =>
      have notAttempt := closesDispatch_not_attempt closes
      exact {
        toNoBlindRedispatch := .append_other holds notAttempt sameIdentity
        nonempty := by simp
        identity := identities
        count := by simp [attemptOrdinals_append_singleton, notAttempt, holds.count, sameCount]
        forbidden := fun _ => forbidden
        retry := by
          intro safety
          simp [forbidden] at safety }

theorem DispatchInvariant.fromFirst {record : Stage6JournalRecordV1 codec} {state : WorkingRequest}
    (success : WorkingRequest.fromFirst record = .ok state) : DispatchInvariant [record] state := by
  obtain ⟨⟨kind, _, _⟩, rfl⟩ := WorkingRequest.fromFirst_ok_iff.1 success
  have shape : ∃ command, record.payload = .requestAccepted command := by
    have matched := record.facts.eventMatches
    rw [kind] at matched
    cases payload : record.payload with
    | requestAccepted command => exact ⟨command, rfl⟩
    | _ => simp [payload, eventMatchesPayload] at matched
  obtain ⟨command, shape⟩ := shape
  have notAttempt : attemptOrdinal? record.payload = none := by rw [shape]; rfl
  have none : attemptOrdinals [record] = [] := by simp [attemptOrdinals, notAttempt]
  exact {
    numbered := by simp [none]
    reconciled := by
      intro front first middle second back split
      have lengths := congrArg List.length split
      simp only [List.length_cons, List.length_nil, List.length_append] at lengths
      omega
    closed := by
      intro front closing back split closes
      obtain ⟨rfl, rfl, rfl⟩ : front = [] ∧ closing = record ∧ back = [] := by
        cases front with
        | nil => simpa [eq_comm] using split
        | cons head rest => simp at split
      simp [shape, closesDispatch] at closes
    cancelOnce := by simp [none]
    nonempty := by simp
    identity := by simp
    count := by simp [none]
    forbidden := by
      rintro ⟨earlier, member, closes⟩
      obtain rfl : earlier = record := by simpa using member
      simp [shape, closesDispatch] at closes
    retry := by simp }

end Dispatch

section Engine

variable {codec : DurableRecordCodec}

def replayLog (codec : DurableRecordCodec) :
    KeyedLog (Stage6JournalRecordV1 codec) HexText (List UInt8) (List Char) WorkingRequest Stage6ReplayError where
  first := WorkingRequest.fromFirst
  apply := WorkingRequest.apply
  key := fun record => record.journalRecordId.value
  code := Stage6JournalRecordV1.encodeCanonical
  parent := fun record => record.causalParentId.map Stage6JournalRecordId.value
  route := requestKey
  conflict := .conflictingReplay
  orphan := .causalParentMissing

/-- The loop body of the engine is the step of its log. -/
theorem replayStep_eq (cursor : ReplayCursor) (record : Stage6JournalRecordV1 codec) :
    replayStep cursor record = (replayLog codec).toLog.step cursor record := by
  have sameGuard : (∃ parent ∈ record.causalParentId, parent.value ∉ cursor.seen) ↔
      ∃ parent ∈ (replayLog codec).parent record, parent ∉ cursor.seen := by
    simp [replayLog]
  unfold replayStep Log.step
  cases found : cursor.seen[record.journalRecordId.value]? with
  | some previous =>
      have known : cursor.seen[(replayLog codec).toLog.key record]? = some previous := found
      simp only [found, known]
      rfl
  | none =>
      have fresh : cursor.seen[(replayLog codec).toLog.key record]? = none := found
      simp only [found, fresh]
      rw [rejectIf_congr _ sameGuard]
      cases current : cursor.state[requestKey record]? with
      | none =>
          have route : cursor.state[(replayLog codec).route record]? = none := current
          simp only [KeyedLog.toLog, KeyedLog.update, Machine.advance, route]
          simp only [replayLog, bind_assoc, ok_bind]
      | some state =>
          have route : cursor.state[(replayLog codec).route record]? = some state := current
          simp only [KeyedLog.toLog, KeyedLog.update, Machine.advance, route]
          simp only [replayLog, bind_assoc, ok_bind]

/-- The journal without exact copies: of the records with one id and one
canonical encoding, the first. -/
def dropExactCopies (records : List (Stage6JournalRecordV1 codec)) : List (Stage6JournalRecordV1 codec) :=
  (replayLog codec).toLog.distinct records

/-- The records of one request after dropping exact copies, in journal order. -/
def admittedRecords (records : List (Stage6JournalRecordV1 codec)) (request : StrategyRequestId) :
    List (Stage6JournalRecordV1 codec) :=
  (dropExactCopies records).filter fun record => record.durableRequestIdentity.strategyRequestId = request

/-- The machine of one request sees exactly the admitted records of that request. -/
theorem admittedRecords_eq_history (records : List (Stage6JournalRecordV1 codec)) (request : StrategyRequestId) :
    admittedRecords records request = (replayLog codec).history request.toText records := by
  unfold admittedRecords dropExactCopies KeyedLog.history
  congr 1
  funext record
  simp [replayLog, requestKey, StrategyRequestId.toText_injective.eq_iff]

/-- The engine is a run of its log, and the snapshot of where it ends. -/
theorem replay_eq_run (codec : ReplayCodec) (records : List (Stage6JournalRecordV1 codec.toDurableRecordCodec)) :
    Stage6ReplayEngineV1.replay codec records =
      (replayLog codec.toDurableRecordCodec).toLog.run ∅ records >>= fun cursor =>
        .ok (Stage6ReplaySnapshotV1.fromRecoveredRequests codec
          ((intoValues cursor.state).map WorkingRequest.intoRecovered)) := by
  have loop : (replayStep : ReplayCursor → Stage6JournalRecordV1 codec.toDurableRecordCodec → _) =
      (replayLog codec.toDurableRecordCodec).toLog.step := by
    funext cursor record
    exact replayStep_eq cursor record
  unfold Stage6ReplayEngineV1.replay Log.run
  rw [loop]

/-- What a successful replay leaves behind, request by request. -/
theorem replay_ok_iff (codec : ReplayCodec) (records : List (Stage6JournalRecordV1 codec.toDurableRecordCodec))
    (snapshot : Stage6ReplaySnapshotV1) :
    Stage6ReplayEngineV1.replay codec records = .ok snapshot ↔
      ∃ cursor, (replayLog codec.toDurableRecordCodec).toLog.run ∅ records = .ok cursor ∧
        snapshot = Stage6ReplaySnapshotV1.fromRecoveredRequests codec
          ((intoValues cursor.state).map WorkingRequest.intoRecovered) := by
  rw [replay_eq_run, bind_ok_iff]
  simp only [Except.ok.injEq, @eq_comm _ _ snapshot]

/-- The run lemma of one request key: its admitted records and its machine keep the invariant. -/
theorem machine_invariant {records : List (Stage6JournalRecordV1 codec)} {cursor : ReplayCursor}
    (success : (replayLog codec).toLog.run ∅ records = .ok cursor) (key : List Char) :
    ((replayLog codec).history key records = [] ∧ cursor.state[key]? = none) ∨
      ∃ state, cursor.state[key]? = some state ∧
        DispatchInvariant ((replayLog codec).history key records) state := by
  have routed := (((replayLog codec).run_ok_iff records cursor.state).1 ⟨cursor.seen, success⟩).2.2 key
  exact (replayLog codec).toMachine.run_induction DispatchInvariant
    (fun record state created => DispatchInvariant.fromFirst created)
    (fun history state record updated holds applied => holds.apply applied) routed

theorem state_named {records : List (Stage6JournalRecordV1 codec)} {cursor : ReplayCursor}
    (success : (replayLog codec).toLog.run ∅ records = .ok cursor) {key : List Char} {state : WorkingRequest}
    (stored : cursor.state[key]? = some state) : state.identity.strategyRequestId.toText = key := by
  rcases machine_invariant success key with ⟨_, absent⟩ | ⟨other, found, holds⟩
  · simp [absent] at stored
  · obtain rfl : state = other := Option.some.inj (stored.symm.trans found)
    obtain ⟨first, rest, shape⟩ := List.exists_cons_of_ne_nil holds.nonempty
    have member : first ∈ (replayLog codec).history key records := by simp [shape]
    have routed : requestKey first = key := of_decide_eq_true (List.mem_filter.1 member).2
    rw [← holds.identity first member]
    exact routed

/-- Looking a request up in the snapshot is looking its machine up. -/
theorem snapshot_request {codec : ReplayCodec}
    {records : List (Stage6JournalRecordV1 codec.toDurableRecordCodec)} {cursor : ReplayCursor}
    (success : (replayLog codec.toDurableRecordCodec).toLog.run ∅ records = .ok cursor)
    (request : StrategyRequestId) :
    (Stage6ReplaySnapshotV1.fromRecoveredRequests codec
      ((intoValues cursor.state).map WorkingRequest.intoRecovered)).request request =
        cursor.state[request.toText]?.map WorkingRequest.intoRecovered := by
  rw [← find?_intoValues (fun state => state.identity.strategyRequestId.toText)
    (fun key state stored => state_named success stored)]
  unfold Stage6ReplaySnapshotV1.request Stage6ReplaySnapshotV1.fromRecoveredRequests
  rw [List.find?_map]
  congr 2
  funext state
  exact decide_eq_decide.2 StrategyRequestId.toText_injective.eq_iff.symm

/-- In every journal that replays, no dispatch attempt of any request is blind,
and the recovered attempt count is the number of its attempts. -/
theorem replay_never_redispatches_blindly {codec : ReplayCodec}
    {records : List (Stage6JournalRecordV1 codec.toDurableRecordCodec)} {snapshot : Stage6ReplaySnapshotV1}
    (success : Stage6ReplayEngineV1.replay codec records = .ok snapshot)
    {record : Stage6JournalRecordV1 codec.toDurableRecordCodec} (member : record ∈ dropExactCopies records) :
    NoBlindRedispatch (admittedRecords records record.durableRequestIdentity.strategyRequestId) ∧
      ∃ recovered, snapshot.request record.durableRequestIdentity.strategyRequestId = some recovered ∧
        recovered.dispatchAttemptCount.toNat =
          (attemptOrdinals (admittedRecords records record.durableRequestIdentity.strategyRequestId)).length := by
  obtain ⟨cursor, ran, rfl⟩ := (replay_ok_iff codec records snapshot).1 success
  have admitted : record ∈ admittedRecords records record.durableRequestIdentity.strategyRequestId :=
    List.mem_filter.2 ⟨member, by simp⟩
  rw [admittedRecords_eq_history] at admitted ⊢
  rw [snapshot_request ran]
  rcases machine_invariant ran record.durableRequestIdentity.strategyRequestId.toText with
    ⟨none, _⟩ | ⟨state, stored, holds⟩
  · simp [none] at admitted
  · exact ⟨holds.toNoBlindRedispatch, state.intoRecovered, by simp [stored], holds.count.symm⟩

end Engine

section Sample

/-- A place request that is sent, found missing at the broker, sent again under
the same identity and then observed; its acceptance is delivered twice. -/
def retriedPlaceJournal : Option (List (Stage6JournalRecordV1 plainCodec.toDurableRecordCodec)) := do
  let command := samplePlaceOrder 1
  let attribution ← sampleAttribution "ENTRY"
  let identity ← (Stage6DurableRequestIdentityV1.fromPlace command attribution).toOption
  let snapshot ← (Stage6DurableCommandSnapshotV1.fromPlace identity command).toOption
  let orderId ← BrokerOrderId.fromBrokerNativeExact "B-1"
  let evidence := Stage6Sha256Digest.of plainCodec.toDurableRecordCodec [1]
  let accepted ← (Stage6JournalRecordV1.requestAccepted identity snapshot (sampleSequence 0) none none
    evidence).toOption
  let first ← (Stage6JournalRecordV1.dispatchAttemptRecorded identity 1 accepted.canonicalPayloadSha256
    (sampleSequence 1) (some accepted.journalRecordId) evidence).toOption
  let missing ← (Stage6JournalRecordV1.reconciliationObserved identity .noBrokerOrderFound (sampleSequence 2)
    (some first.journalRecordId) evidence).toOption
  let second ← (Stage6JournalRecordV1.dispatchAttemptRecorded identity 2 accepted.canonicalPayloadSha256
    (sampleSequence 3) (some missing.journalRecordId) evidence).toOption
  let observed ← (Stage6JournalRecordV1.brokerOrderObserved identity orderId (sampleSequence 4)
    (some second.journalRecordId) evidence).toOption
  some [accepted, first, accepted, missing, second, observed]

theorem replay_never_redispatches_blindly_retried :
    ∃ records snapshot record, retriedPlaceJournal = some records ∧
      Stage6ReplayEngineV1.replay plainCodec records = .ok snapshot ∧ record ∈ dropExactCopies records ∧
        NoBlindRedispatch (admittedRecords records record.durableRequestIdentity.strategyRequestId) ∧
          ∃ recovered, snapshot.request record.durableRequestIdentity.strategyRequestId = some recovered ∧
            recovered.dispatchAttemptCount.toNat = (attemptOrdinals
              (admittedRecords records record.durableRequestIdentity.strategyRequestId)).length := by
  have evaluated : (retriedPlaceJournal.map fun records =>
      (Stage6ReplayEngineV1.replay plainCodec records).isOk && !(dropExactCopies records).isEmpty) =
        some true := by
    decide +kernel
  obtain ⟨records, journal, facts⟩ := Option.map_eq_some_iff.1 evaluated
  simp only [Bool.and_eq_true, Bool.not_eq_true', List.isEmpty_eq_false_iff_exists_mem] at facts
  obtain ⟨replays, record, member⟩ := facts
  obtain ⟨snapshot, success⟩ := exists_ok_of_isOk replays
  exact ⟨records, snapshot, record, journal, success, member,
    replay_never_redispatches_blindly success member⟩

end Sample

end TradingGateway.Stage6.Replay
