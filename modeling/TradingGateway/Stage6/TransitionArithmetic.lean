import TradingGateway.BrokerCore.DecimalArithmetic
import TradingGateway.Stage6.PlainReconciliationCodec

/-! Where the check of a reconciliation transition adds quantities, and which
transitions make such an addition abort. -/

set_option autoImplicit false

namespace TradingGateway.Stage6.ReconciliationV2

open BrokerCore.FixedPoint DurableIdentity JournalRecord
open Foundation.ExceptRun

section Additions

variable {codec : TransitionCodec} {identity : Stage6DurableRequestIdentityV1}

def Stage6BrokerOrderFactV2.ReachesAddition (order : Stage6BrokerOrderFactV2)
    (identity : Stage6DurableRequestIdentityV1) : Prop :=
  order.accountId = identity.accountId ∧ order.instrument = identity.instrument ∧ Decimal.zero < order.qty ∧
    Decimal.zero ≤ order.filledQty ∧ order.filledQty ≤ order.qty ∧ order.lifecycle = expectedLifecycle order.status

/-- An order fact that gets so far has no remaining quantity that takes the filled one out of range. -/
def Stage6BrokerOrderFactV2.RemainingInRange (order : Stage6BrokerOrderFactV2)
    (identity : Stage6DurableRequestIdentityV1) : Prop :=
  order.ReachesAddition identity → ∀ remaining ∈ order.remainingQty, Decimal.zero ≤ remaining →
    WithinRange (order.filledQty.units + remaining.units) 28

theorem mapError_rejected_avoids {Value : Type} {source : Except Stage6ReconciliationV2Error Value} :
    Avoids .panicked (source.mapError Stage6ReconciliationV2Halt.rejected) :=
  avoids_mapError fun _ => nofun

theorem rejectIf_avoids {condition : Prop} [Decidable condition] {error : Stage6ReconciliationV2Error} :
    Avoids .panicked (rejectIf condition (Stage6ReconciliationV2Halt.rejected error)) :=
  avoids_rejectIf nofun

theorem validateRemaining_avoids_iff (order : Stage6BrokerOrderFactV2) :
    Avoids .panicked order.validateRemaining ↔
      ∀ remaining ∈ order.remainingQty, Decimal.zero ≤ remaining →
        WithinRange (order.filledQty.units + remaining.units) 28 := by
  unfold Stage6BrokerOrderFactV2.validateRemaining
  cases order.remainingQty with
  | none => exact iff_of_true (avoids_ok ()) nofun
  | some remaining =>
      dsimp only
      rw [avoids_check_bind_iff rejectIf_avoids]
      constructor
      · intro answers _ found sign
        cases found
        have notNegative : ¬ remaining < Decimal.zero := by simpa using sign
        have added := (avoids_bind_iff.1 (answers () (rejectIf_of_not _ notNegative))).1
        rwa [avoids_orReject_iff, Decimal.checkedAdd_isSome_iff] at added
      · intro inRange _ passed
        rw [rejectIf_ok_iff] at passed
        have within := inRange remaining rfl (by simpa using passed)
        rw [← Decimal.checkedAdd_isSome_iff, ← @avoids_orReject_iff _ _ Stage6ReconciliationV2Halt.panicked] at within
        exact avoids_bind_iff.2 ⟨within, fun _ _ => rejectIf_avoids⟩

theorem reachesAddition_iff {order : Stage6BrokerOrderFactV2} :
    ¬ (order.accountId ≠ identity.accountId ∨ order.instrument ≠ identity.instrument ∨
      order.qty ≤ Decimal.zero ∨ order.filledQty < Decimal.zero ∨ order.qty < order.filledQty ∨
      order.lifecycle ≠ expectedLifecycle order.status) ↔ order.ReachesAddition identity := by
  unfold Stage6BrokerOrderFactV2.ReachesAddition
  simp only [not_or, not_not, ne_eq, Decimal.le_iff, Decimal.lt_iff, not_le, not_lt]

/-- The check of an order fact aborts only in its addition. -/
theorem order_validate_avoids_iff (order : Stage6BrokerOrderFactV2) :
    Avoids .panicked (order.validate identity) ↔ order.RemainingInRange identity := by
  unfold Stage6BrokerOrderFactV2.validate Stage6BrokerOrderFactV2.RemainingInRange
  rw [avoids_check_bind_iff rejectIf_avoids]
  constructor
  · intro answers reaches
    have continued := answers () (rejectIf_of_not _ (reachesAddition_iff.2 reaches))
    exact (validateRemaining_avoids_iff order).1 (avoids_bind_iff.1 continued).1
  · intro inRange _ passed
    have reaches := reachesAddition_iff.1 ((rejectIf_ok_iff ..).1 passed)
    exact avoids_bind_iff.2 ⟨(validateRemaining_avoids_iff order).2 (inRange reaches), fun _ _ => rejectIf_avoids⟩

/-- The lookup evidence holds an order fact only where the lookup succeeded. -/
def Stage6ExactLookupEvidenceV2.InRange (evidence : Stage6ExactLookupEvidenceV2)
    (identity : Stage6DurableRequestIdentityV1) : Prop :=
  match evidence with
  | .succeeded _ observation => observation.order.RemainingInRange identity
  | _ => True

theorem lookup_validate_avoids_iff (evidence : Stage6ExactLookupEvidenceV2) (binding : Stage6Sha256Digest) :
    Avoids .panicked (evidence.validate identity binding) ↔ evidence.InRange identity := by
  cases evidence with
  | notAttempted => exact iff_of_true (avoids_ok ()) trivial
  | succeeded attempt observation =>
      unfold Stage6ExactLookupEvidenceV2.validate Stage6ExactLookupEvidenceV2.InRange
      dsimp only
      rw [avoids_bind_iff, order_validate_avoids_iff]
      refine and_iff_left fun _ _ => ?_
      exact avoids_bind_iff.2 ⟨rejectIf_avoids, fun _ _ => mapError_rejected_avoids⟩
  | documentedNotFound attempt category => exact iff_of_true mapError_rejected_avoids trivial
  | unavailable attempt category => exact iff_of_true mapError_rejected_avoids trivial
  | decodeFailure attempt category digest => exact iff_of_true mapError_rejected_avoids trivial
  | stale attempt digest => exact iff_of_true mapError_rejected_avoids trivial

namespace Stage6ReconciliationTransitionPayloadV2

def tradeQtys (payload : Stage6ReconciliationTransitionPayloadV2) : List Quantity :=
  payload.materialTradeFacts.map (·.qty)

def ReachesLookup (payload : Stage6ReconciliationTransitionPayloadV2)
    (identity : Stage6DurableRequestIdentityV1) : Prop :=
  payload.materialTradeFacts.length ≤ maxMaterialTradesV2 ∧
    ¬ (identity.action = .place ∧ payload.endpointKind = .cancel) ∧
    ¬ (identity.action = .cancel ∧ payload.endpointKind = .place) ∧
    payload.fillEffect.validate = .ok ()

/-- The checks of an exact transition that come before its trades are added. -/
def ReachesSum (payload : Stage6ReconciliationTransitionPayloadV2) (identity : Stage6DurableRequestIdentityV1)
    (order : Stage6BrokerOrderFactV2) (lifecycle : Stage6ReconciliationLifecycleV2) : Prop :=
  (validateMaterialTrades identity payload.materialTradeFacts).isOk = true ∧
    payload.transitionKind = .exact lifecycle ∧ payload.brokerOrderFact = some order ∧
    validateExactStateMatrix lifecycle order payload.fillEffect = .ok ()

/-- No addition that the check of a transition reaches leaves the range of a decimal: the one over
the lookup evidence, then the one over the order fact, then the sum over the trades. -/
structure AdditionsInRange (payload : Stage6ReconciliationTransitionPayloadV2)
    (identity : Stage6DurableRequestIdentityV1) : Prop where
  lookup : payload.ReachesLookup identity → payload.exactLookupEvidence.InRange identity
  order : payload.ReachesLookup identity →
    payload.exactLookupEvidence.validate identity payload.durableRequestBindingSha256 = .ok () →
      ∀ order ∈ payload.brokerOrderFact, order.RemainingInRange identity
  trades : payload.ReachesLookup identity →
    payload.exactLookupEvidence.validate identity payload.durableRequestBindingSha256 = .ok () →
      ∀ order lifecycle, order.validate identity = .ok () → payload.ReachesSum identity order lifecycle →
        RunsWithin payload.tradeQtys

variable {payload : Stage6ReconciliationTransitionPayloadV2}

theorem validateExact_avoids_iff (lifecycle : Stage6ReconciliationLifecycleV2) :
    Avoids .panicked (payload.validateExact lifecycle) ↔
      ∀ order, payload.brokerOrderFact = some order →
        validateExactStateMatrix lifecycle order payload.fillEffect = .ok () →
          RunsWithin payload.tradeQtys := by
  have present : Avoids .panicked
      (orReject payload.brokerOrderFact (Stage6ReconciliationV2Halt.rejected .invalidPayload)) :=
    avoids_orReject nofun
  unfold validateExact
  rw [avoids_check_bind_iff present]
  constructor
  · intro answers order found matched
    have added := avoids_bind_iff.1 (answers order ((orReject_ok_iff ..).2 found))
    have summed := (avoids_bind_iff.1 (added.2 () ((mapError_ok_iff ..).2 matched))).1
    rwa [avoids_orReject_iff, Decimal.checkedSum_isSome_iff] at summed
  · intro inRange order found
    refine avoids_bind_iff.2 ⟨mapError_rejected_avoids, fun _ matched => ?_⟩
    have within := inRange order ((orReject_ok_iff ..).1 found) ((mapError_ok_iff ..).1 matched)
    rw [← Decimal.checkedSum_isSome_iff, ← @avoids_orReject_iff _ _ Stage6ReconciliationV2Halt.panicked] at within
    exact avoids_bind_iff.2 ⟨within, fun _ _ => rejectIf_avoids⟩

def validateTradeFacts (payload : Stage6ReconciliationTransitionPayloadV2)
    (identity : Stage6DurableRequestIdentityV1) : Except Stage6ReconciliationV2Halt Unit := do
  let _ ← (validateMaterialTrades identity payload.materialTradeFacts).mapError
    Stage6ReconciliationV2Halt.rejected
  match payload.transitionKind with
  | .exact lifecycle => payload.validateExact lifecycle
  | .reconciliationConflictHold | .reconciliationStillUnknownHold => .ok ()

theorem validateTradeFacts_avoids_iff :
    Avoids .panicked (payload.validateTradeFacts identity) ↔
      ∀ order lifecycle, payload.ReachesSum identity order lifecycle →
        RunsWithin payload.tradeQtys := by
  unfold validateTradeFacts ReachesSum
  rw [avoids_check_bind_iff mapError_rejected_avoids]
  constructor
  · rintro answers order lifecycle ⟨valid, kind, found, matched⟩
    obtain ⟨ids, traded⟩ := exists_ok_of_isOk valid
    have exactly := answers ids ((mapError_ok_iff ..).2 traded)
    rw [kind] at exactly
    exact (validateExact_avoids_iff lifecycle).1 exactly order found matched
  · intro inRange ids traded
    have valid : (validateMaterialTrades identity payload.materialTradeFacts).isOk = true := by
      rw [(mapError_ok_iff ..).1 traded]
      rfl
    cases kind : payload.transitionKind with
    | exact lifecycle =>
        exact (validateExact_avoids_iff lifecycle).2 fun order found matched =>
          inRange order lifecycle ⟨valid, kind, found, matched⟩
    | reconciliationConflictHold => exact avoids_ok ()
    | reconciliationStillUnknownHold => exact avoids_ok ()

/-- The trades are added after the order fact and every trade have passed their own checks. -/
theorem validateFacts_avoids_iff :
    Avoids .panicked (payload.validateFacts identity) ↔
      (∀ order, payload.brokerOrderFact = some order → order.RemainingInRange identity) ∧
        ∀ order lifecycle, order.validate identity = .ok () → payload.ReachesSum identity order lifecycle →
          RunsWithin payload.tradeQtys := by
  cases found : payload.brokerOrderFact with
  | none =>
      have skipped : payload.validateFacts identity = payload.validateTradeFacts identity := by
        unfold validateFacts
        rw [found]
        rfl
      rw [skipped, validateTradeFacts_avoids_iff]
      constructor
      · intro inRange
        refine ⟨fun order impossible => ?_, fun order lifecycle _ reaches => inRange order lifecycle reaches⟩
        cases impossible
      · rintro _ order lifecycle ⟨_, _, impossible, _⟩
        rw [found] at impossible
        cases impossible
  | some order =>
      have checked : payload.validateFacts identity =
          order.validate identity >>= fun _ => payload.validateTradeFacts identity := by
        unfold validateFacts
        rw [found]
        rfl
      have itself {other : Stage6BrokerOrderFactV2} {lifecycle : Stage6ReconciliationLifecycleV2}
          (reaches : payload.ReachesSum identity other lifecycle) : other = order :=
        Option.some.inj (reaches.2.2.1.symm.trans found)
      rw [checked, avoids_bind_iff, order_validate_avoids_iff]
      constructor
      · rintro ⟨first, rest⟩
        constructor
        · intro other same
          cases same
          exact first
        · intro other lifecycle passed reaches
          cases itself reaches
          exact validateTradeFacts_avoids_iff.1 (rest () passed) order lifecycle reaches
      · rintro ⟨first, rest⟩
        refine ⟨first order rfl, fun _ passed => validateTradeFacts_avoids_iff.2 fun other lifecycle reaches => ?_⟩
        cases itself reaches
        exact rest order lifecycle passed reaches

theorem reachesLookup_iff :
    payload.ReachesLookup identity ↔
      rejectIf (maxMaterialTradesV2 < payload.materialTradeFacts.length ∨
        (identity.action = .place ∧ payload.endpointKind = .cancel) ∨
        (identity.action = .cancel ∧ payload.endpointKind = .place))
          (Stage6ReconciliationV2Halt.rejected .invalidPayload) = .ok () ∧
      payload.fillEffect.validate.mapError Stage6ReconciliationV2Halt.rejected = .ok () := by
  unfold ReachesLookup
  rw [rejectIf_ok_iff, mapError_ok_iff, not_or, not_or, not_lt, and_assoc, and_assoc]

theorem validate_avoids_iff (sequence : Stage6LifecycleSequence) :
    Avoids .panicked (payload.validate codec identity sequence) ↔ payload.AdditionsInRange identity := by
  unfold validate
  rw [avoids_check_bind_iff rejectIf_avoids]
  constructor
  · intro answers
    have looksUp (reaches : payload.ReachesLookup identity) :=
      (avoids_check_bind_iff mapError_rejected_avoids).1 (answers () (reachesLookup_iff.1 reaches).1) ()
        (reachesLookup_iff.1 reaches).2
    have readsFacts (reaches : payload.ReachesLookup identity)
        (looked : payload.exactLookupEvidence.validate identity payload.durableRequestBindingSha256 = .ok ()) :=
      validateFacts_avoids_iff.1 (avoids_bind_iff.1 ((avoids_bind_iff.1 (looksUp reaches)).2 () looked)).1
    exact {
      lookup := fun reaches => (lookup_validate_avoids_iff _ _).1 (avoids_bind_iff.1 (looksUp reaches)).1
      order := fun reaches looked order found => (readsFacts reaches looked).1 order found
      trades := fun reaches looked order lifecycle => (readsFacts reaches looked).2 order lifecycle }
  · intro inRange _ passed
    refine avoids_bind_iff.2 ⟨mapError_rejected_avoids, fun _ effect => ?_⟩
    have reaches := reachesLookup_iff.2 ⟨passed, effect⟩
    refine avoids_bind_iff.2 ⟨(lookup_validate_avoids_iff _ _).2 (inRange.lookup reaches), fun _ looked => ?_⟩
    refine avoids_bind_iff.2 ⟨?_, fun _ _ => mapError_rejected_avoids⟩
    exact validateFacts_avoids_iff.2 ⟨inRange.order reaches looked, inRange.trades reaches looked⟩

/-- The check of a transition answers exactly when no addition that it reaches leaves the range
of a decimal. -/
theorem validate_answers_iff (payload : Stage6ReconciliationTransitionPayloadV2) (identity : Stage6DurableRequestIdentityV1)
    (sequence : Stage6LifecycleSequence) :
    (payload.validate codec identity sequence = .ok () ∨
      ∃ error, payload.validate codec identity sequence = .error (.rejected error)) ↔
        payload.AdditionsInRange identity := by
  rw [← validate_avoids_iff sequence]
  cases payload.validate codec identity sequence with
  | ok result => exact iff_of_true (.inl rfl) (avoids_ok ())
  | error halt =>
      cases halt with
      | rejected error => exact iff_of_true (.inr ⟨error, rfl⟩) (avoids_error_iff.2 nofun)
      | panicked =>
          refine iff_of_false ?_ (fun avoids => avoids rfl)
          rintro (impossible | ⟨_, impossible⟩)
          · cases impossible
          · cases impossible

end Stage6ReconciliationTransitionPayloadV2

end Additions

section Samples

open PlainCodec PlainReconciliationCodec

def sampleLargest : Quantity :=
  .ofNat (2 ^ 96 - 1) (by decide)

/-- The sample transition on conflict hold, with other quantities in its order fact. -/
def heldWith (sample : RejectedPlace) (qty filledQty remaining : Quantity) : Stage6JournalRecordWireV2 :=
  let payload : Stage6ReconciliationTransitionPayloadV2 :=
    { sample.transition.payload with
      transitionKind := .reconciliationConflictHold
      brokerOrderFact := sample.transition.payload.brokerOrderFact.map fun order =>
        { order with qty := qty, filledQty := filledQty, remainingQty := some remaining } }
  { sample.transition with
    payload := payload
    canonicalPayloadSha256 := Stage6Sha256Digest.of plainCodec.toDurableRecordCodec (plainPayloadV2 payload) }

/-- An order of which the largest quantity is filled and one more remains: its check aborts, and so
does the decoding of its record. -/
theorem overfull_order_aborts :
    ∃ sample, rejectedPlace = some sample ∧
      let wire := heldWith sample sampleLargest sampleLargest (.ofNat 1 (by decide))
      wire.payload.validate (plainReconciliationCodec []).toTransitionCodec wire.durableRequestIdentity
          wire.lifecycleSequence = .error .panicked ∧
        Stage6JournalRecordV2.decodeCanonical (plainReconciliationCodec [wire]).toTransitionCodec
          (plainRecordV2 wire) = .error .panicked := by
  have evaluated : (rejectedPlace.map fun sample =>
      let wire := heldWith sample sampleLargest sampleLargest (.ofNat 1 (by decide))
      (match wire.payload.validate (plainReconciliationCodec []).toTransitionCodec wire.durableRequestIdentity
          wire.lifecycleSequence with
        | .error .panicked => true
        | _ => false) &&
      (match Stage6JournalRecordV2.decodeCanonical (plainReconciliationCodec [wire]).toTransitionCodec
          (plainRecordV2 wire) with
        | .error .panicked => true
        | _ => false)) = some true := by
    decide +kernel
  obtain ⟨sample, found, evaluated⟩ := Option.map_eq_some_iff.1 evaluated
  dsimp only at evaluated
  obtain ⟨checked, decoded⟩ := Bool.and_eq_true_iff.1 evaluated
  refine ⟨sample, found, ?_, ?_⟩
  · split at checked
    next stopped => exact stopped
    next => cases checked
  · split at decoded
    next stopped => exact stopped
    next => cases decoded

/-- The same order with a larger quantity of its own: the addition is reached and stays in range. -/
theorem validate_answers_iff_held :
    ∃ sample, rejectedPlace = some sample ∧
      let wire := heldWith sample (.ofNat 2 (by decide)) (.ofNat 1 (by decide)) (.ofNat 1 (by decide))
      (wire.payload.validate (plainReconciliationCodec []).toTransitionCodec wire.durableRequestIdentity
          wire.lifecycleSequence = .ok () ∨
        ∃ error, wire.payload.validate (plainReconciliationCodec []).toTransitionCodec wire.durableRequestIdentity
          wire.lifecycleSequence = .error (.rejected error)) ∧
      wire.payload.AdditionsInRange wire.durableRequestIdentity := by
  have evaluated : (rejectedPlace.map fun sample =>
      let wire := heldWith sample (.ofNat 2 (by decide)) (.ofNat 1 (by decide)) (.ofNat 1 (by decide))
      (wire.payload.validate (plainReconciliationCodec []).toTransitionCodec wire.durableRequestIdentity
        wire.lifecycleSequence).isOk) = some true := by
    decide +kernel
  obtain ⟨sample, found, evaluated⟩ := Option.map_eq_some_iff.1 evaluated
  refine ⟨sample, found, ?_⟩
  obtain ⟨_, passed⟩ := exists_ok_of_isOk evaluated
  exact ⟨.inl passed, (Stage6ReconciliationTransitionPayloadV2.validate_answers_iff _ _ _).1 (.inl passed)⟩

end Samples

end TradingGateway.Stage6.ReconciliationV2
