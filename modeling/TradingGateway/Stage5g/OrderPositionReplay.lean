import TradingGateway.Stage5g.SampleSession
import Mathlib.Data.List.Nodup

/-! Runs of order-position packages: what a delivery can do to the state, and what
a package that comes again does. -/

set_option autoImplicit false

namespace TradingGateway.Stage5g.OrderPosition

open BrokerCore.Identifiers
open Foundation.ExceptRun Foundation.Triples.Action
open Stage6.JournalRecord (HexText)

variable {codec : OrderPositionCodec}

def Stage5gOrderPositionState.replayed (state : Stage5gOrderPositionState) (totalSequence : UInt64) :
    Stage5gOrderPositionState :=
  { state with
    lastTotalSequence := some totalSequence
    duplicateEvidenceCount := state.duplicateEvidenceCount + 1 }

/-- The entry of the replay ledger that an identity is looked up to. -/
def Stage5gOrderPositionState.recorded (state : Stage5gOrderPositionState) (identity : String) :
    Option EvidenceIdentity :=
  state.evidenceIdentities.find? fun previous => previous.identity = identity

def SequenceFresh (state : Stage5gOrderPositionState) (evidence : Stage5gOrderPositionEvidence) : Prop :=
  ∀ last, state.lastTotalSequence = some last → last < evidence.totalSequence

/-- Whether the metadata of a package admits it, and as a replay or as new. -/
def admission (state : Stage5gOrderPositionState) (parts : CanonicalParts) :
    Except Stage5gOrderPositionError Bool := do
  rejectIf (state.lastTotalSequence.any fun last => parts.evidence.totalSequence ≤ last) .nonMonotonicSequence
  rejectIf (parts.evidence.brokerTruth.accountId ≠ state.accountId) .accountMismatch
  classifyEvidenceReplay state parts.identity parts.fingerprint

theorem metadata_outcome (state : Stage5gOrderPositionState) (parts : CanonicalParts) :
    (applyStage5gExactReplayMetadataToState parts.evidence parts.identity parts.fingerprint).outcome state =
      match admission state parts with
      | .error reason => (.error reason, state)
      | .ok true => (.ok .exactReplay, state.replayed parts.evidence.totalSequence)
      | .ok false => (.ok .newPackage, state) := by
  unfold applyStage5gExactReplayMetadataToState admission
  simp only [outcome_bind, outcome_get, outcome_ofExcept]
  cases rejectIf (state.lastTotalSequence.any fun last => parts.evidence.totalSequence ≤ last)
      Stage5gOrderPositionError.nonMonotonicSequence with
  | error reason => rfl
  | ok _ =>
      cases rejectIf (parts.evidence.brokerTruth.accountId ≠ state.accountId)
          Stage5gOrderPositionError.accountMismatch with
      | error reason => rfl
      | ok _ =>
          cases classifyEvidenceReplay state parts.identity parts.fingerprint with
          | error reason => rfl
          | ok replayed => cases replayed <;> rfl

theorem sequenceFresh_iff {state : Stage5gOrderPositionState} {evidence : Stage5gOrderPositionEvidence} :
    SequenceFresh state evidence ↔
      ¬ (state.lastTotalSequence.any fun last => evidence.totalSequence ≤ last) = true := by
  cases known : state.lastTotalSequence with
  | none => simp [SequenceFresh, known]
  | some last => simp [SequenceFresh, known]

theorem admission_ok_iff {state : Stage5gOrderPositionState} {parts : CanonicalParts} {replayed : Bool} :
    admission state parts = .ok replayed ↔
      SequenceFresh state parts.evidence ∧ parts.evidence.brokerTruth.accountId = state.accountId ∧
        classifyEvidenceReplay state parts.identity parts.fingerprint = .ok replayed := by
  unfold admission
  rw [check_bind_ok_iff, check_bind_ok_iff, rejectIf_ok_iff, rejectIf_ok_iff, sequenceFresh_iff, not_not]

theorem admission_of_fresh {state : Stage5gOrderPositionState} {parts : CanonicalParts}
    (fresh : SequenceFresh state parts.evidence)
    (account : parts.evidence.brokerTruth.accountId = state.accountId) :
    admission state parts = classifyEvidenceReplay state parts.identity parts.fingerprint := by
  unfold admission
  rw [rejectIf_of_not _ (sequenceFresh_iff.1 fresh), ok_bind, rejectIf_of_not _ (not_not.2 account), ok_bind]

theorem classify_new_iff {state : Stage5gOrderPositionState} {identity : String} {fingerprint : HexText} :
    classifyEvidenceReplay state identity fingerprint = .ok false ↔ state.recorded identity = none := by
  unfold classifyEvidenceReplay Stage5gOrderPositionState.recorded
  cases state.evidenceIdentities.find? fun previous => previous.identity = identity with
  | none => simp
  | some previous => simp

theorem classify_of_recorded {state : Stage5gOrderPositionState} {identity : String} {fingerprint : HexText}
    {previous : EvidenceIdentity} (known : state.recorded identity = some previous) :
    classifyEvidenceReplay state identity fingerprint =
      if previous.fingerprint = fingerprint then .ok true else .error .conflictingDuplicateEvidence := by
  unfold Stage5gOrderPositionState.recorded at known
  unfold classifyEvidenceReplay
  rw [known]
  simp only [rejectIf, ne_eq, ite_not]
  split <;> rfl

/-- An active session leaves the broker id of the slot as it is. -/
theorem adopt_active (evidence : Stage5gOrderPositionEvidence) (state : Stage5gOrderPositionState) (index : Nat) :
    state.slots.modify index
      (adoptDiscoveredOrderId evidence .activeSession state.accountId state.instrument) = state.slots := by
  have same : adoptDiscoveredOrderId evidence .activeSession state.accountId state.instrument = id := by
    funext slot
    simp [adoptDiscoveredOrderId]
  rw [same, List.modify_id]

/-- What an active session does with a new package: all of it, or nothing. -/
theorem applyNewPackage_active (state : Stage5gOrderPositionState)
    (canonical : Stage5gCanonicalOrderPositionEvidence codec) :
    applyNewPackage codec state canonical .activeSession = (do
      let slotIndex ← (stage5gOrderPositionNewPackagePreflightState state canonical.evidence).mapError fun reason =>
        failing state (.blocked reason)
      let slot ← orReject state.slots[slotIndex]? .panicked
      (admitToSlot codec canonical.evidence .activeSession slot).mapError fun reason => failing state (.blocked reason)
      let next ← (candidateSlot codec state canonical.evidence .activeSession slot).mapError (failing state)
      .ok (.applied (commitPackage codec state slotIndex next canonical) state)) := by
  unfold applyNewPackage
  simp only [adopt_active]

theorem failing_state {state : Stage5gOrderPositionState} {halt : Stage5gHalt}
    {failure : Stage5gCanonicalStateFailure} (stopped : failing state halt = .failed failure) :
    failure.state = state := by
  cases halt with
  | blocked reason =>
      cases stopped
      rfl
  | panicked => cases stopped

theorem applyNewPackage_failed {state : Stage5gOrderPositionState}
    {canonical : Stage5gCanonicalOrderPositionEvidence codec} {failure : Stage5gCanonicalStateFailure}
    (failed : applyNewPackage codec state canonical .activeSession = .error (.failed failure)) :
    failure.state = state := by
  rw [applyNewPackage_active] at failed
  obtain preflight | ⟨index, _, failed⟩ := bind_error_iff.1 failed
  · obtain ⟨reason, _, stopped⟩ := mapError_error_iff.1 preflight
    exact failing_state stopped
  obtain absent | ⟨slot, _, failed⟩ := bind_error_iff.1 failed
  · cases found : state.slots[index]? with
    | none =>
        rw [found] at absent
        cases absent
    | some slot =>
        rw [found] at absent
        cases absent
  obtain refused | ⟨_, _, failed⟩ := bind_error_iff.1 failed
  · obtain ⟨reason, _, stopped⟩ := mapError_error_iff.1 refused
    exact failing_state stopped
  obtain halted | ⟨_, _, committed⟩ := bind_error_iff.1 failed
  · obtain ⟨halt, _, stopped⟩ := mapError_error_iff.1 halted
    exact failing_state stopped
  · cases committed

/-- A committed package: its identity was new, its slot was found, and the slot
copy went through every check. -/
structure Commits (state : Stage5gOrderPositionState) (canonical : Stage5gCanonicalOrderPositionEvidence codec)
    (index : Nat) (slot next : Stage5gOrderPositionSlot) : Prop where
  addressed : stage5gOrderPositionNewPackagePreflightState state canonical.evidence = .ok index
  found : state.slots[index]? = some slot
  admitted : admitToSlot codec canonical.evidence .activeSession slot = .ok ()
  worked : candidateSlot codec state canonical.evidence .activeSession slot = .ok next

theorem applyNewPackage_ok {state : Stage5gOrderPositionState}
    {canonical : Stage5gCanonicalOrderPositionEvidence codec} {transition : Stage5gCanonicalStateTransition}
    (success : applyNewPackage codec state canonical .activeSession = .ok transition) :
    ∃ index slot next, Commits state canonical index slot next ∧
      transition = .applied (commitPackage codec state index next canonical) state := by
  rw [applyNewPackage_active] at success
  obtain ⟨index, addressed, success⟩ := bind_ok_iff.1 success
  obtain ⟨slot, found, success⟩ := bind_ok_iff.1 success
  obtain ⟨admitted, success⟩ := check_bind_ok_iff.1 success
  obtain ⟨next, worked, success⟩ := bind_ok_iff.1 success
  cases success
  exact ⟨index, slot, next,
    { addressed := (mapError_ok_iff ..).1 addressed
      found := (orReject_ok_iff ..).1 found
      admitted := (mapError_ok_iff ..).1 admitted
      worked := (mapError_ok_iff ..).1 worked }, rfl⟩

/-- Everything a delivery in an active session can do. -/
theorem apply_cases (state : Stage5gOrderPositionState) (canonical : Stage5gCanonicalOrderPositionEvidence codec) :
    (∃ reason, applyStage5gCanonicalOrderPositionState codec state canonical .activeSession =
      .error (.failed { reason := reason, state := state })) ∨
    applyStage5gCanonicalOrderPositionState codec state canonical .activeSession = .error .panicked ∨
    (admission state canonical.toCanonicalParts = .ok true ∧
      applyStage5gCanonicalOrderPositionState codec state canonical .activeSession =
        .ok (.exactReplay (state.replayed canonical.evidence.totalSequence))) ∨
    (admission state canonical.toCanonicalParts = .ok false ∧
      ∃ index slot next, Commits state canonical index slot next ∧
        applyStage5gCanonicalOrderPositionState codec state canonical .activeSession =
          .ok (.applied (commitPackage codec state index next canonical) state)) := by
  unfold applyStage5gCanonicalOrderPositionState
  rw [metadata_outcome]
  cases admitted : admission state canonical.toCanonicalParts with
  | error reason => exact .inl ⟨reason, rfl⟩
  | ok replayed =>
      cases replayed with
      | true => exact .inr (.inr (.inl ⟨rfl, rfl⟩))
      | false =>
          cases applied : applyNewPackage codec state canonical .activeSession with
          | error halt =>
              cases halt with
              | failed failure =>
                  have same := applyNewPackage_failed applied
                  subst same
                  exact .inl ⟨failure.reason, applied⟩
              | panicked => exact .inr (.inl applied)
          | ok transition =>
              obtain ⟨index, slot, next, commits, rfl⟩ := applyNewPackage_ok applied
              exact .inr (.inr (.inr ⟨rfl, index, slot, next, commits, applied⟩))

inductive PackageVerdict where
  | applied
  | replayed
  | failed (reason : Stage5gOrderPositionError)
deriving DecidableEq

/-- One delivery in an active session: its verdict and the state the caller gets
back; `none` is the panic. -/
def deliver (codec : OrderPositionCodec) (state : Stage5gOrderPositionState)
    (canonical : Stage5gCanonicalOrderPositionEvidence codec) : Option (PackageVerdict × Stage5gOrderPositionState) :=
  match applyStage5gCanonicalOrderPositionState codec state canonical .activeSession with
  | .ok (.applied state _) => some (.applied, state)
  | .ok (.exactReplay state) => some (.replayed, state)
  | .error (.failed failure) => some (.failed failure.reason, failure.state)
  | .error .panicked => none

inductive Run (codec : OrderPositionCodec)
    (allowed : Stage5gOrderPositionState → Stage5gCanonicalOrderPositionEvidence codec → Prop)
    (start : Stage5gOrderPositionState) :
    List (Stage5gCanonicalOrderPositionEvidence codec × PackageVerdict) → Stage5gOrderPositionState → Prop where
  | refl : Run codec allowed start [] start
  | step {history middle canonical verdict final} : Run codec allowed start history middle →
      allowed middle canonical → deliver codec middle canonical = some (verdict, final) →
      Run codec allowed start (history ++ [(canonical, verdict)]) final

inductive Delivery (state : Stage5gOrderPositionState) (canonical : Stage5gCanonicalOrderPositionEvidence codec) :
    PackageVerdict → Stage5gOrderPositionState → Prop where
  | failed (reason : Stage5gOrderPositionError) : Delivery state canonical (.failed reason) state
  | replayed (known : admission state canonical.toCanonicalParts = .ok true) :
      Delivery state canonical .replayed (state.replayed canonical.evidence.totalSequence)
  | applied {index : Nat} {slot next : Stage5gOrderPositionSlot}
      (isNew : admission state canonical.toCanonicalParts = .ok false)
      (commits : Commits state canonical index slot next) :
      Delivery state canonical .applied (commitPackage codec state index next canonical)

theorem delivery_of_deliver {state final : Stage5gOrderPositionState}
    {canonical : Stage5gCanonicalOrderPositionEvidence codec} {verdict : PackageVerdict}
    (delivered : deliver codec state canonical = some (verdict, final)) :
    Delivery state canonical verdict final := by
  unfold deliver at delivered
  obtain ⟨reason, applied⟩ | applied | ⟨known, applied⟩ | ⟨isNew, index, slot, next, commits, applied⟩ :=
    apply_cases state canonical
  · rw [applied] at delivered
    cases delivered
    exact .failed reason
  · rw [applied] at delivered
    cases delivered
  · rw [applied] at delivered
    cases delivered
    exact .replayed known
  · rw [applied] at delivered
    cases delivered
    exact .applied isNew commits

def appliedEntries (history : List (Stage5gCanonicalOrderPositionEvidence codec × PackageVerdict)) :
    List EvidenceIdentity :=
  (history.filter fun delivery => delivery.2 = .applied).map fun delivery =>
    { identity := delivery.1.identity, fingerprint := delivery.1.fingerprint }

@[simp] theorem appliedEntries_append (front back : List (Stage5gCanonicalOrderPositionEvidence codec × PackageVerdict)) :
    appliedEntries (front ++ back) = appliedEntries front ++ appliedEntries back := by
  simp [appliedEntries]

theorem recorded_eq_none_iff {state : Stage5gOrderPositionState} {identity : String} :
    state.recorded identity = none ↔ identity ∉ state.evidenceIdentities.map EvidenceIdentity.identity := by
  simp [Stage5gOrderPositionState.recorded]

section Runs

variable {allowed : Stage5gOrderPositionState → Stage5gCanonicalOrderPositionEvidence codec → Prop}
variable {start final : Stage5gOrderPositionState}
variable {history : List (Stage5gCanonicalOrderPositionEvidence codec × PackageVerdict)}

/-- The replay ledger keeps what it had and gains the applied packages in order. -/
theorem Run.evidenceIdentities_eq (run : Run codec allowed start history final) :
    final.evidenceIdentities = start.evidenceIdentities ++ appliedEntries history := by
  induction run with
  | refl => simp [appliedEntries]
  | @step history middle canonical verdict final _ _ delivered ih =>
      cases delivery_of_deliver delivered with
      | failed reason => simpa [appliedEntries] using ih
      | replayed known => simpa [appliedEntries, Stage5gOrderPositionState.replayed] using ih
      | applied isNew commits => simp [appliedEntries, commitPackage, ih]

/-- No identity is applied twice, nor one that the start already had. -/
theorem Run.applied_once (run : Run codec allowed start history final) :
    ((appliedEntries history).map EvidenceIdentity.identity).Nodup ∧
      ∀ entry ∈ appliedEntries history, entry.identity ∉ start.evidenceIdentities.map EvidenceIdentity.identity := by
  induction run with
  | refl => simp [appliedEntries]
  | @step history middle canonical verdict final run _ delivered ih =>
      cases delivery_of_deliver delivered with
      | failed reason => simpa [appliedEntries] using ih
      | replayed known => simpa [appliedEntries] using ih
      | applied isNew commits =>
          have fresh := classify_new_iff.1 (admission_ok_iff.1 isNew).2.2
          rw [recorded_eq_none_iff, run.evidenceIdentities_eq, List.map_append, List.mem_append, not_or] at fresh
          have entries : appliedEntries (history ++ [(canonical, PackageVerdict.applied)]) =
              appliedEntries history ++ [⟨canonical.identity, canonical.fingerprint⟩] := by
            simp [appliedEntries]
          rw [entries]
          constructor
          · rw [List.map_append, List.nodup_append']
            refine ⟨ih.1, by simp, ?_⟩
            simpa using fresh.2
          · intro entry member
            rcases List.mem_append.1 member with old | new
            · exact ih.2 entry old
            · rw [List.mem_singleton.1 new]
              exact fresh.1

/-- An applied package is what its identity is looked up to from then on. -/
theorem Run.recorded_applied (run : Run codec allowed start history final)
    {canonical : Stage5gCanonicalOrderPositionEvidence codec} (applied : (canonical, PackageVerdict.applied) ∈ history) :
    final.recorded canonical.identity = some ⟨canonical.identity, canonical.fingerprint⟩ := by
  obtain ⟨distinct, apart⟩ := run.applied_once
  have member : (⟨canonical.identity, canonical.fingerprint⟩ : EvidenceIdentity) ∈ appliedEntries history := by
    simp only [appliedEntries, List.mem_map, List.mem_filter, decide_eq_true_eq]
    exact ⟨(canonical, .applied), ⟨applied, rfl⟩, rfl⟩
  have absent : start.evidenceIdentities.find? (fun previous => previous.identity = canonical.identity) = none :=
    recorded_eq_none_iff.2 (apart _ member)
  unfold Stage5gOrderPositionState.recorded
  rw [run.evidenceIdentities_eq, List.find?_append, absent, Option.none_or]
  cases found : (appliedEntries history).find? fun previous => previous.identity = canonical.identity with
  | none =>
      have missing := List.find?_eq_none.1 found _ member
      simp at missing
  | some entry =>
      have named : entry.identity = canonical.identity := by simpa using List.find?_some found
      exact congrArg some (List.inj_on_of_nodup_map distinct (List.mem_of_find?_eq_some found) member named)

/-- A package that was applied is about the account of the session. -/
theorem Run.account_applied (run : Run codec allowed start history final)
    {canonical : Stage5gCanonicalOrderPositionEvidence codec} (applied : (canonical, PackageVerdict.applied) ∈ history) :
    canonical.evidence.brokerTruth.accountId = final.accountId := by
  induction run with
  | refl => simp at applied
  | @step history middle newest verdict final run _ delivered ih =>
      rcases List.mem_append.1 applied with old | new
      · have same := ih old
        cases delivery_of_deliver delivered with
        | failed reason => exact same
        | replayed known => exact same
        | applied isNew commits => exact same
      · cases List.mem_singleton.1 new
        cases delivery_of_deliver delivered with
        | applied isNew commits => exact (admission_ok_iff.1 isNew).2.1

end Runs

section Identity

private theorem length_toText (requestId : StrategyRequestId) : requestId.toText.length = 36 := by
  simp [StrategyRequestId.toText, Uuid.toText]

/-- What stands before the first colon of two equal texts is equal. -/
private theorem before_colon {left right leftRest rightRest : List Char} (leftPlain : ':' ∉ left)
    (rightPlain : ':' ∉ right) (same : left ++ ':' :: leftRest = right ++ ':' :: rightRest) : left = right := by
  induction left generalizing right with
  | nil =>
      cases right with
      | nil => rfl
      | cons character rest =>
          have colon : ':' = character := (List.cons.inj same).1
          exact absurd (colon ▸ List.mem_cons_self) rightPlain
  | cons character rest ih =>
      cases right with
      | nil =>
          have colon : character = ':' := (List.cons.inj same).1
          exact absurd (colon ▸ List.mem_cons_self) leftPlain
      | cons other others =>
          obtain ⟨first, same⟩ := List.cons.inj same
          rw [first, ih (fun member => leftPlain (List.mem_cons_of_mem _ member))
            (fun member => rightPlain (List.mem_cons_of_mem _ member)) same]

theorem canonical_parts_facts (canonical : Stage5gCanonicalOrderPositionEvidence codec) :
    canonical.identity = evidenceIdentity canonical.evidence ∧
      ':' ∉ canonical.evidence.brokerTruth.accountId.value.toList := by
  obtain ⟨raw, parted⟩ := canonical.canonicalized
  unfold canonicalParts at parted
  obtain ⟨grammar, parted⟩ := check_bind_ok_iff.1 parted
  obtain ⟨truth, canonicalTruth, parted⟩ := bind_ok_iff.1 parted
  have sameAccount : truth.accountId = raw.brokerTruth.accountId := by
    unfold canonicalizeBrokerTruthSnapshot at canonicalTruth
    obtain ⟨_, _, canonicalTruth⟩ := bind_ok_iff.1 canonicalTruth
    cases canonicalTruth
    rfl
  rw [← Except.ok.inj parted]
  refine ⟨rfl, ?_⟩
  simp only [sameAccount]
  rw [rejectIf_ok_iff, not_or] at grammar
  exact grammar.2

/-- Two equal texts of one layout have equal accounts. -/
private theorem account_of_layout {opening leftAccount rightAccount leftEnd rightEnd : String}
    {leftRequest rightRequest : List Char} (width : leftRequest.length = rightRequest.length)
    (leftPlain : ':' ∉ leftAccount.toList) (rightPlain : ':' ∉ rightAccount.toList)
    (same : opening ++ String.ofList leftRequest ++ ":" ++ leftAccount ++ ":" ++ leftEnd =
      opening ++ String.ofList rightRequest ++ ":" ++ rightAccount ++ ":" ++ rightEnd) :
    leftAccount = rightAccount := by
  have colon : ":".toList = [':'] := by decide
  have characters := congrArg String.toList same
  simp only [String.toList_append, String.toList_ofList, List.append_assoc, List.append_cancel_left_eq,
    colon] at characters
  have tail := (List.append_inj characters width).2
  exact String.toList_inj.1 (before_colon leftPlain rightPlain (List.append_cancel_left tail))

/-- The identity of a package spells the account it is about. -/
theorem accountId_of_identity {left right : Stage5gCanonicalOrderPositionEvidence codec}
    (same : left.identity = right.identity) :
    left.evidence.brokerTruth.accountId = right.evidence.brokerTruth.accountId := by
  obtain ⟨leftIdentity, leftPlain⟩ := canonical_parts_facts left
  obtain ⟨rightIdentity, rightPlain⟩ := canonical_parts_facts right
  rw [leftIdentity, rightIdentity] at same
  unfold evidenceIdentity at same
  have value := account_of_layout (by rw [length_toText, length_toText]) leftPlain rightPlain same
  cases leftAccount : left.evidence.brokerTruth.accountId with
  | mk leftValue =>
      cases rightAccount : right.evidence.brokerTruth.accountId with
      | mk rightValue =>
          rw [leftAccount, rightAccount] at value
          exact congrArg _ value

end Identity

/-- A package whose identity the replay ledger knows: with the recorded
fingerprint it only counts, with another one it is refused. -/
theorem apply_of_recorded {state : Stage5gOrderPositionState}
    {canonical : Stage5gCanonicalOrderPositionEvidence codec} {previous : EvidenceIdentity}
    (known : state.recorded canonical.identity = some previous)
    (fresh : SequenceFresh state canonical.evidence)
    (account : canonical.evidence.brokerTruth.accountId = state.accountId) :
    applyStage5gCanonicalOrderPositionState codec state canonical .activeSession =
      if previous.fingerprint = canonical.fingerprint then
        .ok (.exactReplay (state.replayed canonical.evidence.totalSequence))
      else .error (.failed { reason := .conflictingDuplicateEvidence, state := state }) := by
  unfold applyStage5gCanonicalOrderPositionState
  rw [metadata_outcome, admission_of_fresh fresh account, classify_of_recorded known]
  by_cases same : previous.fingerprint = canonical.fingerprint
  · rw [if_pos same, if_pos same]
  · rw [if_neg same, if_neg same]

structure Redelivered (history : List (Stage5gCanonicalOrderPositionEvidence codec × PackageVerdict))
    (state : Stage5gOrderPositionState) (first again : Stage5gCanonicalOrderPositionEvidence codec) : Prop where
  applied : (first, PackageVerdict.applied) ∈ history
  sameIdentity : again.identity = first.identity
  fresh : SequenceFresh state again.evidence

theorem Run.apply_redelivered {allowed : Stage5gOrderPositionState → Stage5gCanonicalOrderPositionEvidence codec → Prop}
    {start final : Stage5gOrderPositionState}
    {history : List (Stage5gCanonicalOrderPositionEvidence codec × PackageVerdict)}
    {first again : Stage5gCanonicalOrderPositionEvidence codec} (run : Run codec allowed start history final)
    (redelivered : Redelivered history final first again) :
    applyStage5gCanonicalOrderPositionState codec final again .activeSession =
      if first.fingerprint = again.fingerprint then
        .ok (.exactReplay (final.replayed again.evidence.totalSequence))
      else .error (.failed { reason := .conflictingDuplicateEvidence, state := final }) := by
  have known : final.recorded again.identity = some ⟨first.identity, first.fingerprint⟩ := by
    rw [redelivered.sameIdentity]
    exact run.recorded_applied redelivered.applied
  have account : again.evidence.brokerTruth.accountId = final.accountId := by
    rw [accountId_of_identity redelivered.sameIdentity]
    exact run.account_applied redelivered.applied
  exact apply_of_recorded known redelivered.fresh account

/-- Order-position evidence is transactional and applied at most once. A failure
returns the state it was given; no identity is applied twice in a run; a package
applied before, and any package the replay ledger knows, only counts when it comes
again unchanged and is refused when its fingerprint differs. -/
theorem evidence_is_transactional (codec : OrderPositionCodec) :
    (∀ (state : Stage5gOrderPositionState) (canonical : Stage5gCanonicalOrderPositionEvidence codec)
        (failure : Stage5gCanonicalStateFailure),
      applyStage5gCanonicalOrderPositionState codec state canonical .activeSession = .error (.failed failure) →
        failure.state = state) ∧
    (∀ (start final : Stage5gOrderPositionState)
        (history : List (Stage5gCanonicalOrderPositionEvidence codec × PackageVerdict)),
      Run codec (fun _ _ => True) start history final →
        ((history.filter fun delivery => delivery.2 = .applied).map fun delivery => delivery.1.identity).Nodup ∧
        ∀ first again, Redelivered history final first again →
          (again.fingerprint = first.fingerprint →
            applyStage5gCanonicalOrderPositionState codec final again .activeSession =
              .ok (.exactReplay { final with
                lastTotalSequence := some again.evidence.totalSequence
                duplicateEvidenceCount := final.duplicateEvidenceCount + 1 })) ∧
          (again.fingerprint ≠ first.fingerprint →
            applyStage5gCanonicalOrderPositionState codec final again .activeSession =
              .error (.failed { reason := .conflictingDuplicateEvidence, state := final }))) ∧
    (∀ (state : Stage5gOrderPositionState) (canonical : Stage5gCanonicalOrderPositionEvidence codec)
        (previous : EvidenceIdentity),
      state.recorded canonical.identity = some previous → SequenceFresh state canonical.evidence →
      canonical.evidence.brokerTruth.accountId = state.accountId →
        (canonical.fingerprint = previous.fingerprint →
          applyStage5gCanonicalOrderPositionState codec state canonical .activeSession =
            .ok (.exactReplay { state with
              lastTotalSequence := some canonical.evidence.totalSequence
              duplicateEvidenceCount := state.duplicateEvidenceCount + 1 })) ∧
        (canonical.fingerprint ≠ previous.fingerprint →
          applyStage5gCanonicalOrderPositionState codec state canonical .activeSession =
            .error (.failed { reason := .conflictingDuplicateEvidence, state := state }))) := by
  refine ⟨?_, ?_, ?_⟩
  · intro state canonical failure failed
    obtain ⟨reason, applied⟩ | applied | ⟨_, applied⟩ | ⟨_, index, slot, next, _, applied⟩ :=
      apply_cases state canonical
    · rw [applied] at failed
      cases failed
      rfl
    · rw [applied] at failed
      cases failed
    · rw [applied] at failed
      cases failed
    · rw [applied] at failed
      cases failed
  · intro start final history run
    refine ⟨?_, ?_⟩
    · simpa [appliedEntries, Function.comp_def] using run.applied_once.1
    · intro first again redelivered
      have outcome := run.apply_redelivered redelivered
      refine ⟨?_, ?_⟩
      · intro same
        rw [outcome, if_pos same.symm]
        rfl
      · intro differs
        rw [outcome, if_neg (Ne.symm differs)]
  · intro state canonical previous known fresh account
    have outcome := apply_of_recorded known fresh account
    refine ⟨?_, ?_⟩
    · intro same
      rw [outcome, if_pos same.symm]
      rfl
    · intro differs
      rw [outcome, if_neg (Ne.symm differs)]

section Sample

open SampleSession

def filledPackage : Stage5gCanonicalOrderPositionEvidence sessionCodec :=
  samplePackage (sampleEvidence 1 10 (sampleOrder .filled one 10) [sampleTrade 10] [samplePosition 10])
    (by decide +kernel)

def filledPackageAgain : Stage5gCanonicalOrderPositionEvidence sessionCodec :=
  samplePackage (sampleEvidence 2 10 (sampleOrder .filled one 10) [sampleTrade 10] [samplePosition 10])
    (by decide +kernel)

theorem evidence_is_transactional_redelivered :
    ∃ final, deliver sessionCodec (sampleState (sampleSlot (.place .limit) 0)) filledPackage = some (.applied, final) ∧
      applyStage5gCanonicalOrderPositionState sessionCodec final filledPackageAgain .activeSession =
        .ok (.exactReplay { final with
          lastTotalSequence := some 2
          duplicateEvidenceCount := final.duplicateEvidenceCount + 1 }) := by
  have applied : (deliver sessionCodec (sampleState (sampleSlot (.place .limit) 0)) filledPackage).map
      (fun result => (result.1, result.2.lastTotalSequence)) = some (.applied, some 1) := by decide +kernel
  obtain ⟨⟨verdict, final⟩, delivered, shows⟩ := Option.map_eq_some_iff.1 applied
  obtain ⟨rfl, last⟩ := Prod.mk.inj shows
  have redelivered : Redelivered ([] ++ [(filledPackage, PackageVerdict.applied)]) final filledPackage
      filledPackageAgain := {
    applied := by simp
    sameIdentity := by decide
    fresh := fun known isLast => by
      have isOne : known = 1 := Option.some.inj (isLast.symm.trans last)
      subst isOne
      decide }
  obtain ⟨_, again⟩ := (evidence_is_transactional sessionCodec).2.1 _ final _ (.step .refl trivial delivered)
  exact ⟨final, delivered, (again _ _ redelivered).1 (by decide +kernel)⟩

end Sample

end TradingGateway.Stage5g.OrderPosition
