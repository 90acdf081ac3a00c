import TradingGateway.Stage8b.WorkingLimitRuns

/-! Sequence numbers and outcome record ids over a run: when nothing is given out twice. -/

set_option autoImplicit false

namespace TradingGateway.Stage8b.WorkingLimitRuns

open BrokerCore.HybridAttribution
open Stage6.JournalRecord Stage6.PlainCodec Stage6.RecordIds PlainWorkingLimitCodec
open WorkingLimitBook WorkingLimitBook.Stage8bP1d3WorkingBookProjectionV1
open WorkingLimitEvidence
open Foundation.ExceptRun

section Ids

theorem kind_of_name_suffix {left right : Stage8bP1d3OutcomeKind}
    (suffix : lengthPrefixed left.canonicalName.toUTF8.toList <:+ lengthPrefixed right.canonicalName.toUTF8.toList) :
    left = right := by
  revert suffix
  cases left <;> cases right <;> decide +kernel

/-- The kind and the ordinal can be read back from the bytes hashed into an outcome's id. -/
theorem outcomeIdPreimage_injective {left right : Stage8bP1d3OutcomeEvidenceV1}
    (same : outcomeIdPreimage left = outcomeIdPreimage right) :
    left.outcomeKind = right.outcomeKind ∧ left.transitionOrdinal = right.transitionOrdinal := by
  unfold outcomeIdPreimage at same
  obtain ⟨sameNames, sameOrdinal⟩ := List.append_inj' same (by simp)
  have bound (value : UInt64) : value.toNat < 256 ^ 8 := value.toNat_lt
  refine ⟨?_, UInt64.toNat_inj.1 (toBigEndian_injective (bound _) (bound _) sameOrdinal)⟩
  have leftEnds := List.suffix_append ("stage6-p1d3-outcome-record-v1".toUTF8.toList ++
    lengthPrefixed (String.ofList left.operationalIdentitySha256).toUTF8.toList ++
    lengthPrefixed left.brokerOrderId.value.toUTF8.toList)
    (lengthPrefixed left.outcomeKind.canonicalName.toUTF8.toList)
  rw [sameNames] at leftEnds
  rcases List.suffix_or_suffix_of_suffix leftEnds (List.suffix_append _ _) with short | long
  · exact kind_of_name_suffix short
  · exact (kind_of_name_suffix long).symm

/-- Well-formed evidence carries the hash of its own id bytes. -/
theorem outcomeRecordId_eq_hash {codec : OutcomeEvidenceCodec} {evidence : Stage8bP1d3OutcomeEvidenceV1}
    (valid : evidence.validate codec = .ok ()) :
    evidence.stage6OutcomeRecordId = (codec.sha256 (outcomeIdPreimage evidence)).hex := by
  unfold Stage8bP1d3OutcomeEvidenceV1.validate at valid
  obtain ⟨_, valid⟩ := check_bind_ok_iff.1 valid
  obtain ⟨inScope, _⟩ := check_bind_ok_iff.1 valid
  unfold Stage8bP1d3OutcomeEvidenceV1.validateScope at inScope
  obtain ⟨derived, _⟩ := check_bind_ok_iff.1 inScope
  simp only [rejectIf_ok_iff, ne_eq, not_not] at derived
  exact derived.symm

end Ids

def CancelsEndedOrdersLast (steps : List RunStep) : Prop :=
  ∀ before step after, steps = before ++ step :: after → step.CancelsEndedOrder → outcomesOf after = []

def ObservesEnded (kind : Stage8bP1d3OutcomeKind) : Prop :=
  kind = .cancelExecutionObserved ∨ kind = .cancelAlreadyTerminalNonExecution

structure Fresh (book : Stage8bP1d3WorkingBookProjectionV1) (outcomes : List Stage8bP1d3OutcomeEvidenceV1) :
    Prop where
  ascending : (outcomes.flatMap reservedSequences).Pairwise (· < ·)
  above : ∀ sequence ∈ outcomes.flatMap reservedSequences, book.totalSequenceFrontier < sequence
  behind : ∀ evidence ∈ outcomes, book.transitionOrdinal.toNat ≤ evidence.transitionOrdinal.toNat
  beyond : ∀ evidence ∈ outcomes, ¬ ObservesEnded evidence.outcomeKind →
    book.transitionOrdinal.toNat < evidence.transitionOrdinal.toNat
  distinct : outcomes.Pairwise fun left right =>
    left.outcomeKind ≠ right.outcomeKind ∨ left.transitionOrdinal ≠ right.transitionOrdinal

section Sequences

variable {codec : WorkingLimitCodec} {book last : Stage8bP1d3WorkingBookProjectionV1}

theorem outcomesOf_cons {step : RunStep} {steps : List RunStep} :
    outcomesOf (step :: steps) = step.result.outcome.toList ++ outcomesOf steps := by
  unfold outcomesOf
  cases reported : step.result.outcome <;> simp [reported]

theorem outcomesOf_append {front back : List RunStep} :
    outcomesOf (front ++ back) = outcomesOf front ++ outcomesOf back :=
  List.filterMap_append

theorem CancelsEndedOrdersLast.tail {step : RunStep} {steps : List RunStep}
    (ends : CancelsEndedOrdersLast (step :: steps)) : CancelsEndedOrdersLast steps := by
  intro before inner after split
  exact ends (step :: before) inner after (by rw [split]; rfl)

section Outcome

variable {ordinal : UInt64} {evidence : Stage8bP1d3OutcomeEvidenceV1} {count : Nat}

theorem Outcome.ascending (outcome : Outcome codec book ordinal evidence count) :
    (reservedSequences evidence).Pairwise (· < ·) := by
  have ordered : (List.range' (book.totalSequenceFrontier.toNat + 1) count).Pairwise (· < ·) :=
    List.pairwise_lt_range'
  rw [← outcome.sequences, List.pairwise_map] at ordered
  exact ordered.imp fun less => UInt64.lt_iff_toNat_lt.2 less

theorem Outcome.mem_bounds (outcome : Outcome codec book ordinal evidence count) {sequence : UInt64}
    (member : sequence ∈ reservedSequences evidence) :
    book.totalSequenceFrontier.toNat < sequence.toNat ∧
      sequence.toNat ≤ book.totalSequenceFrontier.toNat + count := by
  have inRange : sequence.toNat ∈ (reservedSequences evidence).map UInt64.toNat := List.mem_map_of_mem member
  rw [outcome.sequences, List.mem_range'_1] at inRange
  omega

theorem Outcome.first_sequence (outcome : Outcome codec book ordinal evidence count) (some : 0 < count) :
    ∃ sequence ∈ reservedSequences evidence, sequence.toNat = book.totalSequenceFrontier.toNat + 1 := by
  have inRange : book.totalSequenceFrontier.toNat + 1 ∈ (reservedSequences evidence).map UInt64.toNat := by
    rw [outcome.sequences, List.mem_range'_1]
    omega
  exact List.mem_map.1 inRange

end Outcome

theorem Fresh.nil (book : Stage8bP1d3WorkingBookProjectionV1) : Fresh book [] := by
  constructor <;> simp

/-- Behind a book that has allocated no less, fresh outcomes are fresh behind the earlier one. -/
theorem Fresh.earlier {post : Stage8bP1d3WorkingBookProjectionV1} {outcomes : List Stage8bP1d3OutcomeEvidenceV1}
    (fresh : Fresh post outcomes) (frontier : book.totalSequenceFrontier.toNat ≤ post.totalSequenceFrontier.toNat)
    (ordinal : book.transitionOrdinal.toNat ≤ post.transitionOrdinal.toNat) : Fresh book outcomes := by
  refine {
    ascending := fresh.ascending
    above := ?_
    behind := fun evidence member => Nat.le_trans ordinal (fresh.behind evidence member)
    beyond := fun evidence member kind => Nat.lt_of_le_of_lt ordinal (fresh.beyond evidence member kind)
    distinct := fresh.distinct }
  intro sequence member
  have above := fresh.above sequence member
  rw [UInt64.lt_iff_toNat_lt] at above ⊢
  omega

/-- An outcome that changes the book stands in front of the fresh ones behind the changed book. -/
theorem Fresh.cons {row : Stage8bP1d3OrderRecordV1} {post : Stage8bP1d3WorkingBookProjectionV1}
    {frontier : UInt64} {count : Nat} {evidence : Stage8bP1d3OutcomeEvidenceV1}
    {outcomes : List Stage8bP1d3OutcomeEvidenceV1} (written : Written codec book row frontier post)
    (outcome : Outcome codec book (book.transitionOrdinal + 1) evidence count)
    (kind : ¬ ObservesEnded evidence.outcomeKind)
    (allocates : frontier.toNat = book.totalSequenceFrontier.toNat + count) (fresh : Fresh post outcomes) :
    Fresh book (evidence :: outcomes) := by
  have ordinal : evidence.transitionOrdinal.toNat = post.transitionOrdinal.toNat := by
    have small := post.transitionOrdinal.toNat_lt
    rw [outcome.ordinal, written.ordinal, UInt64.toNat_add]
    rw [written.ordinal] at small
    exact Nat.mod_eq_of_lt small
  have next := written.ordinal
  have extended : Fresh book outcomes :=
    fresh.earlier (by rw [written.frontier, allocates]; omega) (by omega)
  constructor
  · rw [List.flatMap_cons, List.pairwise_append]
    refine ⟨outcome.ascending, fresh.ascending, ?_⟩
    intro sequence member later laterMember
    have upper := (outcome.mem_bounds member).2
    have above := fresh.above later laterMember
    rw [UInt64.lt_iff_toNat_lt, written.frontier] at above
    rw [UInt64.lt_iff_toNat_lt]
    omega
  · intro sequence member
    rw [List.flatMap_cons, List.mem_append] at member
    rcases member with own | later
    · exact UInt64.lt_iff_toNat_lt.2 (outcome.mem_bounds own).1
    · exact extended.above sequence later
  · exact List.forall_mem_cons.2 ⟨by omega, extended.behind⟩
  · exact List.forall_mem_cons.2 ⟨fun _ => by omega, extended.beyond⟩
  · refine List.pairwise_cons.2 ⟨?_, fresh.distinct⟩
    intro later member
    by_cases sameKind : evidence.outcomeKind = later.outcomeKind
    · have beyond := fresh.beyond later member (sameKind ▸ kind)
      right
      intro sameOrdinal
      rw [← sameOrdinal] at beyond
      omega
    · exact .inl sameKind

/-- An outcome that leaves the book alone is fresh behind it. -/
theorem Fresh.single {evidence : Stage8bP1d3OutcomeEvidenceV1}
    (outcome : Outcome codec book book.transitionOrdinal evidence 1) (kind : ObservesEnded evidence.outcomeKind) :
    Fresh book [evidence] := by
  constructor
  · simpa using outcome.ascending
  · intro sequence member
    simp only [List.flatMap_cons, List.flatMap_nil, List.append_nil] at member
    exact UInt64.lt_iff_toNat_lt.2 (outcome.mem_bounds member).1
  · simp [outcome.ordinal]
  · simp [kind]
  · simp

/-- The outcomes of a run are fresh behind the book it starts from. -/
theorem run_fresh {steps : List RunStep} (run : BookRun codec book steps last)
    (ends : CancelsEndedOrdersLast steps) : Fresh book (outcomesOf steps) := by
  induction run with
  | nil => exact .nil _
  | @cons first middle last step steps stepped rest ih =>
      have fresh := ih ends.tail
      obtain ⟨call, outcome, rfl, effect⟩ := stepped.effect
      rw [outcomesOf_cons]
      cases effect with
      | unchanged => exact fresh
      | evaluated noTarget origin written =>
          exact fresh.earlier (by rw [written.frontier]) (by rw [written.ordinal]; omega)
      | changed origin written outcome kind allocates =>
          exact fresh.cons written outcome (by simpa [ObservesEnded] using kind) allocates
      | recovered outcome kind ended =>
          rw [ends [] _ steps rfl ended]
          exact .single outcome kind

/-- The first outcome behind a book takes the sequence right behind its frontier. -/
theorem first_outcome_sequence {steps : List RunStep} (run : BookRun codec book steps last)
    (reports : outcomesOf steps ≠ []) :
    ∃ sequence ∈ (outcomesOf steps).flatMap reservedSequences,
      sequence.toNat = book.totalSequenceFrontier.toNat + 1 := by
  induction run with
  | nil => exact absurd rfl reports
  | @cons first middle last step steps stepped rest ih =>
      obtain ⟨call, outcome, rfl, effect⟩ := stepped.effect
      rw [outcomesOf_cons] at reports ⊢
      cases effect with
      | unchanged => exact ih reports
      | evaluated noTarget origin written =>
          rw [← written.frontier]
          exact ih reports
      | changed origin written outcome kind allocates some =>
          obtain ⟨sequence, member, next⟩ := outcome.first_sequence some
          exact ⟨sequence, List.mem_flatMap.2 ⟨_, List.mem_cons_self, member⟩, next⟩
      | recovered outcome =>
          obtain ⟨sequence, member, next⟩ := outcome.first_sequence (by decide)
          exact ⟨sequence, List.mem_flatMap.2 ⟨_, List.mem_cons_self, member⟩, next⟩

/-- An outcome behind the cancel of an ended order takes that cancel's sequence again. -/
theorem cancels_last_of_ascending {steps : List RunStep} (run : BookRun codec book steps last)
    (ascending : ((outcomesOf steps).flatMap reservedSequences).Pairwise (· < ·)) :
    CancelsEndedOrdersLast steps := by
  intro before step after split ended
  rw [split] at run
  obtain ⟨middle, _, back⟩ := run.split
  cases back with
  | @cons _ post _ _ _ stepped rest =>
      obtain ⟨call, outcome, rfl, effect⟩ := stepped.effect
      obtain ⟨target, isTarget, record, found, notActive⟩ := ended
      by_contra reports
      obtain ⟨again, againMember, againNext⟩ := first_outcome_sequence rest reports
      cases effect with
      | unchanged noTarget =>
          cases noTarget.symm.trans isTarget
      | evaluated noTarget =>
          cases noTarget.symm.trans isTarget
      | changed _ _ _ _ _ _ opens =>
          exact notActive (opens target isTarget record found)
      | recovered outcome =>
          obtain ⟨sequence, member, next⟩ := outcome.first_sequence (by decide)
          rw [split, outcomesOf_append, List.flatMap_append, List.pairwise_append] at ascending
          have behind := ascending.2.1
          rw [outcomesOf_cons, List.flatMap_append, List.pairwise_append] at behind
          have less := behind.2.2 sequence (List.mem_flatMap.2 ⟨_, List.mem_cons_self, member⟩) again againMember
          rw [UInt64.lt_iff_toNat_lt] at less
          omega

theorem run_outcomes_valid {steps : List RunStep} (run : BookRun codec book steps last) :
    ∀ evidence ∈ outcomesOf steps, evidence.validate codec.toOutcomeEvidenceCodec = .ok () := by
  induction run with
  | nil => simp [outcomesOf]
  | cons stepped rest ih =>
      obtain ⟨call, outcome, rfl, effect⟩ := stepped.effect
      rw [outcomesOf_cons]
      cases effect with
      | unchanged => exact ih
      | evaluated => exact ih
      | changed origin written outcome => exact List.forall_mem_cons.2 ⟨outcome.valid, ih⟩
      | recovered outcome => exact List.forall_mem_cons.2 ⟨outcome.valid, ih⟩

/-- Fresh outcomes have distinct record ids, where the hash does not collide on them. -/
theorem Fresh.distinct_ids {outcomes : List Stage8bP1d3OutcomeEvidenceV1} (fresh : Fresh book outcomes)
    (valid : ∀ evidence ∈ outcomes, evidence.validate codec.toOutcomeEvidenceCodec = .ok ())
    (free : CollisionFree codec.toDurableRecordCodec (outcomes.map outcomeIdPreimage)) :
    (outcomes.map (·.stage6OutcomeRecordId)).Nodup := by
  rw [List.Nodup, List.pairwise_map]
  refine fresh.distinct.imp_of_mem ?_
  intro left right leftMember rightMember differ same
  rw [outcomeRecordId_eq_hash (valid left leftMember), outcomeRecordId_eq_hash (valid right rightMember)] at same
  have samePreimage := free _ (List.mem_map_of_mem leftMember) _ (List.mem_map_of_mem rightMember)
    (Sha256Output.hex_injective same)
  obtain ⟨sameKind, sameOrdinal⟩ := outcomeIdPreimage_injective samePreimage
  exact differ.elim (fun kinds => kinds sameKind) fun ordinals => ordinals sameOrdinal

/-- A run gives no sequence and no record id out twice exactly if the cancel of an
order that had ended is the last outcome of the run. -/
theorem reuses_nothing_iff {steps : List RunStep} (run : BookRun codec book steps last)
    (free : CollisionFree codec.toDurableRecordCodec ((outcomesOf steps).map outcomeIdPreimage)) :
    ReusesNothing (outcomesOf steps) ↔ CancelsEndedOrdersLast steps := by
  constructor
  · exact fun reusesNothing => cancels_last_of_ascending run reusesNothing.1
  · intro ends
    have fresh := run_fresh run ends
    exact ⟨fresh.ascending, fresh.distinct_ids (run_outcomes_valid run) free⟩

end Sequences

/-- The expired order is canceled twice, and the two cancels take the same sequence. -/
theorem reuses_nothing_iff_canceledTwice :
    ∃ run : SampleRun, BookRun (plainWorkingLimitCodec []) run.genesis (run.steps ++ run.continued) run.later ∧
      CollisionFree plainCodec.toDurableRecordCodec
        ((outcomesOf (run.steps ++ run.continued)).map outcomeIdPreimage) ∧
      (ReusesNothing (outcomesOf (run.steps ++ run.continued)) ↔
        CancelsEndedOrdersLast (run.steps ++ run.continued)) := by
  obtain ⟨run, computed, holds⟩ := (Option.any_eq_true _ _).1 sampleRuns_computed.2.2
  obtain ⟨_, _, free⟩ := of_decide_eq_true holds
  obtain ⟨_, _, ran, goesOn⟩ := sampleRun_eq_some computed
  exact ⟨run, ran.append goesOn, free, reuses_nothing_iff (ran.append goesOn) free⟩

/-- Two cancels of the expired order share their sequence and their record id. -/
theorem second_cancel_reuses :
    ∃ (attribution : HybridRuntimeAttribution) (run : SampleRun), sampleGenesis attribution = .ok run.genesis ∧
      BookRun (plainWorkingLimitCodec []) run.genesis run.steps run.book ∧
      BookRun (plainWorkingLimitCodec []) run.book run.continued run.later ∧
      ¬ ((outcomesOf run.continued).flatMap reservedSequences).Pairwise (· < ·) ∧
      ¬ ((outcomesOf run.continued).map (·.stage6OutcomeRecordId)).Nodup := by
  obtain ⟨run, computed, holds⟩ := (Option.any_eq_true _ _).1 sampleRuns_computed.2.2
  obtain ⟨notAscending, notDistinct, _⟩ := of_decide_eq_true holds
  obtain ⟨attribution, migrated, ran, goesOn⟩ := sampleRun_eq_some computed
  exact ⟨attribution, run, migrated, ran, goesOn, notAscending, notDistinct⟩

end TradingGateway.Stage8b.WorkingLimitRuns
