import TradingGateway.Stage8b.ScheduleWindow

/-! The retained rows of an accepted window and the durable high water: when they are rows of one history. -/

set_option autoImplicit false

namespace TradingGateway.Stage8b.ScheduleWindow

open BrokerCore.Orders.DateTimeUtc
open Stage5e.ScheduleEnvelope Stage5e.ScheduleVerifier
open Foundation.ExceptRun

/-- What two rows of one publisher have in common, the first of them the older one. -/
structure Coheres (older newer : Stage8bP1eScheduleHighWaterV1) : Prop where
  generation : older.sourceGeneration = newer.sourceGeneration
  same : older.publicationSequence = newer.publicationSequence → older = newer
  later : older.publicationSequence < newer.publicationSequence →
    newer.publishedAtUtc.After older.publishedAtUtc ∧ older.semanticRevision ≤ newer.semanticRevision
  schedule : older.semanticRevision = newer.semanticRevision →
    older.scheduleSemanticSha256 = newer.scheduleSemanticSha256

instance (older newer : Stage8bP1eScheduleHighWaterV1) : Decidable (Coheres older newer) :=
  decidable_of_iff (older.sourceGeneration = newer.sourceGeneration ∧
      (older.publicationSequence = newer.publicationSequence → older = newer) ∧
      (older.publicationSequence < newer.publicationSequence →
        newer.publishedAtUtc.After older.publishedAtUtc ∧ older.semanticRevision ≤ newer.semanticRevision) ∧
      (older.semanticRevision = newer.semanticRevision →
        older.scheduleSemanticSha256 = newer.scheduleSemanticSha256))
    ⟨fun ⟨generation, same, later, schedule⟩ => ⟨generation, same, later, schedule⟩,
      fun coheres => ⟨coheres.generation, coheres.same, coheres.later, coheres.schedule⟩⟩

def OneHistory (rows : List Stage8bP1eScheduleHighWaterV1) : Prop :=
  ∀ left ∈ rows, ∀ right ∈ rows, Coheres left right

instance (rows : List Stage8bP1eScheduleHighWaterV1) : Decidable (OneHistory rows) :=
  inferInstanceAs (Decidable (∀ left ∈ rows, ∀ right ∈ rows, Coheres left right))

/-- The nearest rows on both sides of the high water, newest first, do not conflict with it as neighbours. -/
def StandsBetween (highWater : Stage8bP1eScheduleHighWaterV1) (rows : List Stage8bP1eScheduleHighWaterV1) : Prop :=
  (∀ above ∈ (rows.filter fun row => highWater.publicationSequence < row.publicationSequence).getLast?,
    ¬ Conflicts (.fromHighWater above) (.fromHighWater highWater)) ∧
  ∀ below ∈ (rows.filter fun row => row.publicationSequence < highWater.publicationSequence).head?,
    ¬ Conflicts (.fromHighWater highWater) (.fromHighWater below)

instance (highWater : Stage8bP1eScheduleHighWaterV1) (rows : List Stage8bP1eScheduleHighWaterV1) :
    Decidable (StandsBetween highWater rows) :=
  inferInstanceAs (Decidable (_ ∧ _))

theorem fromHighWater_injective : Function.Injective ScheduleWindowPoint.fromHighWater := by
  intro left right same
  cases left
  cases right
  unfold ScheduleWindowPoint.fromHighWater at same
  simpa using same

section Rows

variable {newer older : Stage8bP1eScheduleHighWaterV1}

/-- Neighbours that do not conflict follow one another. -/
theorem succeeds_of_not_conflicts (agree : ¬ Conflicts (.fromHighWater newer) (.fromHighWater older)) :
    Succeeds newer older := by
  unfold Conflicts at agree
  simp only [not_or, not_and, not_not] at agree
  obtain ⟨generation, sequence, _, revision, same, later, schedule⟩ := agree
  rcases UInt64.lt_or_eq_of_le (UInt64.not_lt.1 sequence) with before | equal
  · exact .inr ⟨generation.symm, before, later before, UInt64.not_lt.1 revision, schedule⟩
  · exact .inl (fromHighWater_injective (same equal)).symm

theorem Succeeds.coheres (succeeds : Succeeds newer older) : Coheres older newer ∧ Coheres newer older := by
  rcases succeeds with rfl | ⟨generation, sequence, time, revision, schedule⟩
  · have self : Coheres newer newer :=
      ⟨rfl, fun _ => rfl, fun impossible => absurd impossible (UInt64.lt_irrefl _), fun _ => rfl⟩
    exact ⟨self, self⟩
  · have notEqual : older.publicationSequence ≠ newer.publicationSequence := UInt64.ne_of_lt sequence
    constructor
    · exact ⟨generation.symm, fun same => absurd same notEqual, fun _ => ⟨time, revision⟩, schedule⟩
    · exact ⟨generation, fun same => absurd same.symm notEqual,
        fun impossible => absurd impossible (UInt64.lt_asymm sequence), fun same => (schedule same.symm).symm⟩

theorem Coheres.succeeds (coheres : Coheres older newer) (sequence : older.publicationSequence < newer.publicationSequence) :
    Succeeds newer older :=
  .inr ⟨coheres.generation.symm, sequence, (coheres.later sequence).1, (coheres.later sequence).2, coheres.schedule⟩

end Rows

section Window

variable {rows : List Stage8bP1eScheduleHighWaterV1} {highWater : Stage8bP1eScheduleHighWaterV1}

/-- The loop compares neighbours only, but following one another is transitive. -/
theorem pairwise_of_validateNeighbours (valid : validateNeighbours (rows.map .fromHighWater) = .ok ()) :
    rows.Pairwise Succeeds := by
  induction rows with
  | nil => exact .nil
  | cons newer rest ih =>
      cases rest with
      | nil => exact List.pairwise_singleton Succeeds newer
      | cons older rest =>
          rw [List.map_cons, List.map_cons, validateNeighbours] at valid
          obtain ⟨agree, below⟩ := check_bind_ok_iff.1 valid
          have front := succeeds_of_not_conflicts ((rejectIf_ok_iff ..).1 agree)
          have ordered := ih below
          refine List.pairwise_cons.2 ⟨?_, ordered⟩
          intro row member
          rcases List.mem_cons.1 member with rfl | further
          · exact front
          · exact front.trans ((List.pairwise_cons.1 ordered).1 row further)

theorem oneHistory_of_pairwise (ordered : rows.Pairwise Succeeds) : OneHistory rows := by
  have both : rows.Pairwise fun newer older => Coheres older newer ∧ Coheres newer older :=
    ordered.imp Succeeds.coheres
  have self : ∀ row ∈ rows, Coheres row row ∧ Coheres row row := fun row _ => (Succeeds.refl row).coheres
  have flipped : rows.Pairwise (flip fun newer older => Coheres older newer ∧ Coheres newer older) :=
    both.imp And.symm
  intro left leftMember right rightMember
  exact (both.forall_of_forall_of_flip self flipped leftMember rightMember).2

/-- The rows above the high water reach down to the nearest of them. -/
theorem succeeds_last {above last : Stage8bP1eScheduleHighWaterV1} (ordered : rows.Pairwise Succeeds) (member : above ∈ rows)
    (isLast : rows.getLast? = some last) : Succeeds above last := by
  obtain ⟨front, rfl⟩ := List.getLast?_eq_some_iff.1 isLast
  rcases List.mem_append.1 member with before | same
  · exact (List.pairwise_append.1 ordered).2.2 above before last (List.mem_singleton_self last)
  · rw [List.mem_singleton.1 same]
    exact .refl last

theorem head_succeeds {below first : Stage8bP1eScheduleHighWaterV1} (ordered : rows.Pairwise Succeeds) (member : below ∈ rows)
    (isFirst : rows.head? = some first) : Succeeds first below := by
  obtain ⟨rest, rfl⟩ := List.head?_eq_some_iff.1 isFirst
  rcases List.mem_cons.1 member with rfl | further
  · exact .refl below
  · exact (List.pairwise_cons.1 ordered).1 below further

/-- A row that shares the sequence of the high water is the high water; the others go through its neighbours. -/
theorem coheres_highWater (ordered : rows.Pairwise Succeeds)
    (retained : ∀ row ∈ rows, row.publicationSequence = highWater.publicationSequence → row = highWater)
    (stands : StandsBetween highWater rows) {row : Stage8bP1eScheduleHighWaterV1} (member : row ∈ rows) :
    Coheres row highWater ∧ Coheres highWater row := by
  by_cases same : row.publicationSequence = highWater.publicationSequence
  · rw [retained row member same]
    exact (Succeeds.refl highWater).coheres
  rcases UInt64.lt_or_lt_of_ne same with before | behind
  · have isBelow : row ∈ rows.filter fun row => row.publicationSequence < highWater.publicationSequence := by
      simp [member, before]
    obtain ⟨first, isFirst⟩ := Option.isSome_iff_exists.1 (List.isSome_head?.2 (List.ne_nil_of_mem isBelow))
    have reaches := head_succeeds (ordered.filter _) isBelow isFirst
    exact ((succeeds_of_not_conflicts (stands.2 first isFirst)).trans reaches).coheres
  · have isAbove : row ∈ rows.filter fun row => highWater.publicationSequence < row.publicationSequence := by
      simp [member, behind]
    obtain ⟨last, isLast⟩ := Option.isSome_iff_exists.1 (List.getLast?_isSome.2 (List.ne_nil_of_mem isAbove))
    have reaches := succeeds_last (ordered.filter _) isAbove isLast
    exact (reaches.trans (succeeds_of_not_conflicts (stands.1 last isLast))).coheres.symm

theorem oneHistory_concat (ordered : rows.Pairwise Succeeds)
    (coherent : ∀ row ∈ rows, Coheres row highWater ∧ Coheres highWater row) : OneHistory (rows ++ [highWater]) := by
  intro left leftMember right rightMember
  rcases List.mem_append.1 leftMember with leftRow | leftHigh <;>
    rcases List.mem_append.1 rightMember with rightRow | rightHigh
  · exact oneHistory_of_pairwise ordered left leftRow right rightRow
  · rw [List.mem_singleton.1 rightHigh]
    exact (coherent left leftRow).1
  · rw [List.mem_singleton.1 leftHigh]
    exact (coherent right rightRow).2
  · rw [List.mem_singleton.1 leftHigh, List.mem_singleton.1 rightHigh]
    exact (Succeeds.refl highWater).coheres.1

theorem standsBetween_of_oneHistory (history : OneHistory (rows ++ [highWater])) : StandsBetween highWater rows := by
  have known : highWater ∈ rows ++ [highWater] := by simp
  constructor
  · intro above isLast
    have member := List.mem_filter.1 (List.mem_of_getLast? isLast)
    have coheres := history highWater known above (List.mem_append_left _ member.1)
    exact (coheres.succeeds (by simpa using member.2)).not_conflicts
  · intro below isFirst
    have member := List.mem_filter.1 (List.mem_of_head? isFirst)
    have coheres := history below (List.mem_append_left _ member.1) highWater known
    exact (coheres.succeeds (by simpa using member.2)).not_conflicts

end Window

theorem validateProgression_generation {highWater newest : Stage8bP1eScheduleHighWaterV1}
    {progression : Stage8bP1eScheduleProgressionV1} (progresses : validateProgression (some highWater) newest = .ok progression) :
    newest.sourceGeneration = highWater.sourceGeneration := by
  unfold validateProgression at progresses
  obtain ⟨agree, _⟩ := check_bind_ok_iff.1 progresses
  exact not_not.1 ((rejectIf_ok_iff ..).1 agree)

theorem validateBoundedProgression_ok {rows : List Stage8bP1eScheduleHighWaterV1}
    {highWater : Option Stage8bP1eScheduleHighWaterV1}
    (bounded : validateBoundedProgression (rows.map .fromHighWater) (highWater.map .fromHighWater) = .ok ()) :
    rows.Pairwise Succeeds ∧ ∀ known ∈ highWater, ∀ row ∈ rows, row.sourceGeneration = known.sourceGeneration →
      row.publicationSequence = known.publicationSequence → row = known := by
  unfold validateBoundedProgression at bounded
  obtain ⟨neighbours, bounded⟩ := check_bind_ok_iff.1 bounded
  refine ⟨pairwise_of_validateNeighbours neighbours, ?_⟩
  intro known isKnown row member generation sequence
  cases isKnown
  have none := (rejectIf_ok_iff ..).1 bounded
  by_contra differs
  exact none ⟨.fromHighWater row, List.mem_map_of_mem member, generation, sequence,
    fun same => differs (fromHighWater_injective same)⟩

/-- The rows of an accepted window are rows of one history, and the high water is of the same one exactly when
it does not conflict with the nearest retained rows on its two sides. -/
theorem accepted_window_one_history_iff {newest : Stage8bP1eScheduleHighWaterV1}
    {older : List Stage8bP1eScheduleHighWaterV1} {highWater : Option Stage8bP1eScheduleHighWaterV1}
    {progression : Stage8bP1eScheduleProgressionV1} (progresses : validateProgression highWater newest = .ok progression)
    (bounded : validateBoundedProgression ((newest :: older).map .fromHighWater) (highWater.map .fromHighWater) = .ok ()) :
    OneHistory (newest :: older ++ highWater.toList) ↔ ∀ known ∈ highWater, StandsBetween known (newest :: older) := by
  obtain ⟨ordered, retained⟩ := validateBoundedProgression_ok bounded
  cases highWater with
  | none =>
      rw [Option.toList_none, List.append_nil]
      exact iff_of_true (oneHistory_of_pairwise ordered) (by simp)
  | some known =>
      have generation := validateProgression_generation progresses
      have sameGeneration : ∀ row ∈ newest :: older, row.sourceGeneration = known.sourceGeneration := by
        intro row member
        have coheres := oneHistory_of_pairwise ordered row member newest List.mem_cons_self
        exact coheres.generation.trans generation
      constructor
      · intro history known' isKnown
        cases isKnown
        exact standsBetween_of_oneHistory history
      · intro stands
        refine oneHistory_concat ordered ?_
        intro row member
        refine coheres_highWater ordered ?_ (stands known rfl) member
        intro other isRow
        exact retained known rfl other isRow (sameGeneration other isRow)

section Sample

def sampleRow (sequence revision : UInt64) (second : Int) (schedule : Char) : Stage8bP1eScheduleHighWaterV1 where
  envelopeSha256 := [schedule]
  publicationSequence := sequence
  publishedAtUtc := { seconds := second, nanos := 0 }
  scheduleSemanticSha256 := [schedule]
  semanticRevision := revision
  sourceGeneration := 1

/-- Rows ten and seven are retained, the eighth is durable. -/
theorem accepted_window_one_history_between :
    OneHistory [sampleRow 10 3 30 'c', sampleRow 7 1 10 'a', sampleRow 8 2 20 'b'] :=
  (@accepted_window_one_history_iff (sampleRow 10 3 30 'c') [sampleRow 7 1 10 'a'] (some (sampleRow 8 2 20 'b'))
    .monotonicSnapshot (by decide) (by decide)).2 (by decide)

/-- The seventh row is newer than the durable fifth one, but published before it, and it shows another schedule
under the same revision. -/
theorem retained_row_contradicts_highWater :
    ∃ newest older highWater, validateProgression (some highWater) newest = .ok .monotonicSnapshot ∧
      validateBoundedProgression ((newest :: older).map .fromHighWater) (some (.fromHighWater highWater)) = .ok () ∧
      ¬ OneHistory (newest :: older ++ [highWater]) :=
  ⟨sampleRow 10 3 30 'c', [sampleRow 7 1 10 'b'], sampleRow 5 1 20 'a', by decide, by decide, by decide⟩

end Sample

end TradingGateway.Stage8b.ScheduleWindow
