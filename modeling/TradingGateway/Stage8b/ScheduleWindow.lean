import TradingGateway.Stage5e.ScheduleVerifierProperties

/-! How the newest rows of the schedule stream are held against each other and against the
durable high water. -/

set_option autoImplicit false

namespace TradingGateway.Stage8b.ScheduleWindow

open BrokerCore.Orders BrokerCore.Orders.DateTimeUtc
open Stage5e.ScheduleSource Stage5e.ScheduleEnvelope Stage5e.ScheduleVerifier
open Stage6.JournalRecord Foundation.ExceptRun

structure ScheduleWindowPoint where
  envelopeSha256 : HexText
  publicationSequence : UInt64
  publishedAtUtc : DateTimeUtc
  scheduleSemanticSha256 : HexText
  semanticRevision : UInt64
  sourceGeneration : UInt64
deriving DecidableEq

def ScheduleWindowPoint.fromHighWater (value : Stage8bP1eScheduleHighWaterV1) : ScheduleWindowPoint where
  envelopeSha256 := value.envelopeSha256
  publicationSequence := value.publicationSequence
  publishedAtUtc := value.publishedAtUtc
  scheduleSemanticSha256 := value.scheduleSemanticSha256
  semanticRevision := value.semanticRevision
  sourceGeneration := value.sourceGeneration

/-- Two neighbours of a window that one publisher cannot have written in this order. -/
def Conflicts (newer older : ScheduleWindowPoint) : Prop :=
  older.sourceGeneration ≠ newer.sourceGeneration ∨ newer.publicationSequence < older.publicationSequence ∨
    older.publishedAtUtc.After newer.publishedAtUtc ∨ newer.semanticRevision < older.semanticRevision ∨
    (older.publicationSequence = newer.publicationSequence ∧ older ≠ newer) ∨
    (older.publicationSequence < newer.publicationSequence ∧ ¬ newer.publishedAtUtc.After older.publishedAtUtc) ∨
    (older.semanticRevision = newer.semanticRevision ∧ older.scheduleSemanticSha256 ≠ newer.scheduleSemanticSha256)

instance (newer older : ScheduleWindowPoint) : Decidable (Conflicts newer older) :=
  inferInstanceAs (Decidable (_ ∨ _))

def validateNeighbours : List ScheduleWindowPoint → Except Stage8bP1eScheduleSourceError Unit
  | newer :: older :: rest => do
      rejectIf (Conflicts newer older) .progressionConflict
      validateNeighbours (older :: rest)
  | _ => .ok ()

def validateBoundedProgression (newestToOldest : List ScheduleWindowPoint)
    (durableHighWater : Option ScheduleWindowPoint) : Except Stage8bP1eScheduleSourceError Unit := do
  validateNeighbours newestToOldest
  match durableHighWater with
  | none => .ok ()
  | some highWater =>
      rejectIf (∃ retained ∈ newestToOldest, retained.sourceGeneration = highWater.sourceGeneration ∧
        retained.publicationSequence = highWater.publicationSequence ∧ retained ≠ highWater) .progressionConflict

def rowHighWater (codec : EnvelopeCodec) (exactEnvelopeBytes : List UInt8) :
    Except Stage8bP1eScheduleSourceError Stage8bP1eScheduleHighWaterV1 := do
  let envelope ← orReject (codec.envelopeFromSlice exactEnvelopeBytes) .nonCanonicalEnvelope
  highWaterFromEnvelope codec envelope (sha256Hex codec exactEnvelopeBytes)

theorem rowHighWater_of_authenticate {codec : EnvelopeCodec} {anchor : TrustAnchor} {exactEnvelopeBytes : List UInt8}
    {context : Stage8bP1eScheduleVerificationContextV1} {highWater : Stage8bP1eScheduleHighWaterV1}
    (authentic : authenticateObservation codec anchor exactEnvelopeBytes context = .ok highWater) :
    rowHighWater codec exactEnvelopeBytes = .ok highWater := by
  unfold authenticateObservation at authentic
  dsimp only at authentic
  obtain ⟨envelope, opened, authentic⟩ := bind_ok_iff.1 authentic
  obtain ⟨_, authentic⟩ := check_bind_ok_iff.1 authentic
  obtain ⟨_, _, authentic⟩ := bind_ok_iff.1 authentic
  obtain ⟨_, _, authentic⟩ := bind_ok_iff.1 authentic
  obtain ⟨_, authentic⟩ := check_bind_ok_iff.1 authentic
  obtain ⟨_, _, authentic⟩ := bind_ok_iff.1 authentic
  obtain ⟨_, authentic⟩ := check_bind_ok_iff.1 authentic
  obtain ⟨_, _, authentic⟩ := bind_ok_iff.1 authentic
  obtain ⟨_, authentic⟩ := check_bind_ok_iff.1 authentic
  obtain ⟨_, made⟩ := check_bind_ok_iff.1 authentic
  obtain ⟨read, _⟩ := openEnvelope_ok_iff.1 opened
  unfold rowHighWater
  rw [orReject_bind_of_some read, made]

/-- A row that may stand above another one: the same row, or a later publication of one generation that
keeps the revision of a schedule as long as the schedule. -/
def Succeeds (newer older : Stage8bP1eScheduleHighWaterV1) : Prop :=
  newer = older ∨
    (newer.sourceGeneration = older.sourceGeneration ∧ older.publicationSequence < newer.publicationSequence ∧
      newer.publishedAtUtc.After older.publishedAtUtc ∧ older.semanticRevision ≤ newer.semanticRevision ∧
      (older.semanticRevision = newer.semanticRevision → older.scheduleSemanticSha256 = newer.scheduleSemanticSha256))

section Order

variable {newer middle older : Stage8bP1eScheduleHighWaterV1}

theorem Succeeds.refl (row : Stage8bP1eScheduleHighWaterV1) : Succeeds row row :=
  .inl rfl

theorem Succeeds.trans (front : Succeeds newer middle) (back : Succeeds middle older) : Succeeds newer older := by
  rcases front with rfl | ⟨frontGeneration, frontSequence, frontTime, frontRevision, frontSchedule⟩
  · exact back
  rcases back with rfl | ⟨backGeneration, backSequence, backTime, backRevision, backSchedule⟩
  · exact .inr ⟨frontGeneration, frontSequence, frontTime, frontRevision, frontSchedule⟩
  refine .inr ⟨frontGeneration.trans backGeneration, UInt64.lt_trans backSequence frontSequence,
    frontTime.trans backTime, UInt64.le_trans backRevision frontRevision, ?_⟩
  intro same
  have first : older.semanticRevision = middle.semanticRevision := by
    refine UInt64.le_antisymm backRevision ?_
    rw [same]
    exact frontRevision
  exact (backSchedule first).trans (frontSchedule (first.symm.trans same))

theorem Succeeds.not_conflicts (succeeds : Succeeds newer older) :
    ¬ Conflicts (.fromHighWater newer) (.fromHighWater older) := by
  rcases succeeds with rfl | ⟨generation, sequence, time, revision, schedule⟩
  · unfold Conflicts
    simp [after_irrefl]
  · have notEqual : older.publicationSequence ≠ newer.publicationSequence := UInt64.ne_of_lt sequence
    unfold Conflicts ScheduleWindowPoint.fromHighWater
    simp only [not_or, not_and, not_not]
    exact ⟨generation.symm, UInt64.not_lt.2 (UInt64.le_of_lt sequence), time.asymm, UInt64.not_lt.2 revision,
      fun same => absurd same notEqual, fun _ => time, schedule⟩

/-- The newest row may be taken over from any older one that is durable. -/
theorem Succeeds.validateProgression (succeeds : Succeeds newer older) :
    ∃ progression, validateProgression (some older) newer = .ok progression := by
  rcases succeeds with rfl | ⟨generation, sequence, time, revision, schedule⟩
  · exact ⟨.idempotent, validateProgression_self newer⟩
  · have notEqual : newer.publicationSequence ≠ older.publicationSequence := (UInt64.ne_of_lt sequence).symm
    refine ⟨.monotonicSnapshot, ?_⟩
    unfold Stage5e.ScheduleVerifier.validateProgression
    have forward : ¬ (newer.publicationSequence < older.publicationSequence ∨
        older.publishedAtUtc.After newer.publishedAtUtc ∨ newer.semanticRevision < older.semanticRevision) := by
      rw [not_or, not_or, UInt64.not_lt, UInt64.not_lt]
      exact ⟨UInt64.le_of_lt sequence, time.asymm, revision⟩
    have fresh : ¬ (¬ newer.publishedAtUtc.After older.publishedAtUtc ∨
        (newer.semanticRevision = older.semanticRevision ∧
          newer.scheduleSemanticSha256 ≠ older.scheduleSemanticSha256)) := by
      rw [not_or, not_not, not_and, not_not]
      exact ⟨time, fun same => (schedule same.symm).symm⟩
    dsimp only
    rw [rejectIf_of_not _ (not_not.2 generation), ok_bind, rejectIf_of_not _ forward, ok_bind, if_neg notEqual,
      rejectIf_of_not _ fresh, ok_bind]

end Order

section Window

variable {rows : List Stage8bP1eScheduleHighWaterV1}

theorem validateNeighbours_of_pairwise (ordered : rows.Pairwise Succeeds) :
    validateNeighbours (rows.map .fromHighWater) = .ok () := by
  induction rows with
  | nil => rfl
  | cons newer rest ih =>
      obtain ⟨above, below⟩ := List.pairwise_cons.1 ordered
      cases rest with
      | nil => rfl
      | cons older rest =>
          have kept := (above older List.mem_cons_self).not_conflicts
          rw [List.map_cons, List.map_cons, validateNeighbours, rejectIf_of_not _ kept, ok_bind]
          exact ih below

/-- Two rows of one publisher that share a sequence are the same row. -/
theorem eq_of_sequence (ordered : rows.Pairwise Succeeds) {left right : Stage8bP1eScheduleHighWaterV1}
    (leftMember : left ∈ rows) (rightMember : right ∈ rows)
    (same : left.publicationSequence = right.publicationSequence) : left = right := by
  have alike : rows.Pairwise fun newer older => newer.publicationSequence = older.publicationSequence → newer = older := by
    refine ordered.imp ?_
    intro newer older succeeds equal
    rcases succeeds with rfl | ⟨_, sequence, _⟩
    · rfl
    · exact absurd equal.symm (UInt64.ne_of_lt sequence)
  have flipped : rows.Pairwise (flip fun newer older : Stage8bP1eScheduleHighWaterV1 =>
      newer.publicationSequence = older.publicationSequence → newer = older) :=
    alike.imp fun equal same => (equal same.symm).symm
  exact alike.forall_of_forall_of_flip (fun _ _ _ => rfl) flipped leftMember rightMember same

/-- What the reader asks of the newest rows holds of the rows of a publisher: no two of them conflict, with
each other or with a high water that is one of the rows. -/
theorem validateBoundedProgression_of_pairwise (ordered : rows.Pairwise Succeeds) (count : Nat)
    {highWater : Option Stage8bP1eScheduleHighWaterV1} (known : ∀ row ∈ highWater, row ∈ rows) :
    validateBoundedProgression ((rows.take count).map .fromHighWater) (highWater.map .fromHighWater) = .ok () := by
  unfold validateBoundedProgression
  rw [validateNeighbours_of_pairwise (ordered.sublist (List.take_sublist count rows)), ok_bind]
  cases highWater with
  | none => rfl
  | some highWater =>
      refine rejectIf_of_not _ ?_
      rintro ⟨point, member, _, sequence, differs⟩
      obtain ⟨row, rowMember, rfl⟩ := List.mem_map.1 member
      have same := eq_of_sequence ordered (List.mem_of_mem_take rowMember) (known highWater rfl) sequence
      exact differs (congrArg ScheduleWindowPoint.fromHighWater same)

/-- The newest row goes on from any high water that is one of the rows. -/
theorem validateProgression_of_pairwise {newest : Stage8bP1eScheduleHighWaterV1}
    (ordered : (newest :: rows).Pairwise Succeeds) {highWater : Option Stage8bP1eScheduleHighWaterV1}
    (known : ∀ row ∈ highWater, row ∈ newest :: rows) :
    ∃ progression, validateProgression highWater newest = .ok progression := by
  cases highWater with
  | none => exact ⟨.bootstrap, rfl⟩
  | some highWater =>
      rcases List.mem_cons.1 (known highWater rfl) with rfl | older
      · exact (Succeeds.refl highWater).validateProgression
      · exact ((List.pairwise_cons.1 ordered).1 highWater older).validateProgression

end Window

end TradingGateway.Stage8b.ScheduleWindow
