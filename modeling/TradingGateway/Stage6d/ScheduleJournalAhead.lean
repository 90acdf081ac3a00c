import TradingGateway.Stage6.MixedReplayLedgers
import TradingGateway.Stage6.PlainScheduleCodec
import TradingGateway.Stage6d.LiveCoreErrors

/-! The classifier of a journal that is one schedule binding ahead of its checkpoint. -/

set_option autoImplicit false

namespace TradingGateway.Stage6d.ScheduleJournalAhead

open Stage6.JournalRecord
open Stage6.VersionedRecord Stage6.JournalFrames Stage6.MemoryJournal Stage6.MixedReplay
open Stage6.PlainScheduleCodec Stage8b.WorkingLimitEvidence LiveCore
open Foundation.ExceptRun

section Classifier

variable {codec : CheckpointCodec}

abbrev Journal (codec : CheckpointCodec) :=
  List (Stage6JournalRecordVersioned codec.toReconciliationCodec)

/-- The last part of the classifier: the binding stands behind the frontier of
the prefix, and it is the only one that the whole journal replays. -/
def classifyScheduleBinding (records : Journal codec) (previousRecordId : Stage6JournalRecordId)
    (previousSequence : Stage6LifecycleSequence) (candidate : Stage6JournalRecordV4 codec.toReconciliationCodec) :
    Except Stage6dLiveCoreHalt (Option (Stage6JournalRecordV4 codec.toReconciliationCodec)) := do
  if candidate.previousRecordId ≠ previousRecordId then .ok none
  else
    let expected ← orReject (checkedAdd previousSequence.value 1) (.rejected .durableOrderingViolation)
    if candidate.parsedLifecycleSequence.value ≠ expected then .ok none
    else
      let replay ← (Stage6MixedReplayEngineV2.replay records).mapError reconciliationHalt
      if replay.scheduleBindingRecords.length ≠ 1 ∨
          replay.scheduleBindingRecords.getLast?.map (·.encodeCanonical) ≠ some candidate.encodeCanonical then
        .ok none
      else .ok (some candidate)

/-- `classify_stage8b_p1e_schedule_journal_ahead_candidate`. -/
def classifyStage8bP1eScheduleJournalAheadCandidate (records : Journal codec)
    (predecessorCheckpoint : Stage6JournalCheckpointV1) :
    Except Stage6dLiveCoreHalt (Option (Stage6JournalRecordV4 codec.toReconciliationCodec)) := do
  let prefixLen := predecessorCheckpoint.frontier.frameCount
  if records.length ≠ prefixLen + 1 then .ok none
  else
    let covered ← (memoryJournalOf (records.take prefixLen)).mapError journalHalt
    if (validateCheckpointAgainstScan codec predecessorCheckpoint covered.scan).isOk = false then .ok none
    else
      match covered.scan.frontier.lastRecordId, covered.scan.frontier.lastLifecycleSequence, records[prefixLen]? with
      | some previousRecordId, some previousSequence, some (.v4 candidate) =>
          classifyScheduleBinding records previousRecordId previousSequence candidate
      | _, _, _ => .ok none

end Classifier

section Purpose

variable {codec : CheckpointCodec}

/-- The suffix that a crash behind one more schedule binding leaves: that record
alone, chained to the last one of the covered part. -/
def uncoveredScheduleBinding (covered suffix : Journal codec) :
    Option (Stage6JournalRecordV4 codec.toReconciliationCodec) :=
  match covered.getLast?, suffix with
  | some last, [.v4 candidate] =>
      if candidate.previousRecordId = last.journalRecordId ∧
          checkedAdd last.lifecycleSequence.value 1 = some candidate.parsedLifecycleSequence.value then
        some candidate
      else none
  | _, _ => none

/-- The covered part holds no schedule binding but copies of the uncovered one. -/
def NoEarlierScheduleBinding (covered suffix : Journal codec) : Prop :=
  ∀ candidate, uncoveredScheduleBinding covered suffix = some candidate →
    ∀ binding, .v4 binding ∈ covered → binding.encodeCanonical = candidate.encodeCanonical

theorem uncoveredScheduleBinding_eq_some_iff {covered suffix : Journal codec}
    {candidate : Stage6JournalRecordV4 codec.toReconciliationCodec} :
    uncoveredScheduleBinding covered suffix = some candidate ↔
      suffix = [.v4 candidate] ∧ ∃ last, covered.getLast? = some last ∧
        candidate.previousRecordId = last.journalRecordId ∧
          checkedAdd last.lifecycleSequence.value 1 = some candidate.parsedLifecycleSequence.value := by
  unfold uncoveredScheduleBinding
  split
  next last other isLast =>
    constructor
    · intro chosen
      obtain ⟨chained, same⟩ := Option.ite_none_right_eq_some.1 chosen
      cases same
      exact ⟨rfl, last, isLast, chained⟩
    · intro chosen
      obtain ⟨shape, found, isFound, chained⟩ := chosen
      cases shape
      rw [isLast] at isFound
      cases isFound
      rw [if_pos chained]
  next shape =>
    constructor
    · nofun
    · intro chosen
      obtain ⟨rfl, last, isLast, _⟩ := chosen
      exact absurd rfl (shape last candidate isLast)

end Purpose

section Bindings

variable {codec : ReconciliationCodec} {records : List (Stage6JournalRecordVersioned codec)}
variable {cursor : MixedReplayCursor codec}

theorem mem_scheduleBindingRecords_iff (restores : ∀ record ∈ records, Restores record)
    (ran : (mixedLog codec).run .empty records = .ok cursor) {binding : Stage6JournalRecordV4 codec} :
    binding ∈ cursor.state.scheduleBindingRecords ↔ .v4 binding ∈ records := by
  rw [(run_ledgers ran).schedules, List.mem_filterMap]
  constructor
  · intro kept
    obtain ⟨record, member, isBinding⟩ := kept
    rw [asV4?_eq_some_iff] at isBinding
    exact isBinding ▸ (mem_distinct_iff restores).1 member
  · intro member
    exact ⟨_, (mem_distinct_iff restores).2 member, rfl⟩

theorem scheduleBindingRecords_nodup (ran : (mixedLog codec).run .empty records = .ok cursor) :
    cursor.state.scheduleBindingRecords.Nodup := by
  rw [(run_ledgers ran).schedules]
  refine ((mixedLog codec).distinct_nodup records).filterMap ?_
  intro left right binding isLeft isRight
  rw [Option.mem_def, asV4?_eq_some_iff] at isLeft isRight
  rw [isLeft, isRight]

/-- A schedule binding stands one position behind the record it names, wherever that stands. -/
theorem scheduleBinding_position (restores : ∀ record ∈ records, Restores record)
    (ran : (mixedLog codec).run .empty records = .ok cursor) {binding : Stage6JournalRecordV4 codec}
    (member : .v4 binding ∈ records) {previous : Stage6JournalRecordVersioned codec}
    (previousMember : previous ∈ records) (named : binding.previousRecordId = previous.journalRecordId) :
    checkedAdd previous.lifecycleSequence.value 1 = some binding.parsedLifecycleSequence.value := by
  have kept := (mem_distinct_iff restores).2 member
  obtain ⟨front, back, split⟩ := List.append_of_mem kept
  obtain ⟨last, isLast, sameId, next⟩ := (run_ledgers ran).chained front _ back split
  have lastMember : last ∈ records := by
    refine (mem_distinct_iff restores).1 ?_
    rw [split]
    exact List.mem_append_left _ (List.mem_of_getLast? isLast)
  have isPrevious := eq_of_sameId restores ran lastMember previousMember (sameId.trans named)
  exact isPrevious ▸ next

/-- A list without repetitions has one member exactly when all its members are that one. -/
theorem eq_singleton_iff_of_nodup {Item : Type} {items : List Item} (nodup : items.Nodup) {item : Item}
    (member : item ∈ items) : items.length = 1 ↔ ∀ other ∈ items, other = item := by
  constructor
  · intro single other otherMember
    obtain ⟨only, rfl⟩ := List.length_eq_one_iff.1 single
    rw [List.mem_singleton.1 otherMember, List.mem_singleton.1 member]
  · intro same
    cases items with
    | nil => cases member
    | cons first rest =>
        cases rest with
        | nil => rfl
        | cons second rest =>
            have isFirst := same first (by simp)
            have isSecond := same second (by simp)
            simp [isFirst, isSecond] at nodup

end Bindings

section Classification

variable {codec : CheckpointCodec} {covered suffix : Journal codec}
variable {last : Stage6JournalRecordVersioned codec.toReconciliationCodec}
variable {checkpoint : Stage6JournalCheckpointV1}

/-- Once its prefix is confirmed, the classifier looks at the one record behind it. -/
theorem classify_one_uncovered {record : Stage6JournalRecordVersioned codec.toReconciliationCodec}
    (storable : ∀ other ∈ covered, Storable other) (isLast : covered.getLast? = some last)
    (covers : checkpoint.frontier.frameCount = covered.length)
    (valid : validateCheckpointAgainstScan codec checkpoint
      (scanOf codec.toReconciliationCodec covered) = .ok ()) :
    classifyStage8bP1eScheduleJournalAheadCandidate (covered ++ [record]) checkpoint =
      match record with
      | .v4 candidate => classifyScheduleBinding (covered ++ [record]) last.journalRecordId
          last.lifecycleSequence candidate
      | _ => .ok none := by
  have oneMore : ¬ (covered ++ [record]).length ≠ covered.length + 1 := by simp
  have confirmed : ¬ (validateCheckpointAgainstScan codec checkpoint
      (scanOf codec.toReconciliationCodec covered)).isOk = false := by
    rw [valid]
    decide
  have lastId := scanOf_frontier_lastRecordId covered
  have lastSequence := scanOf_frontier_lastLifecycleSequence covered
  unfold classifyStage8bP1eScheduleJournalAheadCandidate
  rw [covers, if_neg oneMore, List.take_left, memoryJournalOf_ok storable]
  change (if (validateCheckpointAgainstScan codec checkpoint
    (scanOf codec.toReconciliationCodec covered)).isOk = false then _ else _) = _
  rw [if_neg confirmed]
  change (match (scanOf codec.toReconciliationCodec covered).frontier.lastRecordId,
    (scanOf codec.toReconciliationCodec covered).frontier.lastLifecycleSequence,
    (covered ++ [record])[covered.length]? with
    | some previousRecordId, some previousSequence, some (.v4 candidate) =>
        classifyScheduleBinding (covered ++ [record]) previousRecordId previousSequence candidate
    | _, _, _ => .ok none) = _
  rw [lastId, lastSequence, isLast, List.getElem?_concat_length]
  cases record <;> rfl

/-- A binding under another predecessor is left alone. -/
theorem classifyScheduleBinding_unchained {candidate : Stage6JournalRecordV4 codec.toReconciliationCodec}
    (records : Journal codec) (sequence : Stage6LifecycleSequence)
    (unchained : candidate.previousRecordId ≠ last.journalRecordId) :
    classifyScheduleBinding records last.journalRecordId sequence candidate = .ok none := by
  unfold classifyScheduleBinding
  rw [if_pos unchained]

/-- What the classifier says of a chained binding turns on the earlier ones alone. -/
theorem classifyScheduleBinding_chained {candidate : Stage6JournalRecordV4 codec.toReconciliationCodec}
    {snapshot : Stage6MixedReplaySnapshotV2 codec.toReconciliationCodec}
    (restores : ∀ record ∈ covered ++ [.v4 candidate], Restores record) (isLast : covered.getLast? = some last)
    (replays : Stage6MixedReplayEngineV2.replay (covered ++ [.v4 candidate]) = .ok snapshot)
    (chained : candidate.previousRecordId = last.journalRecordId) :
    checkedAdd last.lifecycleSequence.value 1 = some candidate.parsedLifecycleSequence.value ∧
      ∃ chosen, classifyScheduleBinding (covered ++ [.v4 candidate]) last.journalRecordId last.lifecycleSequence
          candidate = .ok chosen ∧ (chosen = none ∨ chosen = some candidate) ∧
        (chosen = some candidate ↔
          ∀ binding, .v4 binding ∈ covered → binding.encodeCanonical = candidate.encodeCanonical) := by
  obtain ⟨cursor, ran, shape⟩ := (mixedReplay_ok_iff ..).1 replays
  have lastMember : last ∈ covered ++ [.v4 candidate] := List.mem_append_left _ (List.mem_of_getLast? isLast)
  have candidateMember : .v4 candidate ∈ covered ++ [.v4 candidate] := by simp
  have position := scheduleBinding_position restores ran candidateMember lastMember chained
  refine ⟨position, ?_⟩
  have members : ∀ binding, binding ∈ cursor.state.scheduleBindingRecords ↔
      .v4 binding ∈ covered ++ [.v4 candidate] := fun binding => mem_scheduleBindingRecords_iff restores ran
  have kept := (members candidate).2 candidateMember
  have nodup := scheduleBindingRecords_nodup ran
  have single := eq_singleton_iff_of_nodup nodup kept
  have alone : (∀ other ∈ cursor.state.scheduleBindingRecords, other = candidate) ↔
      ∀ binding, .v4 binding ∈ covered → binding.encodeCanonical = candidate.encodeCanonical := by
    constructor
    · intro same binding member
      rw [same binding ((members binding).2 (List.mem_append_left _ member))]
    · intro same other otherKept
      have otherMember := (members other).1 otherKept
      rcases List.mem_append.1 otherMember with earlier | added
      · have equal := eq_of_encodeCanonical (restores _ otherMember) (restores _ candidateMember)
          (same other earlier)
        cases equal
        rfl
      · cases List.mem_singleton.1 added
        rfl
  unfold classifyScheduleBinding
  rw [if_neg (not_not.2 chained), orReject_bind_of_some position, if_neg (by simp),
    (mapError_ok_iff reconciliationHalt _ snapshot).2 replays, ok_bind]
  have records : snapshot.scheduleBindingRecords = cursor.state.scheduleBindingRecords := by
    rw [shape]
    rfl
  rw [records]
  split
  next several =>
    refine ⟨none, rfl, .inl rfl, ?_⟩
    constructor
    · nofun
    · intro same
      exfalso
      have one := single.2 (alone.2 same)
      obtain ⟨only, isOnly⟩ := List.length_eq_one_iff.1 one
      rw [isOnly] at several kept
      cases List.mem_singleton.1 kept
      simp at several
  next one =>
    rw [not_or, not_not] at one
    exact ⟨some candidate, rfl, .inr rfl, fun _ => alone.1 (single.1 one.1), fun _ => rfl⟩

/-- The classifier returns the uncovered schedule binding of a journal, and nothing
for any other suffix, exactly when no other binding stands before it. -/
theorem schedule_candidate_found_iff {bytes : List UInt8}
    {scan : ScannedJournal codec.toReconciliationCodec}
    {snapshot : Stage6MixedReplaySnapshotV2 codec.toReconciliationCodec}
    (journal : scanBytes codec.toReconciliationCodec bytes = .ok scan)
    (split : scan.versionedRecords = covered ++ suffix) (nonempty : covered ≠ [])
    (covers : checkpoint.frontier.frameCount = covered.length)
    (valid : validateCheckpointAgainstScan codec checkpoint scan = .ok ())
    (replays : Stage6MixedReplayEngineV2.replay scan.versionedRecords = .ok snapshot) :
    classifyStage8bP1eScheduleJournalAheadCandidate scan.versionedRecords checkpoint =
        .ok (uncoveredScheduleBinding covered suffix) ↔
      NoEarlierScheduleBinding covered suffix := by
  obtain ⟨records, storable, _, rfl⟩ := scanBytes_ok_iff.1 journal
  rw [scanOf_versionedRecords] at split replays ⊢
  subst split
  rw [validateCheckpoint_covered covered suffix covers] at valid
  have coveredStorable : ∀ record ∈ covered, Storable record := fun record member =>
    storable record (List.mem_append_left _ member)
  have restores : ∀ record ∈ covered ++ suffix, Restores record := fun record member =>
    (storable record member).restores
  have isLast := List.getLast?_eq_some_getLast nonempty
  -- Only a suffix of one record can be the uncovered binding.
  have nothing (absent : uncoveredScheduleBinding covered suffix = none)
      (result : classifyStage8bP1eScheduleJournalAheadCandidate (covered ++ suffix) checkpoint = .ok none) :
      classifyStage8bP1eScheduleJournalAheadCandidate (covered ++ suffix) checkpoint =
        .ok (uncoveredScheduleBinding covered suffix) ↔ NoEarlierScheduleBinding covered suffix := by
    constructor
    · intro _ candidate isCandidate
      rw [absent] at isCandidate
      cases isCandidate
    · intro _
      rw [absent, result]
  by_cases one : suffix.length = 1
  · obtain ⟨record, rfl⟩ := List.length_eq_one_iff.1 one
    have classified : classifyStage8bP1eScheduleJournalAheadCandidate (covered ++ [record]) checkpoint = _ :=
      classify_one_uncovered coveredStorable isLast covers valid
    cases record with
    | v1 v1 => exact nothing (by simp [uncoveredScheduleBinding]) classified
    | v2 v2 => exact nothing (by simp [uncoveredScheduleBinding]) classified
    | v3 v3 => exact nothing (by simp [uncoveredScheduleBinding]) classified
    | v4 candidate =>
        by_cases chained : candidate.previousRecordId = (covered.getLast nonempty).journalRecordId
        · obtain ⟨position, chosen, result, _, isChosen⟩ :=
            classifyScheduleBinding_chained restores isLast replays chained
          have expected : uncoveredScheduleBinding covered [.v4 candidate] = some candidate :=
            uncoveredScheduleBinding_eq_some_iff.2 ⟨rfl, _, isLast, chained, position⟩
          rw [classified, expected]
          dsimp only
          rw [result, Except.ok.injEq, isChosen]
          unfold NoEarlierScheduleBinding
          rw [expected]
          simp
        · refine nothing ?_ (classified.trans (classifyScheduleBinding_unchained _ _ chained))
          simp [uncoveredScheduleBinding, isLast, chained]
  · refine nothing ?_ ?_
    · cases found : uncoveredScheduleBinding covered suffix with
      | none => rfl
      | some candidate =>
          obtain ⟨rfl, _⟩ := uncoveredScheduleBinding_eq_some_iff.1 found
          exact absurd rfl one
    · unfold classifyStage8bP1eScheduleJournalAheadCandidate
      rw [if_pos (by rw [List.length_append, covers]; omega)]

end Classification

section Sample

/-- A schedule record comes back from its encoding if its version and its wire do. -/
theorem restores_v4 {codec : ReconciliationCodec} {record : Stage6JournalRecordV4 codec}
    (version : probeSchemaVersion codec record.encodeCanonical = .ok 4)
    (read : codec.recordV4FromSlice record.encodeCanonical = some record.toStage6JournalRecordWireV4) :
    Restores (.v4 record) := by
  have decoded := v4_decodeCanonical read
  unfold Restores Stage6JournalRecordVersioned.decodeCanonical
  change (probeSchemaVersion codec record.encodeCanonical).mapError _ >>= _ = _
  rw [version]
  change (Stage6JournalRecordVersioned.v4 <$> Stage6JournalRecordV4.decodeCanonical codec
    record.encodeCanonical).mapError _ = _
  rw [decoded]
  rfl

/-- What the sample needs to be a journal: its texts can be read back, both of
its lengths replay, and its records stand behind each other. -/
def SampleHolds (sample : EvaluatedOrder) (journal : EvaluatedJournal sample.codec) : Prop :=
  (match Stage6JournalRecordVersioned.decodeCanonical sample.codec.toReconciliationCodec
      journal.accepted.encodeCanonical with
    | .ok (.v1 found) => found = journal.accepted
    | _ => False) ∧
  probeSchemaVersion sample.codec.toReconciliationCodec journal.first.encodeCanonical = .ok 4 ∧
  probeSchemaVersion sample.codec.toReconciliationCodec journal.second.encodeCanonical = .ok 4 ∧
  plainRecordV4 sample.first ≠ plainRecordV4 sample.second ∧
  (∀ record ∈ journal.twoBindings, LengthValid record) ∧
  (Stage6MixedReplayEngineV2.replay journal.oneBinding).isOk = true ∧
  (Stage6MixedReplayEngineV2.replay journal.twoBindings).isOk = true ∧
  journal.first.previousRecordId = journal.accepted.journalRecordId ∧
  journal.second.previousRecordId = journal.first.journalRecordId ∧
  checkedAdd journal.accepted.lifecycleSequence.value 1 = some journal.first.parsedLifecycleSequence.value

instance (sample : EvaluatedOrder) (journal : EvaluatedJournal sample.codec) :
    Decidable (SampleHolds sample journal) := by
  unfold SampleHolds
  have accepted : Decidable (match Stage6JournalRecordVersioned.decodeCanonical sample.codec.toReconciliationCodec
      journal.accepted.encodeCanonical with
    | .ok (.v1 found) => found = journal.accepted
    | _ => False) := by
    split <;> infer_instance
  infer_instance

theorem sample_exists : ∃ (sample : EvaluatedOrder) (journal : EvaluatedJournal sample.codec),
    evaluatedOrder = some sample ∧ sample.journal = some journal ∧ SampleHolds sample journal := by
  have evaluated : (evaluatedOrder.bind fun sample =>
      sample.journal.map fun journal => decide (SampleHolds sample journal)) = some true := by
    decide +kernel
  obtain ⟨sample, isSample, evaluated⟩ := Option.bind_eq_some_iff.1 evaluated
  obtain ⟨journal, isJournal, holds⟩ := Option.map_eq_some_iff.1 evaluated
  exact ⟨sample, journal, isSample, isJournal, of_decide_eq_true holds⟩

theorem sample_storable {sample : EvaluatedOrder} {journal : EvaluatedJournal sample.codec}
    (isJournal : sample.journal = some journal) (holds : SampleHolds sample journal) :
    ∀ record ∈ journal.twoBindings, Storable record := by
  obtain ⟨reads, firstVersion, secondVersion, apart, lengths, _⟩ := holds
  obtain ⟨accepted, _, isJournal⟩ := Option.bind_eq_some_iff.1 isJournal
  obtain ⟨first, firstBuilt, isJournal⟩ := Option.bind_eq_some_iff.1 isJournal
  obtain ⟨second, secondBuilt, isJournal⟩ := Option.bind_eq_some_iff.1 isJournal
  cases isJournal
  have firstWire := v4_ofWire_ok (toOption_eq_some_iff.1 firstBuilt)
  have secondWire := v4_ofWire_ok (toOption_eq_some_iff.1 secondBuilt)
  intro record member
  refine { restores := ?_, lengthValid := lengths record member }
  rcases List.mem_cons.1 member with rfl | member
  · unfold Restores
    split at reads
    next found decoded => exact decoded.trans (by rw [reads])
    next => cases reads
  rcases List.mem_cons.1 member with rfl | member
  · refine restores_v4 firstVersion ?_
    change [sample.first, sample.second].find? (fun wire => plainRecordV4 wire = plainRecordV4 _) = _
    rw [firstWire]
    simp
  · cases List.mem_singleton.1 member
    refine restores_v4 secondVersion ?_
    change [sample.first, sample.second].find? (fun wire => plainRecordV4 wire = plainRecordV4 _) = _
    rw [secondWire]
    simp [apart]

/-- The sample's first evaluation is found behind its accepted request. -/
theorem schedule_candidate_found_first :
    ∃ (sample : EvaluatedOrder) (journal : EvaluatedJournal sample.codec),
      evaluatedOrder = some sample ∧ sample.journal = some journal ∧
        classifyStage8bP1eScheduleJournalAheadCandidate journal.oneBinding
          (checkpointOf sample.codec [.v1 journal.accepted]) = .ok (some journal.first) := by
  obtain ⟨sample, journal, isSample, isJournal, holds⟩ := sample_exists
  have storable := sample_storable isJournal holds
  obtain ⟨_, _, _, _, _, replays, _, chained, _, position⟩ := holds
  obtain ⟨snapshot, replays⟩ := exists_ok_of_isOk replays
  have journalStorable : ∀ record ∈ journal.oneBinding, Storable record := fun record member =>
    storable record (journal.mem_twoBindings member)
  have scanned := Stage6.FileJournal.scanBytes_journalBytes journalStorable
  have records := scanOf_versionedRecords journal.oneBinding
  have uncovered : uncoveredScheduleBinding [.v1 journal.accepted] [.v4 journal.first] = some journal.first :=
    uncoveredScheduleBinding_eq_some_iff.2 ⟨rfl, _, rfl, chained, position⟩
  have alone : NoEarlierScheduleBinding [.v1 journal.accepted] [.v4 journal.first] := by
    simp [NoEarlierScheduleBinding]
  have confirmed := checkpointOf_validates [.v1 journal.accepted] [.v4 journal.first]
  have counted := scanOf_frontier_frameCount
    [(.v1 journal.accepted : Stage6JournalRecordVersioned sample.codec.toReconciliationCodec)]
  have found := (schedule_candidate_found_iff scanned records (by simp) counted confirmed
    (by rw [records]; exact replays)).2 alone
  rw [records, uncovered] at found
  exact ⟨sample, journal, isSample, isJournal, found⟩

/-- The sample's second evaluation is chained behind a confirmed prefix that
holds the first, and it is not found. -/
theorem schedule_candidate_missed :
    ∃ (sample : EvaluatedOrder) (journal : EvaluatedJournal sample.codec),
      evaluatedOrder = some sample ∧ sample.journal = some journal ∧
        (∀ record ∈ journal.twoBindings, Storable record) ∧
          (Stage6MixedReplayEngineV2.replay journal.twoBindings).isOk = true ∧
            uncoveredScheduleBinding journal.oneBinding [.v4 journal.second] = some journal.second ∧
              classifyStage8bP1eScheduleJournalAheadCandidate journal.twoBindings
                (checkpointOf sample.codec journal.oneBinding) = .ok none := by
  obtain ⟨sample, journal, isSample, isJournal, holds⟩ := sample_exists
  have storable := sample_storable isJournal holds
  obtain ⟨_, _, _, apart, _, _, replayed, _, chained, _⟩ := holds
  obtain ⟨snapshot, replays⟩ := exists_ok_of_isOk replayed
  have coveredStorable : ∀ record ∈ journal.oneBinding, Storable record := fun record member =>
    storable record (journal.mem_twoBindings member)
  have restores : ∀ record ∈ journal.oneBinding ++ [.v4 journal.second], Restores record := fun record member =>
    (storable record member).restores
  have isLast : journal.oneBinding.getLast? = some (.v4 journal.first) := rfl
  obtain ⟨position, chosen, result, options, isChosen⟩ :=
    classifyScheduleBinding_chained restores isLast replays chained
  have uncovered := uncoveredScheduleBinding_eq_some_iff.2
    ⟨rfl, _, isLast, chained, position⟩
  have confirmed := checkpointOf_validates journal.oneBinding []
  rw [List.append_nil] at confirmed
  have counted := scanOf_frontier_frameCount journal.oneBinding
  have classified : classifyStage8bP1eScheduleJournalAheadCandidate
      (journal.oneBinding ++ [.v4 journal.second]) _ = _ :=
    classify_one_uncovered coveredStorable isLast counted confirmed
  refine ⟨sample, journal, isSample, isJournal, storable, replayed, uncovered, ?_⟩
  refine classified.trans (result.trans ?_)
  rcases options with none | found
  · rw [none]
  exfalso
  have same := isChosen.1 found journal.first (by simp [EvaluatedJournal.oneBinding])
  obtain ⟨accepted, _, isJournal⟩ := Option.bind_eq_some_iff.1 isJournal
  obtain ⟨first, firstBuilt, isJournal⟩ := Option.bind_eq_some_iff.1 isJournal
  obtain ⟨second, secondBuilt, isJournal⟩ := Option.bind_eq_some_iff.1 isJournal
  cases isJournal
  rw [← v4_ofWire_ok (toOption_eq_some_iff.1 firstBuilt), ← v4_ofWire_ok (toOption_eq_some_iff.1 secondBuilt)] at apart
  exact apart same

end Sample

end TradingGateway.Stage6d.ScheduleJournalAhead
