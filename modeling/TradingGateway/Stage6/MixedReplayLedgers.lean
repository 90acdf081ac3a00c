import TradingGateway.Stage6.JournalFramesProperties
import TradingGateway.Stage6.MixedReplayRoutes

/-! What the mixed loop keeps beside the requests: the outcome and the schedule
records, and the record it admitted last. -/

set_option autoImplicit false

namespace TradingGateway.Stage6.MixedReplay

open JournalRecord JournalFrames VersionedRecord
open Stage8b.WorkingLimitEvidence
open Foundation.ExceptRun

variable {codec : ReconciliationCodec}

def asV3? (record : Stage6JournalRecordVersioned codec) : Option (Stage6JournalRecordV3 codec) :=
  match record with
  | .v3 v3 => some v3
  | _ => none

def asV4? (record : Stage6JournalRecordVersioned codec) : Option (Stage6JournalRecordV4 codec) :=
  match record with
  | .v4 v4 => some v4
  | _ => none

theorem asV4?_eq_some_iff {record : Stage6JournalRecordVersioned codec} {v4 : Stage6JournalRecordV4 codec} :
    asV4? record = some v4 ↔ record = .v4 v4 := by
  cases record <;> simp [asV4?]

/-- A record of the later versions names the record admitted before it; a
schedule record also stands one position behind it. -/
def FollowsLast (front : List (Stage6JournalRecordVersioned codec))
    (record : Stage6JournalRecordVersioned codec) : Prop :=
  match record with
  | .v1 _ | .v2 _ => True
  | .v3 v3 => ∃ last, front.getLast? = some last ∧ last.journalRecordId = v3.previousRecordId
  | .v4 v4 => ∃ last, front.getLast? = some last ∧ last.journalRecordId = v4.previousRecordId ∧
      checkedAdd last.lifecycleSequence.value 1 = some v4.parsedLifecycleSequence.value

namespace MixedReplayState

/-- The loop state after the records of `history`, each admitted under an id of its own. -/
structure Ledgers (history : List (Stage6JournalRecordVersioned codec)) (state : MixedReplayState codec) :
    Prop where
  outcomes : state.p1d3OutcomeRecords = history.filterMap asV3?
  schedules : state.scheduleBindingRecords = history.filterMap asV4?
  lastId : state.lastUniqueRecordId = history.getLast?.map (·.journalRecordId)
  lastSequence : state.lastUniqueLifecycleSequence = history.getLast?.map (·.lifecycleSequence)
  lastAccepted : state.lastUniqueRequestAcceptedIdentity = history.getLast?.bind acceptedIdentity
  chained : ∀ front record back, history = front ++ record :: back → FollowsLast front record

theorem ledgers_empty : Ledgers [] (.empty : MixedReplayState codec) :=
  { outcomes := rfl
    schedules := rfl
    lastId := rfl
    lastSequence := rfl
    lastAccepted := rfl
    chained := by simp }

/-- An outcome touches the requests and nothing else. -/
theorem applyOutcomeEffect_frame {state updated : MixedReplayState codec} {v3 : Stage6JournalRecordV3 codec}
    (success : state.applyOutcomeEffect v3 = .ok updated) :
    updated = { state with requests := updated.requests } := by
  obtain ⟨evidence, _, success⟩ := bind_ok_iff.1 success
  obtain ⟨effect, _, success⟩ := bind_ok_iff.1 success
  cases effect with
  | none =>
      cases success
      rfl
  | some effect =>
      obtain ⟨request, _, success⟩ := bind_ok_iff.1 success
      obtain ⟨settled, _, result⟩ := bind_ok_iff.1 success
      cases result
      rfl

/-- A schedule record touches the requests and nothing else. -/
theorem applySchedule_frame {state updated : MixedReplayState codec} {v4 : Stage6JournalRecordV4 codec}
    (success : state.applySchedule v4 = .ok updated) :
    updated = { state with requests := updated.requests } := by
  have place (advances : state.advancePlace v4 = .ok updated) :
      updated = { state with requests := updated.requests } := by
    obtain ⟨requestId, _, advances⟩ := bind_ok_iff.1 advances
    obtain ⟨request, _, advances⟩ := bind_ok_iff.1 advances
    obtain ⟨_, advances⟩ := check_bind_ok_iff.1 advances
    obtain ⟨identity, _, advances⟩ := bind_ok_iff.1 advances
    obtain ⟨advanced, _, result⟩ := bind_ok_iff.1 advances
    cases result
    rfl
  unfold applySchedule at success
  cases kind : v4.transitionKind with
  | marketExecution => exact place (by simpa [kind] using success)
  | initialLimitEvaluation => exact place (by simpa [kind] using success)
  | cancelStep =>
      rw [kind] at success
      obtain ⟨identity, _, success⟩ := bind_ok_iff.1 success
      obtain ⟨request, _, success⟩ := bind_ok_iff.1 success
      obtain ⟨_, success⟩ := check_bind_ok_iff.1 success
      obtain ⟨advanced, _, result⟩ := bind_ok_iff.1 success
      cases result
      rfl
  | workingLimitEvaluation =>
      rw [kind] at success
      cases success
      rfl
  | dayExpiry =>
      rw [kind] at success
      cases success
      rfl

/-- What admitting a record leaves in the ledgers, and which record it has to follow. -/
theorem admitRecord_ledgers {history : List (Stage6JournalRecordVersioned codec)}
    {state admitted : MixedReplayState codec} {seen : Std.ExtTreeMap HexText (List UInt8)}
    {record : Stage6JournalRecordVersioned codec} (ledgers : Ledgers history state)
    (admits : state.admitRecord seen record = .ok admitted) :
    admitted.p1d3OutcomeRecords = (history ++ [record]).filterMap asV3? ∧
      admitted.scheduleBindingRecords = (history ++ [record]).filterMap asV4? ∧ FollowsLast history record := by
  have outcomes := ledgers.outcomes
  have schedules := ledgers.schedules
  cases record with
  | v1 v1 =>
      obtain ⟨_, admits⟩ := check_bind_ok_iff.1 admits
      obtain ⟨request, _, result⟩ := bind_ok_iff.1 admits
      cases result
      exact ⟨by simp [outcomes, List.filterMap_cons, asV3?], by simp [schedules, List.filterMap_cons, asV4?], trivial⟩
  | v2 v2 =>
      obtain ⟨request, _, admits⟩ := bind_ok_iff.1 admits
      obtain ⟨_, admits⟩ := check_bind_ok_iff.1 admits
      obtain ⟨_, _, admits⟩ := bind_ok_iff.1 admits
      obtain ⟨opened, _, result⟩ := bind_ok_iff.1 admits
      cases result
      exact ⟨by simp [outcomes, List.filterMap_cons, asV3?], by simp [schedules, List.filterMap_cons, asV4?], trivial⟩
  | v3 v3 =>
      obtain ⟨linked, admits⟩ := check_bind_ok_iff.1 admits
      obtain ⟨_, _, admits⟩ := bind_ok_iff.1 admits
      obtain ⟨applied, applies, result⟩ := bind_ok_iff.1 admits
      rw [applyOutcomeEffect_frame applies] at result
      cases result
      rw [rejectIf_ok_iff, not_not, ledgers.lastId, Option.map_eq_some_iff] at linked
      exact ⟨by simp [asV3?, outcomes], by simp [schedules, List.filterMap_cons, asV4?], linked⟩
  | v4 v4 =>
      obtain ⟨linked, admits⟩ := check_bind_ok_iff.1 admits
      obtain ⟨_, _, admits⟩ := bind_ok_iff.1 admits
      obtain ⟨applied, applies, result⟩ := bind_ok_iff.1 admits
      rw [applySchedule_frame applies] at result
      cases result
      rw [rejectIf_ok_iff, not_or, not_not, not_not, ledgers.lastId, ledgers.lastSequence,
        Option.map_eq_some_iff] at linked
      obtain ⟨⟨last, isLast, sameId⟩, next⟩ := linked
      rw [isLast] at next
      exact ⟨by simp [outcomes, List.filterMap_cons, asV3?], by simp [asV4?, schedules], last, isLast, sameId, next⟩

theorem Ledgers.consume {history : List (Stage6JournalRecordVersioned codec)}
    {state updated : MixedReplayState codec} {seen : Std.ExtTreeMap HexText (List UInt8)}
    {record : Stage6JournalRecordVersioned codec} (ledgers : Ledgers history state)
    (success : state.consume seen record = .ok updated) : Ledgers (history ++ [record]) updated := by
  obtain ⟨admitted, admits, result⟩ := bind_ok_iff.1 success
  obtain ⟨outcomes, schedules, follows⟩ := admitRecord_ledgers ledgers admits
  cases result
  refine {
    outcomes := outcomes
    schedules := schedules
    lastId := by simp [remember]
    lastSequence := by simp [remember]
    lastAccepted := by simp [remember]
    chained := ?_ }
  intro front other back shape
  cases back using List.reverseRecOn with
  | nil =>
      obtain ⟨rfl, same⟩ := List.append_inj' shape rfl
      cases same
      exact follows
  | append_singleton back last =>
      have split : history ++ [record] = (front ++ other :: back) ++ [last] := by simpa using shape
      exact ledgers.chained front other back (List.append_inj' split rfl).1

end MixedReplayState

open MixedReplayState

/-- The ledgers of a finished replay are those of the first deliveries. -/
theorem run_ledgers {records : List (Stage6JournalRecordVersioned codec)} {cursor : MixedReplayCursor codec}
    (ran : (mixedLog codec).run .empty records = .ok cursor) :
    Ledgers ((mixedLog codec).distinct records) cursor.state := by
  refine ((mixedLog codec).run_induction Ledgers ledgers_empty ?_ ran).2.2
  intro history cursor updated record _ _ _ ledgers admitted
  exact ledgers.consume admitted

/-- Records that decode again are told apart by their encodings. -/
theorem eq_of_encodeCanonical {left right : Stage6JournalRecordVersioned codec} (leftRestores : Restores left)
    (rightRestores : Restores right) (same : left.encodeCanonical = right.encodeCanonical) : left = right := by
  unfold Restores at leftRestores rightRestores
  rw [same, rightRestores] at leftRestores
  exact (Except.ok.inj leftRestores).symm

/-- Every record of a journal is among its first deliveries. -/
theorem mem_distinct_iff {records : List (Stage6JournalRecordVersioned codec)}
    (restores : ∀ record ∈ records, Restores record) {record : Stage6JournalRecordVersioned codec} :
    record ∈ (mixedLog codec).distinct records ↔ record ∈ records := by
  constructor
  · intro kept
    exact (mixedLog codec).mem_of_mem_distinct kept
  · intro member
    obtain ⟨first, kept, same⟩ := (mixedLog codec).distinct_covers member
    have firstMember := (mixedLog codec).mem_of_mem_distinct kept
    have isFirst := eq_of_encodeCanonical (restores first firstMember) (restores record member) same.2
    exact isFirst ▸ kept

/-- In a journal that replays, a record is known by its id. -/
theorem eq_of_sameId {records : List (Stage6JournalRecordVersioned codec)}
    (restores : ∀ record ∈ records, Restores record) {cursor : MixedReplayCursor codec}
    (ran : (mixedLog codec).run .empty records = .ok cursor)
    {left right : Stage6JournalRecordVersioned codec} (leftMember : left ∈ records)
    (rightMember : right ∈ records) (same : left.journalRecordId = right.journalRecordId) : left = right := by
  have tracks := (mixedLog codec).run_tracks ran
  have leftSeen := (tracks left.journalRecordId.value left.encodeCanonical).2
    ⟨left, (mem_distinct_iff restores).2 leftMember, rfl, rfl⟩
  have rightSeen := (tracks right.journalRecordId.value right.encodeCanonical).2
    ⟨right, (mem_distinct_iff restores).2 rightMember, rfl, rfl⟩
  rw [same, rightSeen] at leftSeen
  exact eq_of_encodeCanonical (restores left leftMember) (restores right rightMember) (Option.some.inj leftSeen).symm

end TradingGateway.Stage6.MixedReplay
