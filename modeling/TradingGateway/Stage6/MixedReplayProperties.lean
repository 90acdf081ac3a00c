import TradingGateway.Stage6.MixedReplay
import TradingGateway.Stage6.PlainReconciliationCodec
import TradingGateway.Stage6.ReplayProperties

/-! Mixed replay as an idempotent log: redelivery is invisible, and on records of
the first version alone it is the first engine. -/

set_option autoImplicit false

namespace TradingGateway.Stage6.MixedReplay

open JournalRecord Replay ReconciliationV2 VersionedRecord
open PlainCodec PlainReconciliationCodec
open Foundation.ExceptRun Foundation.IdempotentLog Foundation.OrderedMap

section Log

variable {codec : ReconciliationCodec}

def mixedLog (codec : ReconciliationCodec) :
    Log (Stage6JournalRecordVersioned codec) HexText (List UInt8) (MixedReplayState codec)
      Stage6ReconciliationV2Error where
  key := fun record => record.journalRecordId.value
  code := Stage6JournalRecordVersioned.encodeCanonical
  conflict := .replay .conflictingReplay
  consume := fun seen state record => state.consume seen record

/-- The loop body of the mixed engine is the step of its log. -/
theorem mixedStep_eq : (mixedStep : MixedReplayCursor codec → _) = (mixedLog codec).step := by
  funext cursor record
  unfold mixedStep Log.step
  cases found : cursor.seen[record.journalRecordId.value]? with
  | some existing =>
      have known : cursor.seen[(mixedLog codec).key record]? = some existing := found
      simp only [found, known]
      rfl
  | none =>
      have fresh : cursor.seen[(mixedLog codec).key record]? = none := found
      simp only [found, fresh]
      rfl

/-- The mixed engine is a run of its log, and the snapshot of where it ends. -/
theorem mixedReplay_eq_run (records : List (Stage6JournalRecordVersioned codec)) :
    Stage6MixedReplayEngineV2.replay records =
      (mixedLog codec).run .empty records >>= fun cursor => .ok cursor.state.snapshot := by
  unfold Stage6MixedReplayEngineV2.replay Log.run
  rw [mixedStep_eq]

theorem mixedReplay_ok_iff (records : List (Stage6JournalRecordVersioned codec))
    (snapshot : Stage6MixedReplaySnapshotV2 codec) :
    Stage6MixedReplayEngineV2.replay records = .ok snapshot ↔
      ∃ cursor, (mixedLog codec).run .empty records = .ok cursor ∧ snapshot = cursor.state.snapshot := by
  rw [mixedReplay_eq_run, bind_ok_iff]
  simp only [Except.ok.injEq, @eq_comm _ _ snapshot]

/-- `delivered` is `records` with copies of earlier deliveries, equal in record
id and canonical bytes, put in at any positions. -/
def Redelivered (records delivered : List (Stage6JournalRecordVersioned codec)) : Prop :=
  (mixedLog codec).Redelivers [] records delivered

def RedeliveredV1 {codec : DurableRecordCodec} (records delivered : List (Stage6JournalRecordV1 codec)) : Prop :=
  (replayLog codec).toLog.Redelivers [] records delivered

/-- Exact copies delivered again change neither the snapshot nor the error, in either engine. -/
theorem redelivery_is_invisible :
    (∀ records delivered : List (Stage6JournalRecordVersioned codec), Redelivered records delivered →
      Stage6MixedReplayEngineV2.replay delivered = Stage6MixedReplayEngineV2.replay records) ∧
    (∀ records delivered : List (Stage6JournalRecordV1 codec.toDurableRecordCodec),
      RedeliveredV1 records delivered →
        Stage6ReplayEngineV1.replay codec.toReplayCodec delivered =
          Stage6ReplayEngineV1.replay codec.toReplayCodec records) := by
  constructor
  · intro records delivered redelivered
    rw [mixedReplay_eq_run, mixedReplay_eq_run]
    unfold Log.run
    rw [(mixedLog codec).run_redelivers redelivered (by simp)]
  · intro records delivered redelivered
    rw [replay_eq_run, replay_eq_run]
    unfold Log.run
    rw [(replayLog codec.toDurableRecordCodec).toLog.run_redelivers redelivered (by simp)]

theorem redelivery_is_invisible_acceptance :
    ∃ (sample : RejectedPlace) (transition : Stage6JournalRecordV2 (plainReconciliationCodec []).toTransitionCodec),
      rejectedPlace = some sample ∧ Stage6JournalRecordV2.ofWire sample.transition = .ok transition ∧
        (@Stage6MixedReplayEngineV2.replay (plainReconciliationCodec [])
          [.v1 sample.accepted, .v1 sample.attempt, .v2 transition]).isOk = true ∧
        @Stage6MixedReplayEngineV2.replay (plainReconciliationCodec [])
            [.v1 sample.accepted, .v1 sample.attempt, .v1 sample.accepted, .v2 transition] =
          Stage6MixedReplayEngineV2.replay [.v1 sample.accepted, .v1 sample.attempt, .v2 transition] ∧
        Stage6ReplayEngineV1.replay plainCodec [sample.accepted, sample.attempt, sample.accepted] =
          Stage6ReplayEngineV1.replay plainCodec [sample.accepted, sample.attempt] := by
  have evaluated : (rejectedPlace.bind fun sample =>
      (Stage6JournalRecordV2.ofWire sample.transition).toOption.map fun transition =>
        (@Stage6MixedReplayEngineV2.replay (plainReconciliationCodec [])
          [.v1 sample.accepted, .v1 sample.attempt, .v2 transition]).isOk) = some true := by
    decide +kernel
  obtain ⟨sample, isSample, evaluated⟩ := Option.bind_eq_some_iff.1 evaluated
  obtain ⟨transition, built, replays⟩ := Option.map_eq_some_iff.1 evaluated
  refine ⟨sample, transition, isSample, toOption_eq_some_iff.1 built, replays, ?_, ?_⟩
  · exact (@redelivery_is_invisible (plainReconciliationCodec [])).1 _ _
      (.first _ (.first _ (.again _ ⟨_, .head _, rfl, rfl⟩ (.first _ (.nil _)))))
  · exact (@redelivery_is_invisible (plainReconciliationCodec [])).2 _ _
      (.first _ (.first _ (.again _ ⟨_, .head _, rfl, rfl⟩ (.nil _))))

end Log

section Agreement

variable {codec : ReconciliationCodec}

def withoutBatch (request : WorkingRequest) : MixedWorkingRequest codec :=
  { v1 := request, batch := none }

/-- The mixed loop carries the working requests of the first engine, and nothing
that only later records leave. -/
structure CarriesReplay (requests : Std.ExtTreeMap (List Char) WorkingRequest)
    (mixed : MixedReplayState codec) : Prop where
  requests : mixed.requests = requests.map fun _ request => withoutBatch request
  noOutcome : mixed.p1d3OutcomeRecords = []
  noSchedule : mixed.scheduleBindingRecords = []

theorem CarriesReplay.lookup {requests : Std.ExtTreeMap (List Char) WorkingRequest}
    {mixed : MixedReplayState codec} (carries : CarriesReplay requests mixed) (key : List Char) :
    mixed.requests[key]? = requests[key]?.map withoutBatch := by
  rw [carries.requests, Std.ExtTreeMap.getElem?_map]

theorem CarriesReplay.insert {requests : Std.ExtTreeMap (List Char) WorkingRequest}
    {mixed : MixedReplayState codec} (carries : CarriesReplay requests mixed) (key : List Char)
    (request : WorkingRequest) :
    mixed.requests.insert key (withoutBatch request) =
      (requests.insert key request).map fun _ stored => withoutBatch stored := by
  refine Std.ExtTreeMap.ext_getElem? fun other => ?_
  rw [Std.ExtTreeMap.getElem?_map, Std.ExtTreeMap.getElem?_insert, Std.ExtTreeMap.getElem?_insert,
    carries.lookup]
  split <;> rfl

/-- A request without a batch takes a record as the first engine does. -/
theorem takeV1_follows (current : Option WorkingRequest)
    (record : Stage6JournalRecordV1 codec.toDurableRecordCodec) :
    Follows (fun updated taken => taken = withoutBatch updated) Stage6ReconciliationV2Error.replay
      ((replayLog codec.toDurableRecordCodec).advance current record)
      (MixedWorkingRequest.takeV1 (current.map (@withoutBatch codec)) record) := by
  cases current with
  | none => exact .mapError_bind (WorkingRequest.fromFirst record) withoutBatch
  | some request => exact .mapError_bind (request.apply record) withoutBatch

/-- Both loops consume a record of the first version alike. -/
theorem CarriesReplay.consume {requests : Std.ExtTreeMap (List Char) WorkingRequest}
    {mixed : MixedReplayState codec} (carries : CarriesReplay requests mixed)
    (seen : Std.ExtTreeMap HexText (List UInt8))
    (record : Stage6JournalRecordV1 codec.toDurableRecordCodec) :
    Follows CarriesReplay Stage6ReconciliationV2Error.replay
      ((replayLog codec.toDurableRecordCodec).toLog.consume seen requests record)
      (mixed.consume seen (.v1 record)) := by
  have sameGuard : (∃ parent ∈ (replayLog codec.toDurableRecordCodec).parent record, parent ∉ seen) ↔
      ∃ parent ∈ record.causalParentId, parent.value ∉ seen := by
    simp [replayLog]
  change Follows _ _ _ (mixed.consumeV1 seen record >>= _)
  unfold MixedReplayState.consumeV1
  rw [bind_assoc, carries.lookup]
  refine (Follows.rejectIf sameGuard _).bind fun _ _ _ => ?_
  rw [bind_assoc]
  refine (takeV1_follows _ record).bind fun updated taken same => ?_
  cases same
  exact .of_ok {
    requests := carries.insert (requestKey record) updated
    noOutcome := carries.noOutcome
    noSchedule := carries.noSchedule }

/-- On records of the first version the mixed engine is the first engine: the
same requests and nothing else, or the same error. -/
theorem engines_agree (records : List (Stage6JournalRecordV1 codec.toDurableRecordCodec)) :
    match Stage6ReplayEngineV1.replay codec.toReplayCodec records with
    | .ok snapshot =>
        Stage6MixedReplayEngineV2.replay (records.map .v1 : List (Stage6JournalRecordVersioned codec)) = .ok {
          requests := snapshot.requests
          reconciliationBatches := []
          p1d3OutcomeRecords := []
          scheduleBindingRecords := [] }
    | .error error =>
        Stage6MixedReplayEngineV2.replay (records.map .v1 : List (Stage6JournalRecordVersioned codec)) =
          .error (.replay error) := by
  have started : CarriesReplay ∅ (.empty : MixedReplayState codec) :=
    { requests := by
        refine Std.ExtTreeMap.ext_getElem? fun key => ?_
        simp [MixedReplayState.empty]
      noOutcome := rfl
      noSchedule := rfl }
  have follows : Follows (fun cursor mixed => cursor.seen = mixed.seen ∧ CarriesReplay cursor.state mixed.state)
      Stage6ReconciliationV2Error.replay ((replayLog codec.toDurableRecordCodec).toLog.run ∅ records)
      ((mixedLog codec).run .empty (records.map .v1)) :=
    Log.run_follows Stage6JournalRecordVersioned.v1 Stage6ReconciliationV2Error.replay CarriesReplay (fun _ => rfl) (fun _ => rfl) rfl
      (fun seen _ _ record carries => carries.consume seen record) started records
  rw [replay_eq_run, mixedReplay_eq_run]
  cases ran : (replayLog codec.toDurableRecordCodec).toLog.run ∅ records with
  | error error =>
      rw [ran] at follows
      have failed : (mixedLog codec).run .empty (records.map .v1) = .error (.replay error) := follows
      rw [failed]
      rfl
  | ok cursor =>
      rw [ran] at follows
      obtain ⟨mixed, succeeded, _, carries⟩ := follows
      rw [succeeded]
      simp only [ok_bind, Stage6ReplaySnapshotV1.fromRecoveredRequests, MixedReplayState.snapshot,
        carries.requests, carries.noOutcome, carries.noSchedule, intoValues_map]
      simp [withoutBatch, Function.comp_def]

end Agreement

end TradingGateway.Stage6.MixedReplay
