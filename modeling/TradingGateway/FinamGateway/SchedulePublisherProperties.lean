import TradingGateway.FinamGateway.SchedulePublisher
import TradingGateway.Foundation.Runs
import TradingGateway.Stage5e.PlainScheduleEnvelope
import TradingGateway.Stage8b.WorkingLimitBookProperties

/-! The rows of a publisher follow one another as its reader demands, as long as every
publication is later than the one before in the microseconds that both texts keep. -/

set_option autoImplicit false

namespace TradingGateway.FinamGateway.SchedulePublisher

open BrokerCore.Orders BrokerCore.Orders.DateTimeUtc
open Stage5e.ScheduleSource Stage5e.ScheduleEnvelope Stage5e.ScheduleVerifier
open Stage6.JournalRecord Stage8b.WorkingLimitEvidence
open Stage8b.ScheduleWindow Stage8b.WorkingLimitBook
open Foundation.Bytes Foundation.ExceptRun Foundation.Runs

section Numbers

/-- The text of a number reads back as the number. -/
theorem parseU64_toString (number : UInt64) : parseU64 (toString number.toNat) = some number := by
  have text : (toString number.toNat).toList = Nat.toDigits 10 number.toNat := by
    simp
  have digits : ∀ digit ∈ Nat.toDigits 10 number.toNat, digit.isDigit = true :=
    fun digit member => Nat.isDigit_of_mem_toDigits (by decide) (by decide) member
  have value : (Nat.toDigits 10 number.toNat).foldl
      (fun total digit => total * 10 + (digit.toNat - '0'.toNat)) 0 = number.toNat := by
    have known := @Nat.ofDigitChars_ten_toDigits number.toNat
    rw [Nat.ofDigitChars_eq_foldl] at known
    simpa only [Nat.mul_comm] using known
  unfold parseU64
  rw [text]
  dsimp only
  split
  next rest front =>
    have signed := digits '+' (by rw [front]; exact List.mem_cons_self)
    cases signed
  next =>
    rw [value, if_pos ⟨Nat.toDigits_ne_nil, List.all_eq_true.2 digits, number.toNat_lt⟩, UInt64.ofNat_toNat]

theorem lt_of_checkedAdd {number next : UInt64} (added : checkedAdd number 1 = some next) : number < next := by
  have sum := checkedAdd_toNat added
  rw [UInt64.lt_iff_toNat_lt, sum]
  exact Nat.lt_succ_self _

end Numbers

section States

variable {codec : EnvelopeCodec} {state : Stage8bP1eSchedulePublisherStateV1}

structure Holds (codec : EnvelopeCodec) (state : Stage8bP1eSchedulePublisherStateV1) (row : List UInt8)
    (point : Stage8bP1eScheduleHighWaterV1) : Prop where
  bytes : state.exactEnvelopeBytes = .ok row
  highWater : rowHighWater codec row = .ok point
  sequence : parseU64 state.publicationSequence = some point.publicationSequence
  revision : parseU64 state.semanticRevision = some point.semanticRevision
  schedule : point.scheduleSemanticSha256 = state.scheduleSemanticSha256
  published : parseExactTimestamp codec.calendar state.publishedAtUtc = .ok point.publishedAtUtc
  generation : parseU64 "1" = some point.sourceGeneration

theorem holds_of_validate (valid : state.validate codec = .ok ()) : ∃ row point, Holds codec state row point := by
  unfold Stage8bP1eSchedulePublisherStateV1.validate at valid
  obtain ⟨⟨row, context⟩, structural, valid⟩ := bind_ok_iff.1 valid
  obtain ⟨point, authentic, _⟩ := bind_ok_iff.1 valid
  rw [mapError_ok_iff] at authentic
  unfold authenticateStage8bP1eScheduleObservationV3 at authentic
  obtain ⟨anchor, _, authentic⟩ := bind_ok_iff.1 authentic
  have highWater := rowHighWater_of_authenticate authentic
  unfold Stage8bP1eSchedulePublisherStateV1.validateStructuralState at structural
  obtain ⟨exact, bytes, structural⟩ := bind_ok_iff.1 structural
  obtain ⟨parsed, read, structural⟩ := bind_ok_iff.1 structural
  obtain ⟨agrees, structural⟩ := check_bind_ok_iff.1 structural
  obtain ⟨publishedAt, _, kept⟩ := bind_ok_iff.1 structural
  have same : exact = row := congrArg Prod.fst (Except.ok.inj kept)
  subst same
  rw [rejectIf_ok_iff, not_not] at agrees
  obtain ⟨_, _, generation, _, _, _, _, _, _, _, _, _, _, _, _, _, sourceGeneration, sequence, revision, schedule,
    published, _⟩ := agrees
  have made := highWater
  unfold rowHighWater at made
  rw [orReject_ok_iff] at read
  rw [orReject_bind_of_some read] at made
  unfold highWaterFromEnvelope at made
  obtain ⟨sequenceRead, sequenceParsed, made⟩ := bind_ok_iff.1 made
  obtain ⟨publishedRead, publishedParsed, made⟩ := bind_ok_iff.1 made
  obtain ⟨revisionRead, revisionParsed, made⟩ := bind_ok_iff.1 made
  obtain ⟨generationRead, generationParsed, made⟩ := bind_ok_iff.1 made
  have isPoint := Except.ok.inj made
  subst isPoint
  rw [orReject_ok_iff] at sequenceParsed revisionParsed generationParsed
  rw [sequence] at sequenceParsed
  rw [revision] at revisionParsed
  rw [sourceGeneration, generation] at generationParsed
  rw [published] at publishedParsed
  exact ⟨exact, _, {
    bytes := bytes
    highWater := highWater
    sequence := sequenceParsed
    revision := revisionParsed
    schedule := schedule
    published := publishedParsed
    generation := generationParsed }⟩

/-- Publishing a prepared state does not change what it stands for. -/
theorem Holds.withRow {row : List UInt8} {point : Stage8bP1eScheduleHighWaterV1} (holds : Holds codec state row point)
    (redisId : String) : Holds codec { state with phase := .published, redisStreamId := some redisId } row point where
  bytes := holds.bytes
  highWater := holds.highWater
  sequence := holds.sequence
  revision := holds.revision
  schedule := holds.schedule
  published := holds.published
  generation := holds.generation

end States

section Prepare

variable {codec : EnvelopeCodec} {signer : Stage8bP1eScheduleSigner} {input : Stage8bP1eSchedulePublisherInputV1}

/-- The numbers a publication is prepared with: those behind its prior, or the first ones. -/
theorem prepare_ok {lineage : Stage8bP1eSchedulePublisherLineage} {prepared : Stage8bP1eSchedulePublisherStateV1}
    (made : prepareStage8bP1eSchedulePublication codec input lineage signer = .ok prepared) :
    prepared.validate codec = .ok () ∧ ∃ sequence revision signature,
      prepared = preparedState codec
        { unsignedEnvelope codec input sequence revision with signatureEd25519Hex := signature } ∧
      publicationNumbers codec lineage input.publishedAtUtc
        (semanticSha256 codec (semanticIdentityOf input.payload)) = .ok (sequence, revision) := by
  unfold prepareStage8bP1eSchedulePublication at made
  obtain ⟨_, made⟩ := check_bind_ok_iff.1 made
  obtain ⟨⟨sequence, revision⟩, numbers, made⟩ := bind_ok_iff.1 made
  obtain ⟨_, _, made⟩ := bind_ok_iff.1 made
  obtain ⟨signature, _, made⟩ := bind_ok_iff.1 made
  obtain ⟨_, made⟩ := check_bind_ok_iff.1 made
  obtain ⟨valid, kept⟩ := check_bind_ok_iff.1 made
  have same := Except.ok.inj kept
  subst same
  exact ⟨valid, sequence, revision, _, rfl, numbers⟩

/-- The next sequence is greater, and the revision stays as long as the schedule does. -/
theorem resumePublication_ok {prior : Stage8bP1eSchedulePublisherStateV1} {publishedAtUtc : DateTimeUtc}
    {semanticHash : HexText} {sequence revision priorSequence priorRevision : UInt64}
    {priorPublishedAt : DateTimeUtc}
    (resumed : resumePublication codec prior publishedAtUtc semanticHash = .ok (sequence, revision))
    (timeRead : codec.calendar.parseFromRfc3339 prior.publishedAtUtc = some priorPublishedAt)
    (sequenceRead : parseU64 prior.publicationSequence = some priorSequence)
    (revisionRead : parseU64 prior.semanticRevision = some priorRevision) :
    prior.phase = .published ∧ publishedAtUtc.After priorPublishedAt ∧ priorSequence < sequence ∧
      priorRevision ≤ revision ∧
      (priorRevision = revision → prior.scheduleSemanticSha256 = semanticHash) := by
  unfold resumePublication at resumed
  obtain ⟨_, resumed⟩ := check_bind_ok_iff.1 resumed
  obtain ⟨isPublished, resumed⟩ := check_bind_ok_iff.1 resumed
  rw [orReject_bind_of_some timeRead] at resumed
  obtain ⟨after, resumed⟩ := check_bind_ok_iff.1 resumed
  rw [rejectIf_ok_iff, not_not] at isPublished after
  rw [orReject_bind_of_some sequenceRead, orReject_bind_of_some revisionRead] at resumed
  obtain ⟨next, added, resumed⟩ := bind_ok_iff.1 resumed
  have greater := lt_of_checkedAdd ((orReject_ok_iff ..).1 added)
  split at resumed
  next same =>
    cases resumed
    exact ⟨isPublished, after, greater, UInt64.le_refl _, fun _ => same⟩
  next differs =>
    obtain ⟨nextRevision, revised, kept⟩ := bind_ok_iff.1 resumed
    cases kept
    have newer := lt_of_checkedAdd ((orReject_ok_iff ..).1 revised)
    exact ⟨isPublished, after, greater, UInt64.le_of_lt newer, fun same => absurd same (UInt64.ne_of_lt newer)⟩

end Prepare

section Runs

variable (codec : EnvelopeCodec) (signer : Stage8bP1eScheduleSigner)

/-- A publication that is later than the published one before it is so in whole microseconds. -/
def LaterInMicros (publisher : Publisher) : PublisherEvent → Prop
  | .publish input _ => ∀ prior ∈ publisher.durable, prior.phase = .published →
      ∀ priorPublishedAt ∈ codec.calendar.parseFromRfc3339 prior.publishedAtUtc,
        input.publishedAtUtc.After priorPublishedAt → input.publishedAtUtc.truncMicros.After priorPublishedAt
  | .republish _ => True

instance (publisher : Publisher) (event : PublisherEvent) : Decidable (LaterInMicros codec publisher event) :=
  match event with
  | .publish _ _ => inferInstanceAs (Decidable (∀ prior ∈ publisher.durable, _ → ∀ priorPublishedAt ∈ _, _ → _))
  | .republish _ => .isTrue trivial

/-- Every row follows the ones before it, and so does what is prepared. -/
def Orderly (publisher : Publisher) : Prop :=
  ∃ points, publisher.rows.mapM (rowHighWater codec) = .ok points ∧ points.Pairwise Succeeds ∧
    (publisher.durable = none → points = []) ∧
    ∀ state ∈ publisher.durable, ∃ row point, Holds codec state row point ∧ ∀ older ∈ points, Succeeds point older

variable {codec signer} {publisher next : Publisher}

theorem parseExactTimestamp_reads {calendar : SourceCalendar} {value : String} {time : DateTimeUtc}
    (parsed : parseExactTimestamp calendar value = .ok time) : calendar.parseFromRfc3339 value = some time := by
  unfold parseExactTimestamp at parsed
  obtain ⟨found, read, parsed⟩ := bind_ok_iff.1 parsed
  obtain ⟨_, kept⟩ := check_bind_ok_iff.1 parsed
  rw [← Except.ok.inj kept]
  exact (orReject_ok_iff ..).1 read

/-- What is prepared behind a state follows the row of that state. -/
theorem succeeds_of_prepare (laws : ChronoLaws codec.calendar) {input : Stage8bP1eSchedulePublisherInputV1}
    {prior prepared : Stage8bP1eSchedulePublisherStateV1} {priorRow row : List UInt8}
    {priorPoint point : Stage8bP1eScheduleHighWaterV1}
    (made : prepareStage8bP1eSchedulePublication codec input (.resume prior) signer = .ok prepared)
    (priorHolds : Holds codec prior priorRow priorPoint) (holds : Holds codec prepared row point)
    (later : prior.phase = .published →
      ∀ priorPublishedAt ∈ codec.calendar.parseFromRfc3339 prior.publishedAtUtc,
        input.publishedAtUtc.After priorPublishedAt → input.publishedAtUtc.truncMicros.After priorPublishedAt) :
    Succeeds point priorPoint := by
  obtain ⟨_, sequence, revision, signature, same, numbers⟩ := prepare_ok made
  subst same
  have priorTime := parseExactTimestamp_reads priorHolds.published
  obtain ⟨isPublished, after, greater, revised, schedule⟩ :=
    resumePublication_ok numbers priorTime priorHolds.sequence priorHolds.revision
  have sequenceRead := (parseU64_toString sequence).symm.trans holds.sequence
  have revisionRead := (parseU64_toString revision).symm.trans holds.revision
  have isSequence := Option.some.inj sequenceRead
  have isRevision := Option.some.inj revisionRead
  have published := laws.text input.publishedAtUtc point.publishedAtUtc (parseExactTimestamp_reads holds.published)
  have time := later isPublished priorPoint.publishedAtUtc priorTime after
  have generation : point.sourceGeneration = priorPoint.sourceGeneration :=
    Option.some.inj (holds.generation.symm.trans priorHolds.generation)
  subst isSequence
  subst isRevision
  refine .inr ⟨generation, greater, ?_, revised, ?_⟩
  · rw [published]
    exact time
  · intro equal
    rw [priorHolds.schedule, holds.schedule]
    exact schedule equal

/-- However far the publication of a state gets that follows every row, all stays in order. -/
theorem orderly_of_publishPrepared {prepared : Stage8bP1eSchedulePublisherStateV1} {finish : PublicationEnd}
    {row : List UInt8} {point : Stage8bP1eScheduleHighWaterV1} {points : List Stage8bP1eScheduleHighWaterV1}
    (published : publishPrepared codec publisher prepared finish = .ok next)
    (mapped : publisher.rows.mapM (rowHighWater codec) = .ok points) (ordered : points.Pairwise Succeeds)
    (holds : Holds codec prepared row point) (follows : ∀ older ∈ points, Succeeds point older) :
    Orderly codec next := by
  unfold publishPrepared at published
  obtain ⟨_, published⟩ := check_bind_ok_iff.1 published
  obtain ⟨_, published⟩ := check_bind_ok_iff.1 published
  obtain ⟨payload, bytes, published⟩ := bind_ok_iff.1 published
  have isRow : payload = row := Except.ok.inj (bytes.symm.trans holds.bytes)
  subst isRow
  have appended : (payload :: publisher.rows).mapM (rowHighWater codec) = .ok (point :: points) := by
    rw [List.mapM_cons, holds.highWater, ok_bind, mapped, ok_bind]
    rfl
  have stays : ∀ older ∈ point :: points, Succeeds point older := by
    intro older member
    rcases List.mem_cons.1 member with rfl | member
    · exact Succeeds.refl older
    · exact follows older member
  have newOrdered := List.pairwise_cons.2 ⟨follows, ordered⟩
  have leaves : ∀ state : Stage8bP1eSchedulePublisherStateV1, Holds codec state payload point →
      Orderly codec { durable := some state, rows := payload :: publisher.rows } := by
    intro state stateHolds
    refine ⟨point :: points, appended, newOrdered, fun absent => (nomatch absent), ?_⟩
    intro other isState
    cases isState
    exact ⟨payload, point, stateHolds, stays⟩
  cases finish with
  | stopsBeforeRow =>
      cases published
      refine ⟨points, mapped, ordered, fun absent => (nomatch absent), ?_⟩
      intro other isState
      cases isState
      exact ⟨payload, point, holds, follows⟩
  | stopsBehindRow =>
      cases published
      exact leaves prepared holds
  | answers redisId =>
      dsimp only at published
      split at published
      · cases published
        exact leaves _ (holds.withRow redisId)
      · cases published
        exact leaves prepared holds

/-- The step lemma: a publication that is later in microseconds, or any republication, keeps the order. -/
theorem Orderly.step (laws : ChronoLaws codec.calendar) (orderly : Orderly codec publisher) {event : PublisherEvent}
    (later : LaterInMicros codec publisher event) (stepped : publisher.step codec signer event = .ok next) :
    Orderly codec next := by
  obtain ⟨points, mapped, ordered, fresh, durable⟩ := orderly
  cases event with
  | publish input finish =>
      unfold Publisher.step Publisher.lineage at stepped
      dsimp only at stepped
      obtain ⟨prepared, made, published⟩ := bind_ok_iff.1 stepped
      obtain ⟨row, point, holds⟩ := holds_of_validate (prepare_ok made).1
      refine orderly_of_publishPrepared published mapped ordered holds ?_
      intro older member
      cases kept : publisher.durable with
      | none =>
          rw [fresh kept] at member
          cases member
      | some prior =>
          rw [kept] at made
          obtain ⟨priorRow, priorPoint, priorHolds, follows⟩ := durable prior kept
          have succeeds := succeeds_of_prepare laws made priorHolds holds (later prior kept)
          exact succeeds.trans (follows older member)
  | republish finish =>
      unfold Publisher.step at stepped
      dsimp only at stepped
      obtain ⟨prepared, kept, published⟩ := bind_ok_iff.1 stepped
      rw [orReject_ok_iff] at kept
      obtain ⟨row, point, holds, follows⟩ := durable prepared kept
      exact orderly_of_publishPrepared published mapped ordered holds follows

theorem Orderly.advance (laws : ChronoLaws codec.calendar) (orderly : Orderly codec publisher) {event : PublisherEvent}
    (later : LaterInMicros codec publisher event) : Orderly codec (publisher.advance codec signer event) := by
  unfold Publisher.advance
  split
  next stepped => exact orderly.step laws later stepped
  next => exact orderly

theorem Orderly.run (laws : ChronoLaws codec.calendar) {events : List PublisherEvent} (orderly : Orderly codec publisher)
    (all : EveryStep (Publisher.advance codec signer) (LaterInMicros codec) publisher events) :
    Orderly codec (events.foldl (Publisher.advance codec signer) publisher) := by
  induction events generalizing publisher with
  | nil => exact orderly
  | cons event events ih =>
      obtain ⟨first, rest⟩ := all
      exact ih (orderly.advance laws first) rest

theorem initial_orderly : Orderly codec Publisher.initial := by
  refine ⟨[], rfl, List.Pairwise.nil, fun _ => rfl, ?_⟩
  intro state absent
  cases absent

/-- The reader takes the newest rows of a publisher, behind any high water that is one of its rows. -/
def Reads (codec : EnvelopeCodec) (rows : List (List UInt8)) : Prop :=
  ∃ points, rows.mapM (rowHighWater codec) = .ok points ∧ ∀ count ≤ 64, ∀ highWater : Option Stage8bP1eScheduleHighWaterV1,
    (∀ row ∈ highWater, row ∈ points) →
      validateBoundedProgression ((points.take count).map .fromHighWater) (highWater.map .fromHighWater) = .ok () ∧
      ∀ newest ∈ points.head?, ∃ progression, validateProgression highWater newest = .ok progression

theorem Orderly.reads (orderly : Orderly codec publisher) : Reads codec publisher.rows := by
  obtain ⟨points, mapped, ordered, _, _⟩ := orderly
  refine ⟨points, mapped, ?_⟩
  intro count _ highWater known
  refine ⟨validateBoundedProgression_of_pairwise ordered count known, ?_⟩
  intro newest isNewest
  cases points with
  | nil => cases isNewest
  | cons head rest =>
      cases isNewest
      exact validateProgression_of_pairwise ordered known

/-- Whatever the publisher does and wherever it stops, its reader never refuses its rows, if every
publication is later in microseconds than the one it resumes. -/
theorem publications_read (laws : ChronoLaws codec.calendar) (events : List PublisherEvent)
    (later : EveryStep (Publisher.advance codec signer) (LaterInMicros codec) .initial events) :
    Reads codec (events.foldl (Publisher.advance codec signer) .initial).rows :=
  (initial_orderly.run laws later).reads

end Runs

section Sample

open Stage6.PlainCodec Stage6.PlainScheduleCodec Stage5e.PlainScheduleEnvelope

def sampleSigner : Stage8bP1eScheduleSigner where
  publicKeyEd25519Hex := schedulePublicKeyEd25519Hex
  signRawPrehash := fun _ => .ok (List.replicate 64 0x55)

def publicationAt (publishedAtUtc : DateTimeUtc) : Stage8bP1eSchedulePublisherInputV1 where
  payload := dayPayload
  operationalIdentitySha256 := sampleHex 4
  runtimeConfigFingerprintSha256 := sampleHex 5
  instrumentMapFingerprintSha256 := sampleHex 3
  publishedAtUtc := publishedAtUtc

/-- The plain codec, which reads the given envelopes back. -/
def envelopeCodec (known : List Stage8bP1eScheduleEnvelopeV3) : EnvelopeCodec :=
  { dayJson known with
    calendar := dayCalendar
    sha256 := plainHash }

/-- The codec that reads the envelopes of two publications of one schedule back. -/
def twiceCodec (first second : DateTimeUtc) : EnvelopeCodec :=
  envelopeCodec ([(first, 1), (second, 2)].map fun (publishedAtUtc, sequence) =>
    { unsignedEnvelope (envelopeCodec []) (publicationAt publishedAtUtc) sequence 1 with
      signatureEd25519Hex := hexString (List.replicate 64 0x55) })

theorem twiceCodec_laws (first second : DateTimeUtc) : ChronoLaws (twiceCodec first second).calendar :=
  dayCalendar_laws

/-- The first row is published twice, for its answer was lost, and another one a second later. -/
def repeatedPublication : List PublisherEvent :=
  [.publish (publicationAt (daySecond 12 0 0)) .stopsBehindRow, .republish (.answers "5-0"),
    .publish (publicationAt (daySecond 12 0 1)) (.answers "6-0")]

theorem repeatedPublication_reads :
    (repeatedPublication.foldl (Publisher.advance (twiceCodec (daySecond 12 0 0) (daySecond 12 0 1)) sampleSigner)
        .initial).rows.length = 3 ∧
      Reads (twiceCodec (daySecond 12 0 0) (daySecond 12 0 1))
        (repeatedPublication.foldl (Publisher.advance (twiceCodec (daySecond 12 0 0) (daySecond 12 0 1)) sampleSigner)
          .initial).rows :=
  ⟨by decide +kernel, publications_read (twiceCodec_laws _ _) repeatedPublication (by decide +kernel)⟩

def noonNanos (nanos : UInt32) : DateTimeUtc :=
  { daySecond 12 0 0 with nanos := nanos }

/-- Two publications within one microsecond, both accepted and durable. -/
def hastyCodec : EnvelopeCodec :=
  twiceCodec (noonNanos 100) (noonNanos 200)

def hastyPublisher : Publisher :=
  [PublisherEvent.publish (publicationAt (noonNanos 100)) (.answers "5-0"),
    .publish (publicationAt (noonNanos 200)) (.answers "6-0")].foldl (Publisher.advance hastyCodec sampleSigner) .initial

def hastyConflict : Bool :=
  match hastyPublisher.rows.mapM (rowHighWater hastyCodec) with
  | .ok [newest, older] =>
      validateBoundedProgression ([newest, older].map .fromHighWater) none = .error .progressionConflict &&
        validateProgression (some older) newest = .error .progressionConflict
  | _ => false

/-- The reader refuses two rows of one microsecond, and the newest one behind the high water of the other. -/
theorem hasty_publications_conflict : ∃ newest older,
    hastyPublisher.rows.mapM (rowHighWater hastyCodec) = .ok [newest, older] ∧
      validateBoundedProgression ([newest, older].map .fromHighWater) none = .error .progressionConflict ∧
      validateProgression (some older) newest = .error .progressionConflict ∧
      ¬ Reads hastyCodec hastyPublisher.rows := by
  have conflict : hastyConflict = true := by
    decide +kernel
  unfold hastyConflict at conflict
  split at conflict
  next newest older mapped =>
    rw [Bool.and_eq_true, decide_eq_true_eq, decide_eq_true_eq] at conflict
    refine ⟨newest, older, mapped, conflict.1, conflict.2, ?_⟩
    rintro ⟨points, others, reads⟩
    have same : [newest, older] = points := Except.ok.inj (mapped.symm.trans others)
    subst same
    have accepted := (reads 64 (Nat.le_refl 64) none (by simp)).1
    cases conflict.1.symm.trans accepted
  next => cases conflict

end Sample

end TradingGateway.FinamGateway.SchedulePublisher
