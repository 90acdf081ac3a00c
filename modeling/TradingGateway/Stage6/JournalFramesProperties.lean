import TradingGateway.Foundation.ChainedFrames
import TradingGateway.Stage6.JournalFrames
import TradingGateway.Stage6.PlainReconciliationCodec

/-! The scan of a journal is exact: it accepts the framed journals and nothing
else, and a journal cut inside a frame is torn. -/

set_option autoImplicit false

namespace TradingGateway.Stage6.JournalFrames

open JournalRecord PlainReconciliationCodec VersionedRecord
open Foundation.Bytes Foundation.ChainedFrames Foundation.ExceptRun

section Codec

variable {codec : ReconciliationCodec}

/-- A decoder that ends by comparing the encoding of its result with its input. -/
theorem encode_eq_of_checked {Error Wire Record : Type} {read : Except Error Wire}
    {build : Wire → Except Error Record} {encode : Record → List UInt8} {bytes : List UInt8} {error : Error}
    {record : Record}
    (decoded : (do
      let wire ← read
      let built ← build wire
      rejectIf (encode built ≠ bytes) error
      .ok built) = .ok record) : encode record = bytes := by
  obtain ⟨_, _, checked⟩ := bind_ok_iff.1 decoded
  obtain ⟨_, _, checked⟩ := bind_ok_iff.1 checked
  obtain ⟨same, result⟩ := check_bind_ok_iff.1 checked
  cases result
  simpa using same

/-- The encoding of a decoded record is the bytes it was decoded from. -/
theorem encodeCanonical_of_decodeCanonical {bytes : List UInt8} {record : Stage6JournalRecordVersioned codec}
    (decoded : Stage6JournalRecordVersioned.decodeCanonical codec bytes = .ok record) :
    record.encodeCanonical = bytes := by
  obtain ⟨version, _, versioned⟩ := bind_ok_iff.1 decoded
  split_ifs at versioned
  · rw [mapError_ok_iff, map_ok_iff] at versioned
    obtain ⟨v1, found, rfl⟩ := versioned
    have same : v1.encodeCanonical = bytes := encode_eq_of_checked found
    exact same
  · rw [map_ok_iff] at versioned
    obtain ⟨v2, found, rfl⟩ := versioned
    have same : v2.encodeCanonical = bytes := encode_eq_of_checked found
    exact same
  · rw [mapError_ok_iff, map_ok_iff] at versioned
    obtain ⟨v3, found, rfl⟩ := versioned
    have same : v3.encodeCanonical = bytes := encode_eq_of_checked found
    exact same
  · rw [mapError_ok_iff, map_ok_iff] at versioned
    obtain ⟨v4, found, rfl⟩ := versioned
    have same : v4.encodeCanonical = bytes := encode_eq_of_checked found
    exact same

/-- The decoder undoes the encoder on the valid records and accepts nothing else. -/
def DecodesExactly (codec : ReconciliationCodec) (Valid : Stage6JournalRecordVersioned codec → Prop) : Prop :=
  ∀ bytes record, Stage6JournalRecordVersioned.decodeCanonical codec bytes = .ok record ↔
    Valid record ∧ record.encodeCanonical = bytes

def Restores (record : Stage6JournalRecordVersioned codec) : Prop :=
  Stage6JournalRecordVersioned.decodeCanonical codec record.encodeCanonical = .ok record

/-- Whatever the JSON reader, the decoder is exact on the records it restores. -/
theorem decodesExactly_restores : DecodesExactly codec Restores := by
  intro bytes record
  constructor
  · intro decoded
    have same := encodeCanonical_of_decodeCanonical decoded
    exact ⟨by unfold Restores; rwa [same], same⟩
  · intro restored
    rw [← restored.2]
    exact restored.1

theorem DecodesExactly.valid_iff {Valid : Stage6JournalRecordVersioned codec → Prop}
    (lawful : DecodesExactly codec Valid) (record : Stage6JournalRecordVersioned codec) :
    Valid record ↔ Restores record := by
  have exact_ := lawful record.encodeCanonical record
  simpa [eq_comm, Restores] using exact_.symm

def LengthValid (record : Stage6JournalRecordVersioned codec) : Prop :=
  1 ≤ record.encodeCanonical.length ∧ record.encodeCanonical.length ≤ stage6JournalMaxRecordBytes

instance (record : Stage6JournalRecordVersioned codec) : Decidable (LengthValid record) :=
  inferInstanceAs (Decidable (_ ∧ _))

structure Storable (record : Stage6JournalRecordVersioned codec) : Prop where
  restores : Restores record
  lengthValid : LengthValid record

end Codec

section Frame

variable (codec : ReconciliationCodec)

def recordDigest (previous : Sha256Output) (record : Stage6JournalRecordVersioned codec) : Sha256Output :=
  frameDigest codec record.encodeCanonical.length previous.bytes record.encodeCanonical

def framePrefixOf (declared : Nat) (previous : Sha256Output) : List UInt8 :=
  frameMagic ++ toBigEndian 2 frameVersion.toNat ++ toBigEndian 4 declared ++ previous.bytes

def recordFrame (previous : Sha256Output) (record : Stage6JournalRecordVersioned codec) : List UInt8 :=
  framePrefixOf record.encodeCanonical.length previous ++ record.encodeCanonical ++
    (recordDigest codec previous record).bytes

theorem validateRecordLength_ok_iff {length result : Nat} :
    validateRecordLength length = .ok result ↔
      0 < length ∧ length ≤ stage6JournalMaxRecordBytes ∧ result = length := by
  unfold validateRecordLength
  rw [check_bind_ok_iff, rejectIf_ok_iff, Except.ok.injEq]
  unfold stage6JournalMaxRecordBytes
  omega

theorem length_framePrefixOf (declared : Nat) (previous : Sha256Output) :
    (framePrefixOf declared previous).length = framePrefixBytes := by
  simp [framePrefixOf, framePrefixBytes, previous.length_bytes]

theorem length_recordFrame (previous : Sha256Output) (record : Stage6JournalRecordVersioned codec) :
    (recordFrame codec previous record).length =
      framePrefixBytes + record.encodeCanonical.length + frameHashBytes := by
  simp [recordFrame, length_framePrefixOf, (recordDigest codec previous record).length_bytes, frameHashBytes,
    Nat.add_assoc]

/-- The fields that the scanner reads from a prefix. -/
theorem framePrefixOf_fields {declared : Nat} (small : declared ≤ stage6JournalMaxRecordBytes)
    (previous : Sha256Output) (rest : List UInt8) :
    let bytes := framePrefixOf declared previous ++ rest
    bytes.take 4 = frameMagic ∧ ofBigEndian ((bytes.drop 4).take 2) = frameVersion.toNat ∧
      ofBigEndian ((bytes.drop 6).take 4) = declared ∧ bytes.drop 10 = previous.bytes ++ rest := by
  have width : declared < 256 ^ 4 := by
    unfold stage6JournalMaxRecordBytes at small
    omega
  have versionBytes : toBigEndian 2 frameVersion.toNat = [0, 1] := by decide
  have lengthBytes : (toBigEndian 4 declared).length = 4 := length_toBigEndian 4 declared
  simp only [framePrefixOf, versionBytes, frameMagic, List.append_assoc, List.cons_append, List.nil_append,
    List.take_succ_cons, List.take_zero, List.drop_succ_cons, List.drop_zero]
  refine ⟨trivial, by decide, ?_, ?_⟩
  · rw [List.take_append_of_le_length (by omega), List.take_of_length_le (by omega),
      ofBigEndian_toBigEndian width]
  · rw [List.drop_append_of_le_length (by omega), List.drop_of_length_le (by omega), List.nil_append]

/-- A version field is determined by the version it spells. -/
theorem toBigEndian_of_version {field : List UInt8} {version : UInt16} (width : field.length = 2)
    (spells : UInt16.ofNat (ofBigEndian field) = version) : toBigEndian 2 version.toNat = field := by
  have small : ofBigEndian field < 2 ^ 16 := by
    have bound := ofBigEndian_lt field
    rw [width] at bound
    omega
  have roundTrip := toBigEndian_ofBigEndian field
  rw [width] at roundTrip
  rw [← spells, UInt16.toNat_ofNat', Nat.mod_eq_of_lt small, roundTrip]

/-- A prefix is determined by its fields. -/
theorem framePrefixOf_of_fields {bytes : List UInt8} {previous : Sha256Output}
    (length : bytes.length = framePrefixBytes) (magic : bytes.take 4 = frameMagic)
    (version : UInt16.ofNat (ofBigEndian ((bytes.drop 4).take 2)) = frameVersion)
    (chained : bytes.drop 10 = previous.bytes) :
    bytes = framePrefixOf (ofBigEndian ((bytes.drop 6).take 4)) previous := by
  have total : bytes.length = 42 := length
  have versionField := toBigEndian_of_version (by simp [total]) version
  have lengthField : toBigEndian 4 (ofBigEndian ((bytes.drop 6).take 4)) = (bytes.drop 6).take 4 := by
    have four : ((bytes.drop 6).take 4).length = 4 := by simp [total]
    have roundTrip := toBigEndian_ofBigEndian ((bytes.drop 6).take 4)
    rwa [four] at roundTrip
  unfold framePrefixOf
  rw [versionField, lengthField, ← magic, ← chained, List.append_assoc, List.append_assoc]
  conv_lhs => rw [← List.take_append_drop 4 bytes, ← List.take_append_drop 2 (bytes.drop 4), List.drop_drop,
    ← List.take_append_drop 4 (bytes.drop 6), List.drop_drop]

theorem scanFramePrefix_framePrefixOf {declared : Nat} (positive : 0 < declared)
    (small : declared ≤ stage6JournalMaxRecordBytes) (previous : Sha256Output) :
    scanFramePrefix (framePrefixOf declared previous) = .ok declared ∧
      (framePrefixOf declared previous).drop 10 = previous.bytes := by
  obtain ⟨magic, version, length, chained⟩ := framePrefixOf_fields small previous []
  rw [List.append_nil] at magic version length chained
  refine ⟨?_, by simpa using chained⟩
  unfold scanFramePrefix
  rw [magic, version, length]
  have valid : validateRecordLength declared = .ok declared := validateRecordLength_ok_iff.2 ⟨positive, small, rfl⟩
  rw [valid]
  rfl

variable {codec}

/-- An accepted frame is the frame of the record in it. -/
theorem scanFrame_sound {remaining : Nat} {previous : Sha256Output} {reader : List UInt8}
    {frame : ScannedFrame codec} (success : scanFrame codec remaining previous reader = .ok frame) :
    Storable frame.record ∧ frame.computed = recordDigest codec previous frame.record ∧
      frame.frameTotal = (recordFrame codec previous frame.record).length ∧
        reader = recordFrame codec previous frame.record ++ frame.rest := by
  obtain ⟨framePrefix, recordLength, rest, shape, width, header, body⟩ := scanFrame_ok success
  obtain ⟨recordBytes, bodyShape, recordWidth, chained, digest, total, decoded⟩ := scanFrameBody_ok body
  have encoded := encodeCanonical_of_decodeCanonical decoded
  obtain ⟨magic, header⟩ := check_bind_ok_iff.1 header
  obtain ⟨version, header⟩ := check_bind_ok_iff.1 header
  simp only [rejectIf_ok_iff, ne_eq, not_not] at magic version
  rw [mapError_ok_iff, validateRecordLength_ok_iff] at header
  obtain ⟨positive, bounded, declared⟩ := header
  have prefixShape := framePrefixOf_of_fields width magic version chained
  rw [← declared, ← recordWidth, ← encoded] at prefixShape
  have digestShape : frame.computed = recordDigest codec previous frame.record := by
    rw [digest, chained, ← recordWidth, ← encoded]
    rfl
  refine ⟨{ restores := ?_, lengthValid := ?_ }, digestShape, ?_, ?_⟩
  · unfold Restores
    rwa [encoded]
  · unfold LengthValid
    rw [encoded, recordWidth, declared]
    exact ⟨positive, bounded⟩
  · rw [total, length_recordFrame, encoded, recordWidth]
  · rw [shape, bodyShape, prefixShape, digestShape, ← encoded]
    simp only [recordFrame, List.append_assoc]

/-- The scanner reads a frame as far as its prefix, and goes on behind it. -/
theorem scanFrame_framePrefixOf {declared : Nat} (positive : 0 < declared)
    (small : declared ≤ stage6JournalMaxRecordBytes) (previous : Sha256Output) {remaining : Nat}
    (long : framePrefixBytes + frameHashBytes ≤ remaining) (rest : List UInt8) :
    scanFrame codec remaining previous (framePrefixOf declared previous ++ rest) =
      scanFrameBody codec remaining declared previous.bytes previous rest := by
  obtain ⟨header, chained⟩ := scanFramePrefix_framePrefixOf positive small previous
  have notShort : ¬ remaining < framePrefixBytes + frameHashBytes := Nat.not_lt.2 long
  have read : readExact framePrefixBytes (framePrefixOf declared previous ++ rest) =
      some (framePrefixOf declared previous, rest) := readExact_append rest (length_framePrefixOf declared previous)
  unfold scanFrame
  rw [if_neg notShort, orReject_bind_of_some read]
  dsimp only
  rw [header, ok_bind, chained]

/-- The frame of a storable record is accepted, whatever stands behind it. -/
theorem scanFrame_complete {record : Stage6JournalRecordVersioned codec} (storable : Storable record)
    (previous : Sha256Output) (rest : List UInt8) :
    scanFrame codec (recordFrame codec previous record ++ rest).length previous
        (recordFrame codec previous record ++ rest) =
      .ok {
        record := record
        computed := recordDigest codec previous record
        frameTotal := (recordFrame codec previous record).length
        rest := rest } := by
  have total := length_recordFrame codec previous record
  have decoded : Stage6JournalRecordVersioned.decodeCanonical codec record.encodeCanonical = .ok record :=
    storable.restores
  have bound : framePrefixBytes + record.encodeCanonical.length + frameHashBytes ≤
      (recordFrame codec previous record ++ rest).length := by
    rw [List.length_append, total]
    omega
  have shape : recordFrame codec previous record ++ rest =
      framePrefixOf record.encodeCanonical.length previous ++
        (record.encodeCanonical ++ ((recordDigest codec previous record).bytes ++ rest)) := by
    simp only [recordFrame, List.append_assoc]
  rw [total]
  generalize (recordFrame codec previous record ++ rest).length = remaining at bound
  rw [shape, scanFrame_framePrefixOf storable.lengthValid.1 storable.lengthValid.2 previous (by omega)]
  dsimp only [scanFrameBody]
  rw [rejectIf_of_not _ (by omega), ok_bind, rejectIf_of_not _ (by simp), ok_bind,
    orReject_bind_of_some (readExact_append _ rfl)]
  dsimp only
  have readHash : readExact frameHashBytes ((recordDigest codec previous record).bytes ++ rest) =
      some ((recordDigest codec previous record).bytes, rest) :=
    readExact_append rest (recordDigest codec previous record).length_bytes
  rw [orReject_bind_of_some readHash, rejectIf_of_not _ (by simp [recordDigest]), ok_bind, decoded]
  rfl

/-- A proper part of a frame is torn: it is too short for any frame and starts
like one, or its own prefix declares more than there is. -/
theorem scanFrame_torn {record : Stage6JournalRecordVersioned codec} (storable : Storable record)
    {previous : Sha256Output} {front back : List UInt8} (split : recordFrame codec previous record = front ++ back)
    (unfinished : back ≠ []) :
    scanFrame codec front.length previous front = .error (.rejected .tornFrame) := by
  have total := length_recordFrame codec previous record
  have missing := List.length_pos_iff.2 unfinished
  have short : front.length < framePrefixBytes + record.encodeCanonical.length + frameHashBytes := by
    rw [split, List.length_append] at total
    omega
  by_cases long : framePrefixBytes + frameHashBytes ≤ front.length
  · have whole : framePrefixOf record.encodeCanonical.length previous <+: recordFrame codec previous record := by
      simp [recordFrame]
    have width : (framePrefixOf record.encodeCanonical.length previous).length ≤ front.length := by
      rw [length_framePrefixOf]
      omega
    obtain ⟨rest, shape⟩ := List.prefix_of_prefix_length_le whole (by simp [split]) width
    rw [← shape] at short long ⊢
    rw [scanFrame_framePrefixOf storable.lengthValid.1 storable.lengthValid.2 previous long]
    dsimp only [scanFrameBody, rejectIf]
    rw [if_pos short, error_bind]
  · have startsLikeFrame : (front.take (min front.length frameMagic.length)) <+: frameMagic := by
      have within : front.take (min front.length frameMagic.length) <+: recordFrame codec previous record :=
        (List.take_prefix ..).trans (by simp [split])
      refine List.prefix_of_prefix_length_le within ?_ (by simp)
      simp [recordFrame, framePrefixOf, List.append_assoc]
    unfold scanFrame scanShortTail
    rw [if_pos (by omega)]
    have read : readExact front.length front = some (front, []) := readExact_eq_some_iff.2 ⟨by simp, rfl⟩
    rw [orReject_bind_of_some read]
    dsimp only [shortTailError]
    rw [if_pos (List.isPrefixOf_iff_prefix.2 startsLikeFrame)]

end Frame

section Journal

def readsBack {codec : ReconciliationCodec} (record : Stage6JournalRecordV1 codec.toDurableRecordCodec) : Bool :=
  match Stage6JournalRecordVersioned.decodeCanonical codec record.encodeCanonical with
  | .ok (.v1 found) => decide (found = record)
  | _ => false

theorem storable_of_readsBack {codec : ReconciliationCodec}
    {record : Stage6JournalRecordV1 codec.toDurableRecordCodec}
    (checked : (readsBack record && decide (LengthValid (.v1 record))) = true) :
    Storable (.v1 record : Stage6JournalRecordVersioned codec) := by
  obtain ⟨decodes, lengthValid⟩ := Bool.and_eq_true_iff.1 checked
  refine { restores := ?_, lengthValid := of_decide_eq_true lengthValid }
  unfold Restores
  unfold readsBack at decodes
  split at decodes
  next found decoded => exact decoded.trans (by rw [of_decide_eq_true decodes])
  next => cases decodes

/-- The acceptance of a place request and its dispatch, in the plain codec that reads both back. -/
structure DispatchedPlace where
  known : List Stage6JournalRecordWireV1
  accepted : Stage6JournalRecordV1 (readingCodec known).toDurableRecordCodec
  attempt : Stage6JournalRecordV1 (readingCodec known).toDurableRecordCodec

def dispatchedPlace : Option DispatchedPlace := do
  let sample ← rejectedPlace
  let known := [sample.accepted.toStage6JournalRecordWireV1, sample.attempt.toStage6JournalRecordWireV1]
  let accepted ← (Stage6JournalRecordV1.ofWire sample.accepted.toStage6JournalRecordWireV1).toOption
  let attempt ← (Stage6JournalRecordV1.ofWire sample.attempt.toStage6JournalRecordWireV1).toOption
  some { known := known, accepted := accepted, attempt := attempt }

theorem dispatchedPlace_storable :
    ∃ sample, dispatchedPlace = some sample ∧
      Storable (.v1 sample.accepted : Stage6JournalRecordVersioned (readingCodec sample.known)) ∧
        Storable (.v1 sample.attempt : Stage6JournalRecordVersioned (readingCodec sample.known)) := by
  have evaluated : (dispatchedPlace.map fun sample =>
      (readsBack sample.accepted && decide (LengthValid (.v1 sample.accepted)),
        readsBack sample.attempt && decide (LengthValid (.v1 sample.attempt)))) = some (true, true) := by
    decide +kernel
  obtain ⟨sample, found, checked⟩ := Option.map_eq_some_iff.1 evaluated
  obtain ⟨accepted, attempt⟩ := Prod.mk.inj checked
  exact ⟨sample, found, storable_of_readsBack accepted, storable_of_readsBack attempt⟩

variable (codec : ReconciliationCodec)

/-- Record frames as a format of chained frames: the link is the digest of the frame before. -/
def frameFormat : Format UInt8 Sha256Output (Stage6JournalRecordVersioned codec) Stage6JournalStorageHalt where
  Storable := Storable
  next := recordDigest codec
  write := recordFrame codec
  read := fun previous bytes =>
    (fun frame => (frame.record, frame.rest)) <$> scanFrame codec bytes.length previous bytes
  torn := .rejected .tornFrame
  write_ne_nil := by
    intro previous record empty
    have total := length_recordFrame codec previous record
    rw [empty] at total
    simp [frameHashBytes] at total
  read_ok_iff := by
    intro previous bytes record rest
    rw [map_ok_iff]
    constructor
    · intro found
      obtain ⟨frame, scanned, same⟩ := found
      cases same
      obtain ⟨storable, _, _, shape⟩ := scanFrame_sound scanned
      exact ⟨storable, shape⟩
    · intro framed
      obtain ⟨storable, rfl⟩ := framed
      exact ⟨_, scanFrame_complete storable previous rest, rfl⟩
  read_torn := by
    intro previous record front back storable split _ unfinished
    rw [scanFrame_torn storable split unfinished]
    rfl

def journalBytes (records : List (Stage6JournalRecordVersioned codec)) : List UInt8 :=
  journalHeader ++ (frameFormat codec).writeAll (genesisDigest codec) records

/-- The loop state after the frame of one more record. -/
def ScanProgress.pushRecord {codec : ReconciliationCodec} (progress : ScanProgress codec)
    (record : Stage6JournalRecordVersioned codec) : ScanProgress codec :=
  progress.push {
    record := record
    computed := recordDigest codec progress.previous record
    frameTotal := (recordFrame codec progress.previous record).length
    rest := [] }

def scanOf (records : List (Stage6JournalRecordVersioned codec)) : ScannedJournal codec :=
  let progress := records.foldl ScanProgress.pushRecord (.start codec)
  { records := progress.records
    versionedRecords := progress.versionedRecords
    frontiers := progress.frontiers
    frontier := progress.frontiers.getLast?.getD (.empty codec)
    lastFrameDigest := progress.previous }

variable {codec}

theorem scanFrames_done {totalLength : Nat} {progress : ScanProgress codec} (reader : List UInt8)
    (done : ¬ progress.offset < totalLength) : scanFrames totalLength progress reader = .ok progress := by
  rw [scanFrames, if_neg done]

theorem scanFrames_turn {totalLength : Nat} {progress : ScanProgress codec} (reader : List UInt8)
    (more : progress.offset < totalLength) :
    scanFrames totalLength progress reader =
      scanFrame codec (totalLength - progress.offset) progress.previous reader >>= fun frame =>
        scanFrames totalLength (progress.push frame) frame.rest := by
  rw [scanFrames, if_pos more]
  split
  next halt failed => rw [failed, error_bind]
  next frame scanned => rw [scanned, ok_bind]

/-- An accepted frame moves the loop as its record does. -/
theorem push_eq_pushRecord {progress : ScanProgress codec} {remaining : Nat} {reader : List UInt8}
    {frame : ScannedFrame codec} (scanned : scanFrame codec remaining progress.previous reader = .ok frame) :
    progress.push frame = progress.pushRecord frame.record := by
  obtain ⟨_, computed, total, _⟩ := scanFrame_sound scanned
  unfold ScanProgress.pushRecord
  rw [← computed, ← total]
  rfl

/-- The scan loop reads frames until nothing is left, and pushes their records. -/
theorem scanFrames_eq {totalLength : Nat} (progress : ScanProgress codec) (reader : List UInt8)
    (reached : progress.offset + reader.length = totalLength) :
    scanFrames totalLength progress reader =
      (frameFormat codec).readAll progress.previous reader >>= fun records =>
        .ok (records.foldl ScanProgress.pushRecord progress) := by
  induction measure : reader.length using Nat.strongRecOn generalizing progress reader with
  | _ length ih =>
      by_cases empty : reader = []
      · subst empty
        have done : ¬ progress.offset < totalLength := by
          simp only [List.length_nil] at reached
          omega
        rw [scanFrames_done [] done, Format.readAll_nil]
        rfl
      · have started := List.length_pos_iff.2 empty
        have remaining : totalLength - progress.offset = reader.length := by omega
        rw [scanFrames_turn reader (by omega), remaining, Format.readAll_of_ne_nil _ _ empty]
        cases scanned : scanFrame codec reader.length progress.previous reader with
        | error halt =>
            have unread : (frameFormat codec).read progress.previous reader = .error halt := by
              simp [frameFormat, scanned]
            rw [unread]
            rfl
        | ok frame =>
            have read : (frameFormat codec).read progress.previous reader = .ok (frame.record, frame.rest) := by
              simp [frameFormat, scanned]
            obtain ⟨_, computed, total, shape⟩ := scanFrame_sound scanned
            have consumed := congrArg List.length shape
            rw [List.length_append, ← total] at consumed
            have moved : (progress.push frame).offset + frame.rest.length = totalLength := by
              change progress.offset + frame.frameTotal + _ = _
              omega
            have shorter := scanFrame_shrinks scanned
            rw [ok_bind, ih frame.rest.length (by omega) (progress.push frame) frame.rest moved rfl, read, ok_bind,
              push_eq_pushRecord scanned]
            dsimp only
            have link : (progress.pushRecord frame.record).previous =
                (frameFormat codec).next progress.previous frame.record := rfl
            rw [link, bind_assoc]
            rfl

def ScanProgress.frontier (progress : ScanProgress codec) : Stage6JournalFrontierV1 :=
  progress.frontiers.getLast?.getD (.empty codec)

/-- What the loop keeps: the offset stands behind the header and at the frontier,
and every frontier passes its own check. -/
structure ScanProgress.Sound (progress : ScanProgress codec) : Prop where
  offset : journalHeaderBytes ≤ progress.offset
  atFrontier : progress.frontier.journalByteLength = progress.offset
  frontiers : ∀ frontier ∈ progress.frontiers, frontier.validate codec = .ok ()

theorem ScanProgress.Sound.pushRecord {progress : ScanProgress codec} (sound : progress.Sound)
    (record : Stage6JournalRecordVersioned codec) : (progress.pushRecord record).Sound := by
  have grown := length_recordFrame codec progress.previous record
  have behind := sound.offset
  have frameOffset : (progress.pushRecord record).offset =
      progress.offset + (recordFrame codec progress.previous record).length := rfl
  have positive : 0 < frameHashBytes := by decide
  refine { offset := by omega, atFrontier := ?_, frontiers := fun frontier member => ?_ }
  · simp [ScanProgress.frontier, ScanProgress.pushRecord, ScanProgress.push]
  rcases List.mem_append.1 member with earlier | added
  · exact sound.frontiers frontier earlier
  · rw [List.mem_singleton.1 added]
    have digits := (recordDigest codec progress.previous record).isCanonicalSha256_hex
    have beyond : ¬ progress.offset + (recordFrame codec progress.previous record).length ≤ journalHeaderBytes := by
      omega
    simp [Stage6JournalFrontierV1.validate, digits, beyond]

theorem empty_validate : (Stage6JournalFrontierV1.empty codec).validate codec = .ok () := by
  have digits := (genesisDigest codec).isCanonicalSha256_hex
  simp [Stage6JournalFrontierV1.validate, Stage6JournalFrontierV1.empty, digits]

theorem pushRecords_sound {progress : ScanProgress codec} (sound : progress.Sound)
    (records : List (Stage6JournalRecordVersioned codec)) :
    (records.foldl ScanProgress.pushRecord progress).Sound := by
  induction records generalizing progress with
  | nil => exact sound
  | cons record rest ih => exact ih (sound.pushRecord record)

theorem ScanProgress.Sound.finish {progress : ScanProgress codec} (sound : progress.Sound) :
    progress.finish = .ok {
      records := progress.records
      versionedRecords := progress.versionedRecords
      frontiers := progress.frontiers
      frontier := progress.frontier
      lastFrameDigest := progress.previous } := by
  have valid : progress.frontier.validate codec = .ok () := by
    unfold ScanProgress.frontier
    cases last : progress.frontiers.getLast? with
    | none => exact empty_validate
    | some frontier => exact sound.frontiers frontier (List.mem_of_getLast? last)
  unfold ScanProgress.finish
  change (progress.frontier.validate codec).mapError _ >>= _ = _
  rw [valid]
  rfl

theorem start_sound : (ScanProgress.start codec).Sound :=
  { offset := Nat.le_refl _, atFrontier := rfl, frontiers := by simp [ScanProgress.start] }

/-- Behind the header a scan reads frames. -/
theorem scanBytes_journalHeader_append (body : List UInt8) :
    scanBytes codec (journalHeader ++ body) =
      (frameFormat codec).readAll (genesisDigest codec) body >>= fun records => .ok (scanOf codec records) := by
  have width : journalHeader.length = journalHeaderBytes := by decide
  have total : (journalHeader ++ body).length = journalHeaderBytes + body.length := by
    rw [List.length_append, width]
  have magic : journalHeader.take journalMagic.length = journalMagic := by decide
  have version : UInt16.ofNat (ofBigEndian (journalHeader.drop journalMagic.length)) =
      stage6JournalStorageSchemaVersion := by decide
  have reached : (ScanProgress.start codec).offset + body.length = journalHeaderBytes + body.length := rfl
  unfold scanBytes scanReader
  rw [total, rejectIf_of_not _ (by omega), ok_bind, orReject_bind_of_some (readExact_append body width)]
  dsimp only
  rw [rejectIf_of_not _ (by simp [magic]), ok_bind, rejectIf_of_not _ (by simp [version]), ok_bind,
    scanFrames_eq (.start codec) body reached, bind_assoc]
  cases read : (frameFormat codec).readAll (ScanProgress.start codec).previous body with
  | error halt =>
      have unread : (frameFormat codec).readAll (genesisDigest codec) body = .error halt := read
      rw [unread]
      rfl
  | ok records =>
      have readAll : (frameFormat codec).readAll (genesisDigest codec) body = .ok records := read
      rw [readAll, ok_bind, ok_bind, ok_bind, (pushRecords_sound start_sound records).finish]
      rfl

/-- Nothing is accepted that does not start with the header. -/
theorem scanBytes_starts_with_header {bytes : List UInt8} {scan : ScannedJournal codec}
    (accepted : scanBytes codec bytes = .ok scan) : ∃ body, bytes = journalHeader ++ body := by
  obtain ⟨_, accepted⟩ := check_bind_ok_iff.1 accepted
  obtain ⟨⟨header, body⟩, read, accepted⟩ := bind_ok_iff.1 accepted
  obtain ⟨magic, accepted⟩ := check_bind_ok_iff.1 accepted
  obtain ⟨version, _⟩ := check_bind_ok_iff.1 accepted
  rw [orReject_ok_iff, readExact_eq_some_iff] at read
  simp only [rejectIf_ok_iff, ne_eq, not_not] at magic version
  have total : header.length = 10 := read.2
  have versionField := toBigEndian_of_version (by simp [total, journalMagic]) version
  refine ⟨body, ?_⟩
  rw [read.1, journalHeader, versionField, ← magic]
  conv_lhs => rw [← List.take_append_drop journalMagic.length header]
  rw [magic]

/-- Scanning accepts the framed journals, reads their records and accepts nothing else. -/
theorem scanBytes_ok_iff {bytes : List UInt8} {scan : ScannedJournal codec} :
    scanBytes codec bytes = .ok scan ↔
      ∃ records, (∀ record ∈ records, Storable record) ∧ bytes = journalBytes codec records ∧
        scan = scanOf codec records := by
  constructor
  · intro accepted
    obtain ⟨body, rfl⟩ := scanBytes_starts_with_header accepted
    rw [scanBytes_journalHeader_append] at accepted
    obtain ⟨records, read, same⟩ := bind_ok_iff.1 accepted
    obtain ⟨storable, rfl⟩ := Format.readAll_ok_iff _ |>.1 read
    exact ⟨records, storable, rfl, (Except.ok.inj same).symm⟩
  · intro framed
    obtain ⟨records, storable, rfl, rfl⟩ := framed
    rw [journalBytes, scanBytes_journalHeader_append, (Format.readAll_ok_iff _).2 ⟨storable, rfl⟩]
    rfl

theorem scanOf_versionedRecords (records : List (Stage6JournalRecordVersioned codec)) :
    (scanOf codec records).versionedRecords = records := by
  have pushed (progress : ScanProgress codec) :
      (records.foldl ScanProgress.pushRecord progress).versionedRecords = progress.versionedRecords ++ records := by
    induction records generalizing progress with
    | nil => simp
    | cons record rest ih =>
        rw [List.foldl_cons, ih]
        change (progress.versionedRecords ++ [record]) ++ rest = _
        simp
  exact pushed (.start codec)

/-- Where the frontier stands: behind the last frame. -/
theorem scanOf_frontier_journalByteLength (records : List (Stage6JournalRecordVersioned codec)) :
    (scanOf codec records).frontier.journalByteLength = (journalBytes codec records).length := by
  have pushed (progress : ScanProgress codec) :
      (records.foldl ScanProgress.pushRecord progress).offset =
        progress.offset + ((frameFormat codec).writeAll progress.previous records).length := by
    induction records generalizing progress with
    | nil => rfl
    | cons record rest ih =>
        rw [List.foldl_cons, ih, Format.writeAll_cons, List.length_append]
        change progress.offset + _ + _ = progress.offset + (_ + _)
        rw [Nat.add_assoc]
        rfl
  have sound := pushRecords_sound start_sound records
  have width : journalHeader.length = journalHeaderBytes := by decide
  rw [journalBytes, List.length_append, width]
  exact sound.atFrontier.trans (pushed (.start codec))

theorem encodeFrame_record_ok_iff {record : Stage6JournalRecordVersioned codec} {previous : Sha256Output}
    {frame : EncodedFrame} :
    encodeFrame codec record.encodeCanonical previous = .ok frame ↔
      LengthValid record ∧
        frame = {
          framePrefix := framePrefixOf record.encodeCanonical.length previous
          hashBytes := (recordDigest codec previous record).bytes
          digest := recordDigest codec previous record
          bytes := recordFrame codec previous record } := by
  unfold encodeFrame
  rw [bind_ok_iff]
  constructor
  · intro encoded
    obtain ⟨length, valid, result⟩ := encoded
    obtain ⟨positive, bounded, rfl⟩ := validateRecordLength_ok_iff.1 valid
    cases result
    exact ⟨⟨positive, bounded⟩, rfl⟩
  · intro shape
    obtain ⟨⟨positive, bounded⟩, rfl⟩ := shape
    exact ⟨_, validateRecordLength_ok_iff.2 ⟨positive, bounded, rfl⟩, rfl⟩

theorem appendFrame_ok_iff {written updated : List UInt8 × Sha256Output}
    {record : Stage6JournalRecordVersioned codec} :
    appendFrame codec written record = .ok updated ↔
      LengthValid record ∧
        updated = (written.1 ++ recordFrame codec written.2 record, recordDigest codec written.2 record) := by
  unfold appendFrame
  rw [bind_ok_iff]
  constructor
  · intro appended
    obtain ⟨frame, encoded, result⟩ := appended
    obtain ⟨valid, rfl⟩ := encodeFrame_record_ok_iff.1 encoded
    cases result
    exact ⟨valid, rfl⟩
  · intro shape
    obtain ⟨valid, rfl⟩ := shape
    exact ⟨_, encodeFrame_record_ok_iff.2 ⟨valid, rfl⟩, rfl⟩

theorem appendFrames_ok_iff {records : List (Stage6JournalRecordVersioned codec)}
    {written result : List UInt8 × Sha256Output} :
    records.foldlM (appendFrame codec) written = .ok result ↔
      (∀ record ∈ records, LengthValid record) ∧
        result = (written.1 ++ (frameFormat codec).writeAll written.2 records,
          (frameFormat codec).lastLink written.2 records) := by
  induction records generalizing written with
  | nil =>
      rw [List.foldlM_nil, pure_ok_iff]
      simp [eq_comm]
  | cons record rest ih =>
      rw [List.foldlM_cons, bind_ok_iff, List.forall_mem_cons, Format.writeAll_cons, Format.lastLink_cons]
      constructor
      · intro appended
        obtain ⟨middle, first, later⟩ := appended
        obtain ⟨valid, rfl⟩ := appendFrame_ok_iff.1 first
        obtain ⟨restValid, rfl⟩ := ih.1 later
        exact ⟨⟨valid, restValid⟩, by rw [List.append_assoc]; rfl⟩
      · intro shape
        obtain ⟨⟨valid, restValid⟩, rfl⟩ := shape
        exact ⟨_, appendFrame_ok_iff.2 ⟨valid, rfl⟩, ih.2 ⟨restValid, by rw [List.append_assoc]; rfl⟩⟩

/-- Framing succeeds exactly on records whose encodings have a valid length. -/
theorem frameVersionedRecords_ok_iff {records : List (Stage6JournalRecordVersioned codec)} {bytes : List UInt8} :
    frameVersionedRecords codec records = .ok bytes ↔
      (∀ record ∈ records, LengthValid record) ∧ bytes = journalBytes codec records := by
  unfold frameVersionedRecords
  rw [bind_ok_iff]
  constructor
  · intro framed
    obtain ⟨written, frames, result⟩ := framed
    obtain ⟨valid, rfl⟩ := appendFrames_ok_iff.1 frames
    cases result
    exact ⟨valid, rfl⟩
  · intro shape
    obtain ⟨valid, rfl⟩ := shape
    exact ⟨_, appendFrames_ok_iff.2 ⟨valid, rfl⟩, rfl⟩

/-- Scanning is exact: a byte string is accepted with the given records if and
only if they are valid, of a valid length, and framing them gives the string. -/
theorem scan_exact {Valid : Stage6JournalRecordVersioned codec → Prop} (lawful : DecodesExactly codec Valid)
    (bytes : List UInt8) (records : List (Stage6JournalRecordVersioned codec)) :
    (∃ scan, scanBytes codec bytes = .ok scan ∧ scan.versionedRecords = records) ↔
      (∀ record ∈ records, Valid record ∧ LengthValid record) ∧
        frameVersionedRecords codec records = .ok bytes := by
  rw [frameVersionedRecords_ok_iff]
  constructor
  · intro accepted
    obtain ⟨scan, accepted, rfl⟩ := accepted
    obtain ⟨records, storable, rfl, rfl⟩ := scanBytes_ok_iff.1 accepted
    rw [scanOf_versionedRecords]
    have valid (record) (member : record ∈ records) := (storable record member).lengthValid
    exact ⟨fun record member => ⟨(lawful.valid_iff record).2 (storable record member).restores,
      valid record member⟩, valid, rfl⟩
  · intro framed
    obtain ⟨valid, _, rfl⟩ := framed
    have storable (record) (member : record ∈ records) : Storable record :=
      { restores := (lawful.valid_iff record).1 (valid record member).1
        lengthValid := (valid record member).2 }
    exact ⟨_, scanBytes_ok_iff.2 ⟨records, storable, rfl, rfl⟩, scanOf_versionedRecords records⟩

/-- The offset at which the frame number `count` ends; number zero is the header. -/
def frameEnd (codec : ReconciliationCodec) (records : List (Stage6JournalRecordVersioned codec)) (count : Nat) :
    Nat :=
  (journalBytes codec (records.take count)).length

theorem frameEnd_eq (records : List (Stage6JournalRecordVersioned codec)) (count : Nat) :
    frameEnd codec records count =
      journalHeaderBytes + (frameFormat codec).boundary (genesisDigest codec) records count := by
  have width : journalHeader.length = journalHeaderBytes := by decide
  rw [frameEnd, journalBytes, List.length_append, width]
  rfl

/-- Two records in their frames, the second chained to the first; in the other order
they are other bytes, which scan as the other list. -/
theorem scan_exact_dispatched :
    ∃ sample, dispatchedPlace = some sample ∧
      ∃ (bytes swapped : List UInt8) (scan other : ScannedJournal (readingCodec sample.known)),
        frameVersionedRecords _ [.v1 sample.accepted, .v1 sample.attempt] = .ok bytes ∧
          scanBytes _ bytes = .ok scan ∧ scan.versionedRecords = [.v1 sample.accepted, .v1 sample.attempt] ∧
        frameVersionedRecords _ [.v1 sample.attempt, .v1 sample.accepted] = .ok swapped ∧
          scanBytes _ swapped = .ok other ∧ other.versionedRecords = [.v1 sample.attempt, .v1 sample.accepted] := by
  obtain ⟨sample, found, accepted, attempt⟩ := dispatchedPlace_storable
  have framed (records : List (Stage6JournalRecordVersioned (readingCodec sample.known)))
      (storable : ∀ record ∈ records, Storable record) :
      (∀ record ∈ records, Restores record ∧ LengthValid record) ∧
        frameVersionedRecords _ records = .ok (journalBytes _ records) :=
    ⟨fun record member => ⟨(storable record member).restores, (storable record member).lengthValid⟩,
      frameVersionedRecords_ok_iff.2 ⟨fun record member => (storable record member).lengthValid, rfl⟩⟩
  have inOrder := framed [.v1 sample.accepted, .v1 sample.attempt] (by simpa using ⟨accepted, attempt⟩)
  have reversed := framed [.v1 sample.attempt, .v1 sample.accepted] (by simpa using ⟨attempt, accepted⟩)
  obtain ⟨scan, scans, holds⟩ := (scan_exact decodesExactly_restores _ _).2 inOrder
  obtain ⟨other, scansOther, holdsOther⟩ := (scan_exact decodesExactly_restores _ _).2 reversed
  exact ⟨sample, found, _, _, scan, other, inOrder.2, scans, holds, reversed.2, scansOther, holdsOther⟩

/-- A crash never leaves a journal that passes for a shorter one: cut at the end
of a frame it holds the records so far, and at any other place it is torn. -/
theorem truncation_is_torn {bytes : List UInt8} {scan : ScannedJournal codec}
    (accepted : scanBytes codec bytes = .ok scan) {cut : Nat} (behindHeader : journalHeaderBytes ≤ cut)
    (within : cut ≤ bytes.length) :
    (∀ count ≤ scan.versionedRecords.length, cut = frameEnd codec scan.versionedRecords count →
      ∃ shorter, scanBytes codec (bytes.take cut) = .ok shorter ∧
        shorter.versionedRecords = scan.versionedRecords.take count) ∧
      ((∀ count ≤ scan.versionedRecords.length, cut ≠ frameEnd codec scan.versionedRecords count) →
        scanBytes codec (bytes.take cut) = .error (.rejected .tornFrame)) := by
  obtain ⟨records, storable, rfl, rfl⟩ := scanBytes_ok_iff.1 accepted
  have width : journalHeader.length = journalHeaderBytes := by decide
  obtain ⟨bodyCut, rfl⟩ := Nat.exists_eq_add_of_le behindHeader
  have bodyWithin : bodyCut ≤ ((frameFormat codec).writeAll (genesisDigest codec) records).length := by
    rw [journalBytes, List.length_append, width] at within
    omega
  have taken : (journalBytes codec records).take (journalHeaderBytes + bodyCut) =
      journalHeader ++ ((frameFormat codec).writeAll (genesisDigest codec) records).take bodyCut := by
    rw [journalBytes, ← width, List.take_length_add_append]
  obtain ⟨atBoundary, offBoundary⟩ := (frameFormat codec).readAll_take storable bodyWithin
  simp only [scanOf_versionedRecords, frameEnd_eq, Nat.add_left_cancel_iff, taken, ne_eq,
    scanBytes_journalHeader_append]
  constructor
  · intro count bound atEnd
    rw [atBoundary count bound atEnd]
    exact ⟨_, rfl, scanOf_versionedRecords _⟩
  · intro inside
    rw [offBoundary inside]
    rfl

/-- Two records, cut behind the frame of the first one, and one byte further. -/
theorem truncation_is_torn_dispatched :
    ∃ sample, dispatchedPlace = some sample ∧
      ∃ (bytes : List UInt8) (cut : Nat) (shorter : ScannedJournal (readingCodec sample.known)),
        bytes = journalBytes _ [.v1 sample.accepted, .v1 sample.attempt] ∧
          scanBytes _ (bytes.take cut) = .ok shorter ∧ shorter.versionedRecords = [.v1 sample.accepted] ∧
            scanBytes (readingCodec sample.known) (bytes.take (cut + 1)) = .error (.rejected .tornFrame) := by
  obtain ⟨sample, found, acceptedStorable, attemptStorable⟩ := dispatchedPlace_storable
  obtain ⟨accepted, isAccepted⟩ : ∃ record, record = (.v1 sample.accepted : Stage6JournalRecordVersioned
    (readingCodec sample.known)) := ⟨_, rfl⟩
  obtain ⟨attempt, isAttempt⟩ : ∃ record, record = (.v1 sample.attempt : Stage6JournalRecordVersioned
    (readingCodec sample.known)) := ⟨_, rfl⟩
  rw [← isAccepted] at acceptedStorable
  rw [← isAttempt] at attemptStorable
  have whole : scanBytes _ (journalBytes _ [accepted, attempt]) = .ok (scanOf _ [accepted, attempt]) :=
    scanBytes_ok_iff.2 ⟨_, by simpa using ⟨acceptedStorable, attemptStorable⟩, rfl, rfl⟩
  have width : journalHeader.length = 10 := by decide
  have first : frameEnd _ [accepted, attempt] 1 = 10 + (42 + accepted.encodeCanonical.length + 32) := by
    change (journalHeader ++ (recordFrame _ _ accepted ++ [])).length = _
    rw [List.append_nil, List.length_append, width, length_recordFrame]
    rfl
  have second : frameEnd _ [accepted, attempt] 2 =
      10 + (42 + accepted.encodeCanonical.length + 32) + (42 + attempt.encodeCanonical.length + 32) := by
    change (journalHeader ++ (recordFrame _ _ accepted ++ (recordFrame _ _ attempt ++ []))).length = _
    rw [List.append_nil, List.length_append, List.length_append, width, length_recordFrame, length_recordFrame,
      ← Nat.add_assoc]
    rfl
  have none : frameEnd _ [accepted, attempt] 0 = 10 := by
    change (journalHeader ++ []).length = 10
    rw [List.append_nil, width]
  have within : frameEnd _ [accepted, attempt] 1 + 1 ≤ (journalBytes _ [accepted, attempt]).length := by
    change _ ≤ frameEnd _ [accepted, attempt] 2
    rw [first, second]
    omega
  have header : journalHeaderBytes ≤ frameEnd _ [accepted, attempt] 1 := by
    rw [first]
    exact Nat.le_add_right 10 _
  have atEnd := (truncation_is_torn whole header (Nat.le_of_succ_le within)).1 1
    (by simp [scanOf_versionedRecords]) (by rw [scanOf_versionedRecords])
  have behind := (truncation_is_torn whole (Nat.le_succ_of_le header) within).2 fun count bound => by
    rw [scanOf_versionedRecords] at bound ⊢
    have cases : count = 0 ∨ count = 1 ∨ count = 2 := by
      simp only [List.length_cons, List.length_nil] at bound
      omega
    rcases cases with rfl | rfl | rfl <;> omega
  obtain ⟨shorter, scans, holds⟩ := atEnd
  rw [scanOf_versionedRecords] at holds
  refine ⟨sample, found, _, frameEnd _ [accepted, attempt] 1, shorter, rfl, ?_, ?_, ?_⟩
  · rw [← isAccepted, ← isAttempt]
    exact scans
  · rw [← isAccepted]
    exact holds
  · rw [← isAccepted, ← isAttempt]
    exact behind

end Journal

end TradingGateway.Stage6.JournalFrames
