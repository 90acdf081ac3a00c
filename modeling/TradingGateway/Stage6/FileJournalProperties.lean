import TradingGateway.Stage6.FileJournal
import TradingGateway.Stage6.JournalFramesProperties

/-! Appending survives the failure of any file operation: the record is in the
journal or it is not, and a backend that cannot tell appends nothing more. -/

set_option autoImplicit false

namespace TradingGateway.Stage6.FileJournal

open JournalFrames JournalRecord PlainReconciliationCodec ReconciliationV2 VersionedRecord
open Foundation.ChainedFrames Foundation.ExceptRun Foundation.Triples

section Files

variable {content : List UInt8}

def Holds (content : List UInt8) (file : JournalFile) : Prop :=
  file.content = content

def AtEnd (content : List UInt8) (file : JournalFile) : Prop :=
  file.content = content ∧ file.position = content.length

/-- An error that leaves no doubt about the file. -/
def Reported (halt : Stage6JournalStorageHalt) : Prop :=
  ∃ error, halt = .rejected error ∧ error ≠ .durabilityUncertain

/-- A failure that changed nothing, and that some fault explains. -/
structure ReadFailed (content : List UInt8) (struck : Prop) (halt : Stage6JournalStorageHalt)
    (file : JournalFile) : Prop where
  holds : Holds content file
  reported : Reported halt
  struck : struck

theorem ReadFailed.mono {struck other : Prop} {halt : Stage6JournalStorageHalt} {file : JournalFile}
    (failed : ReadFailed content struck halt file) (explained : struck → other) :
    ReadFailed content other halt file :=
  { holds := failed.holds, reported := failed.reported, struck := explained failed.struck }

theorem ioFault_spec (fault : Option ErrorKind) :
    Triple (Holds content) (ioFault fault) (fun _ => Holds content) (ReadFailed content (fault ≠ none)) := by
  cases fault with
  | none => exact Triple.of_pure fun _ holds => holds
  | some kind =>
      exact Triple.of_throw fun _ holds =>
        { holds := holds
          reported := ⟨.io kind, rfl, nofun⟩
          struck := nofun }

theorem metadataLength_spec (fault : Option ErrorKind) :
    Triple (Holds content) (metadataLength fault) (fun length file => length = content.length ∧ Holds content file)
      (ReadFailed content (fault ≠ none)) := by
  refine Triple.bind (ioFault_spec fault) fun _ => Triple.get_bind fun file holds => Triple.of_pure ?_
  intro state same
  have unchanged : Holds content state := same ▸ holds
  exact ⟨congrArg List.length holds, unchanged⟩

theorem seekStart_spec (fault : Option ErrorKind) :
    Triple (Holds content) (seekStart fault) (fun _ => Holds content) (ReadFailed content (fault ≠ none)) :=
  Triple.bind (ioFault_spec fault) fun _ => Triple.of_modify fun _ holds => holds

theorem seekEnd_spec (fault : Option ErrorKind) :
    Triple (Holds content) (seekEnd fault) (fun _ => AtEnd content) (ReadFailed content (fault ≠ none)) := by
  refine Triple.bind (ioFault_spec fault) fun _ => Triple.of_modify ?_
  intro file holds
  exact ⟨holds, congrArg List.length holds⟩

/-- What a scan finds does not depend on the position it starts from. -/
theorem scanFile_spec (codec : ReconciliationCodec) (faults : ScanFaults) :
    Triple (Holds content) (scanFile codec faults content.length)
      (fun scan file => scanBytes codec content = .ok scan ∧ Holds content file)
      (fun halt file => ReadFailed content (faults.seek ≠ none ∨ faults.read ≠ none) halt file ∨
        scanBytes codec content = .error halt) := by
  let failed (halt : Stage6JournalStorageHalt) (file : JournalFile) : Prop :=
    ReadFailed content (faults.seek ≠ none ∨ faults.read ≠ none) halt file ∨ scanBytes codec content = .error halt
  have sought : Triple (Holds content) (seekStart faults.seek) (fun _ => Holds content) failed :=
    (seekStart_spec faults.seek).throwing fun _ _ stopped => .inl (stopped.mono .inl)
  refine Triple.bind sought fun _ => Triple.get_bind fun file holds => ?_
  have unmoved : Triple (fun state => state = file)
      (modify fun state : JournalFile => { state with position := state.content.length } : FileAction PUnit)
      (fun _ => Holds content) failed :=
    Triple.of_modify fun state same => same ▸ holds
  refine Triple.bind unmoved fun _ => ?_
  cases read : faults.read with
  | some fault =>
      refine Triple.of_throw fun state holds => .inl { holds := holds, reported := ?_, struck := .inr nofun }
      cases fault with
      | header => exact ⟨_, rfl, nofun⟩
      | frame => exact ⟨_, rfl, nofun⟩
  | none =>
      rw [holds]
      intro state holds
      rw [Action.outcome_ofExcept]
      cases scanned : scanReader codec content content.length with
      | error halt => exact .inr scanned
      | ok scan => exact ⟨scanned, holds⟩

/-- A failure that stopped the writing of some bytes, and that some fault explains. -/
structure WriteStopped (content bytes : List UInt8) (struck : Prop) (halt : Stage6JournalStorageHalt)
    (file : JournalFile) : Prop where
  written : ∃ front back, bytes = front ++ back ∧ Holds (content ++ front) file
  reported : Reported halt
  struck : struck

theorem WriteStopped.earlier {bytes later : List UInt8} {struck other : Prop} {halt : Stage6JournalStorageHalt}
    {file : JournalFile} (stopped : WriteStopped content bytes struck halt file) (explained : struck → other) :
    WriteStopped content (bytes ++ later) other halt file := by
  obtain ⟨front, back, split, holds⟩ := stopped.written
  exact {
    written := ⟨front, back ++ later, by rw [split, List.append_assoc], holds⟩
    reported := stopped.reported
    struck := explained stopped.struck }

theorem WriteStopped.later {earlier bytes : List UInt8} {struck other : Prop} {halt : Stage6JournalStorageHalt}
    {file : JournalFile} (stopped : WriteStopped (content ++ earlier) bytes struck halt file)
    (explained : struck → other) : WriteStopped content (earlier ++ bytes) other halt file := by
  obtain ⟨front, back, split, holds⟩ := stopped.written
  exact {
    written := ⟨earlier ++ front, back, by rw [split, List.append_assoc], by rwa [← List.append_assoc]⟩
    reported := stopped.reported
    struck := explained stopped.struck }

/-- A write at the end appends what it writes, whole or in part. -/
theorem writeAll_spec (fault : Option WriteFault) (data : List UInt8) :
    Triple (AtEnd content) (writeAll fault data) (fun _ => AtEnd (content ++ data))
      (WriteStopped content data (fault ≠ none)) := by
  have grown (file : JournalFile) (atEnd : AtEnd content file) (written : List UInt8) :
      AtEnd (content ++ written) (file.write written) := by
    obtain ⟨holds, position⟩ := atEnd
    have appended : (file.write written).content = content ++ written := by
      simp [JournalFile.write, holds, position]
    have moved : (file.write written).position = (content ++ written).length := by
      simp [JournalFile.write, position]
    exact ⟨appended, moved⟩
  cases fault with
  | none => exact Triple.of_modify fun file atEnd => grown file atEnd data
  | some fault =>
      have part : Triple (AtEnd content)
          (modify fun file : JournalFile => file.write (data.take fault.written) : FileAction PUnit)
          (fun _ => AtEnd (content ++ data.take fault.written))
          (WriteStopped content data (some fault ≠ none)) :=
        Triple.of_modify fun file atEnd => grown file atEnd _
      refine Triple.bind part fun _ => Triple.of_throw fun file atEnd => ?_
      exact {
        written := ⟨data.take fault.written, data.drop fault.written, (List.take_append_drop ..).symm, atEnd.1⟩
        reported := ⟨_, rfl, nofun⟩
        struck := nofun }

/-- The writes of a frame append its bytes, whole or in part. -/
theorem writeFrame_spec (faults : AppendFaults) (frame : EncodedFrame) (recordBytes : List UInt8) :
    Triple (AtEnd content) (writeFrame faults frame recordBytes)
      (fun _ => Holds (content ++ (frame.framePrefix ++ recordBytes ++ frame.hashBytes)))
      (WriteStopped content (frame.framePrefix ++ recordBytes ++ frame.hashBytes) (faults ≠ .none)) := by
  have prefixStruck (struck : faults.prefixWrite ≠ none) : faults ≠ .none := by
    intro same
    exact struck (congrArg AppendFaults.prefixWrite same)
  have recordStruck (struck : faults.recordWrite ≠ none) : faults ≠ .none := by
    intro same
    exact struck (congrArg AppendFaults.recordWrite same)
  have hashStruck (struck : faults.hashWrite ≠ none) : faults ≠ .none := by
    intro same
    exact struck (congrArg AppendFaults.hashWrite same)
  have syncStruck (struck : faults.sync ≠ none) : faults ≠ .none := by
    intro same
    exact struck (congrArg AppendFaults.sync same)
  let stopped := WriteStopped content (frame.framePrefix ++ recordBytes ++ frame.hashBytes) (faults ≠ .none)
  have writePrefix : Triple (AtEnd content) (writeAll faults.prefixWrite frame.framePrefix)
      (fun _ => AtEnd (content ++ frame.framePrefix)) stopped :=
    (writeAll_spec faults.prefixWrite frame.framePrefix).throwing fun _ _ failed =>
      (failed.earlier prefixStruck).earlier id
  have writeRecord : Triple (AtEnd (content ++ frame.framePrefix)) (writeAll faults.recordWrite recordBytes)
      (fun _ => AtEnd (content ++ frame.framePrefix ++ recordBytes)) stopped :=
    (writeAll_spec faults.recordWrite recordBytes).throwing fun _ _ failed =>
      (failed.later recordStruck).earlier id
  have writeHash : Triple (AtEnd (content ++ frame.framePrefix ++ recordBytes))
      (writeAll faults.hashWrite frame.hashBytes)
      (fun _ => AtEnd (content ++ (frame.framePrefix ++ recordBytes ++ frame.hashBytes))) stopped := by
    rw [← List.append_assoc, List.append_assoc content]
    exact (writeAll_spec faults.hashWrite frame.hashBytes).throwing fun _ _ failed => failed.later hashStruck
  refine writePrefix.bind fun _ => writeRecord.bind fun _ => writeHash.bind fun _ => ?_
  exact ((ioFault_spec faults.sync).after fun _ atEnd => atEnd.1).throwing fun _ _ failed =>
    { written := ⟨_, [], (List.append_nil _).symm, failed.holds⟩
      reported := failed.reported
      struck := syncStruck failed.struck }

end Files

section Records

variable {codec : ReconciliationCodec}

/-- What the journal holds after a record has been appended: the record that its
encoding decodes to, which is equal to it. -/
def StoredAs (record stored : Stage6JournalRecordVersioned codec) : Prop :=
  Stage6JournalRecordVersioned.decodeCanonical codec record.encodeCanonical = .ok stored ∧ (stored == record) = true

theorem StoredAs.encodeCanonical_eq {record stored : Stage6JournalRecordVersioned codec}
    (storedAs : StoredAs record stored) : stored.encodeCanonical = record.encodeCanonical :=
  encodeCanonical_of_decodeCanonical storedAs.1

theorem StoredAs.storable {record stored : Stage6JournalRecordVersioned codec} (storedAs : StoredAs record stored)
    (valid : LengthValid record) : Storable stored := by
  have same := storedAs.encodeCanonical_eq
  refine { restores := ?_, lengthValid := ?_ }
  · unfold Restores
    rw [same]
    exact storedAs.1
  · unfold LengthValid
    rw [same]
    exact valid

theorem StoredAs.recordFrame_eq {record stored : Stage6JournalRecordVersioned codec}
    (storedAs : StoredAs record stored) (previous : Sha256Output) :
    recordFrame codec previous stored = recordFrame codec previous record := by
  unfold recordFrame recordDigest
  rw [storedAs.encodeCanonical_eq]

theorem validateVersionedRecordForStorage_ok_iff {record : Stage6JournalRecordVersioned codec}
    {bytes : List UInt8} :
    validateVersionedRecordForStorage codec record = .ok bytes ↔
      LengthValid record ∧ (∃ stored, StoredAs record stored) ∧ bytes = record.encodeCanonical := by
  unfold validateVersionedRecordForStorage
  rw [bind_ok_iff]
  constructor
  · intro accepted
    obtain ⟨length, valid, accepted⟩ := accepted
    obtain ⟨stored, decoded, accepted⟩ := bind_ok_iff.1 accepted
    obtain ⟨same, result⟩ := check_bind_ok_iff.1 accepted
    rw [mapError_ok_iff] at valid decoded
    obtain ⟨positive, bounded, _⟩ := validateRecordLength_ok_iff.1 valid
    cases result
    exact ⟨⟨positive, bounded⟩, ⟨stored, decoded, by simpa using same⟩, rfl⟩
  · intro shape
    obtain ⟨⟨positive, bounded⟩, ⟨stored, decoded, same⟩, rfl⟩ := shape
    refine ⟨_, (mapError_ok_iff ..).2 (validateRecordLength_ok_iff.2 ⟨positive, bounded, rfl⟩), ?_⟩
    refine bind_ok_iff.2 ⟨stored, (mapError_ok_iff ..).2 decoded, ?_⟩
    exact check_bind_ok_iff.2 ⟨by simpa using same, rfl⟩

theorem storedAs_self {record : Stage6JournalRecordVersioned codec} (storable : Storable record) :
    StoredAs record record :=
  ⟨storable.restores, beq_self_eq_true record⟩

theorem mapVersionedRecordHalt_certain (halt : Stage6ReconciliationV2Halt) :
    mapVersionedRecordHalt halt ≠ .rejected .durabilityUncertain := by
  cases halt with
  | rejected error => cases error <;> nofun
  | panicked => nofun

/-- A record that is refused leaves no doubt about the file. -/
theorem validateVersionedRecordForStorage_error {record : Stage6JournalRecordVersioned codec}
    {halt : Stage6JournalStorageHalt} (refused : validateVersionedRecordForStorage codec record = .error halt) :
    halt ≠ .rejected .durabilityUncertain := by
  rcases bind_error_iff.1 refused with tooLong | ⟨_, _, refused⟩
  · obtain ⟨error, invalid, rfl⟩ := mapError_error_iff.1 tooLong
    rcases bind_error_iff.1 invalid with rejected | ⟨_, _, impossible⟩
    · obtain ⟨_, rfl⟩ := rejectIf_error_iff.1 rejected
      nofun
    · cases impossible
  rcases bind_error_iff.1 refused with undecoded | ⟨_, _, refused⟩
  · obtain ⟨error, _, rfl⟩ := mapError_error_iff.1 undecoded
    exact mapVersionedRecordHalt_certain error
  rcases bind_error_iff.1 refused with differs | ⟨_, _, impossible⟩
  · obtain ⟨_, rfl⟩ := rejectIf_error_iff.1 differs
    nofun
  · cases impossible

theorem scanOf_lastFrameDigest (records : List (Stage6JournalRecordVersioned codec)) :
    (scanOf codec records).lastFrameDigest = (frameFormat codec).lastLink (genesisDigest codec) records := by
  have pushed (progress : ScanProgress codec) :
      (records.foldl ScanProgress.pushRecord progress).previous =
        (frameFormat codec).lastLink progress.previous records := by
    induction records generalizing progress with
    | nil => rfl
    | cons record rest ih => exact ih (progress.pushRecord record)
  exact pushed (.start codec)

theorem journalBytes_concat (records : List (Stage6JournalRecordVersioned codec))
    (record : Stage6JournalRecordVersioned codec) :
    journalBytes codec (records ++ [record]) =
      journalBytes codec records ++ recordFrame codec (scanOf codec records).lastFrameDigest record := by
  rw [scanOf_lastFrameDigest, journalBytes, journalBytes, Format.writeAll_append, List.append_assoc]
  simp only [Format.writeAll_cons, Format.writeAll_nil, List.append_nil]
  rfl

theorem scanBytes_journalBytes {records : List (Stage6JournalRecordVersioned codec)}
    (storable : ∀ record ∈ records, Storable record) :
    scanBytes codec (journalBytes codec records) = .ok (scanOf codec records) :=
  scanBytes_ok_iff.2 ⟨records, storable, rfl, rfl⟩

theorem storable_concat {records : List (Stage6JournalRecordVersioned codec)}
    (storable : ∀ record ∈ records, Storable record)
    {record : Stage6JournalRecordVersioned codec} (next : Storable record) :
    ∀ other ∈ records ++ [record], Storable other := by
  intro other member
  rcases List.mem_append.1 member with earlier | last
  · exact storable other earlier
  · rwa [List.mem_singleton.1 last]

/-- A journal with a part of one more frame behind it reads as the journal
without the frame or with it, or not at all. -/
theorem scanBytes_interrupted {records : List (Stage6JournalRecordVersioned codec)}
    (storable : ∀ record ∈ records, Storable record) {record : Stage6JournalRecordVersioned codec}
    (next : Storable record) {front back : List UInt8}
    (split : recordFrame codec (scanOf codec records).lastFrameDigest record = front ++ back)
    {scan : ScannedJournal codec} (accepted : scanBytes codec (journalBytes codec records ++ front) = .ok scan) :
    scan.versionedRecords = records ∨ scan.versionedRecords = records ++ [record] := by
  by_cases started : front = []
  · rw [started, List.append_nil, scanBytes_journalBytes storable] at accepted
    cases accepted
    exact .inl (scanOf_versionedRecords records)
  by_cases finished : back = []
  · have both : ∀ other ∈ records ++ [record], Storable other := by
      intro other member
      rcases List.mem_append.1 member with earlier | last
      · exact storable other earlier
      · rwa [List.mem_singleton.1 last]
    rw [finished, List.append_nil] at split
    rw [← split, ← journalBytes_concat, scanBytes_journalBytes both] at accepted
    cases accepted
    exact .inr (scanOf_versionedRecords _)
  · rw [scanOf_lastFrameDigest] at split
    have torn := (frameFormat codec).readAll_torn storable next split started finished
    rw [journalBytes, List.append_assoc, scanBytes_journalHeader_append, torn] at accepted
    cases accepted

end Records

section Backends

variable {codec : ReconciliationCodec}

structure Standing (scan : ScannedJournal codec) (flag : Bool) (ofFile : JournalFile → Prop)
    (backend : Stage6FileJournalBackend codec) : Prop where
  file : ofFile backend.file
  scan : backend.scan = scan
  durabilityUncertain : backend.durabilityUncertain = flag

section Lift

variable {Result : Type} {action : FileAction Result} {before : JournalFile → Prop}
variable {returns : Result → JournalFile → Prop} {throws : Stage6JournalStorageHalt → JournalFile → Prop}
variable (scan : ScannedJournal codec) (flag : Bool)

/-- An operation on the file leaves the rest of the backend alone. -/
theorem onFile_spec (triple : Triple before action returns throws) :
    Triple (Standing scan flag before) (onFile action) (fun result => Standing scan flag (returns result))
      (fun halt => Standing scan flag (throws halt)) := by
  intro backend standing
  have post := triple backend.file standing.file
  have lifted : (onFile action).outcome backend =
      ((action.outcome backend.file).1, { backend with file := (action.outcome backend.file).2 }) := rfl
  rw [lifted]
  cases ran : action.outcome backend.file with
  | mk result file =>
      rw [ran] at post
      cases result with
      | error halt =>
          exact {
            file := post
            scan := standing.scan
            durabilityUncertain := standing.durabilityUncertain }
      | ok value =>
          exact {
            file := post
            scan := standing.scan
            durabilityUncertain := standing.durabilityUncertain }

theorem onFile_spec_of_fact {fact : Result → Prop}
    (triple : Triple before action (fun result file => fact result ∧ returns result file) throws) :
    Triple (Standing scan flag before) (onFile action)
      (fun result backend => fact result ∧ Standing scan flag (returns result) backend)
      (fun halt => Standing scan flag (throws halt)) := by
  refine (onFile_spec scan flag triple).weaken (fun _ standing => standing) ?_ fun _ _ failed => failed
  intro result backend standing
  exact ⟨standing.file.1, {
    file := standing.file.2
    scan := standing.scan
    durabilityUncertain := standing.durabilityUncertain }⟩

variable {scan flag}

theorem Standing.mono {weaker : JournalFile → Prop} {backend : Stage6FileJournalBackend codec}
    (standing : Standing scan flag before backend) (weaken : ∀ file, before file → weaker file) :
    Standing scan flag weaker backend :=
  { standing with file := weaken _ standing.file }

end Lift

theorem sameScan_self (scan : ScannedJournal codec) : sameScan scan scan = true := by
  simp [sameScan]

theorem Reported.verifyHalt {halt : Stage6JournalStorageHalt} (reported : Reported halt) :
    Reported (verifyHalt halt) := by
  obtain ⟨error, rfl, certain⟩ := reported
  cases error with
  | io kind => exact ⟨_, rfl, nofun⟩
  | _ => exact ⟨_, rfl, nofun⟩

theorem Reported.uncertainHalt_eq {halt : Stage6JournalStorageHalt} (reported : Reported halt) :
    uncertainHalt halt = .rejected .durabilityUncertain := by
  obtain ⟨error, rfl, _⟩ := reported
  rfl

variable {records : List (Stage6JournalRecordVersioned codec)}

/-- Scanning a journal of storable records fails only by a fault. -/
theorem scanFile_journalBytes_spec (storable : ∀ record ∈ records, Storable record) (faults : ScanFaults) :
    Triple (Holds (journalBytes codec records)) (scanFile codec faults (journalBytes codec records).length)
      (fun scan file => scan = scanOf codec records ∧ Holds (journalBytes codec records) file)
      (ReadFailed (journalBytes codec records) (faults.seek ≠ none ∨ faults.read ≠ none)) := by
  have accepted := scanBytes_journalBytes storable
  refine (scanFile_spec codec faults).weaken (fun _ holds => holds) ?_ ?_
  · intro scan file found
    rw [accepted] at found
    exact ⟨(Except.ok.inj found.1).symm, found.2⟩
  · intro halt file failed
    rcases failed with failed | rejected
    · exact failed
    · rw [accepted] at rejected
      cases rejected

theorem metadata_struck {faults : RescanFaults} (struck : faults.metadata ≠ none) : faults ≠ .none := by
  intro same
  exact struck (congrArg RescanFaults.metadata same)

theorem seekStart_struck {faults : RescanFaults} (struck : faults.seekStart ≠ none) : faults ≠ .none := by
  intro same
  exact struck (congrArg RescanFaults.seekStart same)

theorem scan_struck {faults : RescanFaults} (struck : faults.scan.seek ≠ none ∨ faults.scan.read ≠ none) :
    faults ≠ .none := by
  intro same
  rw [same] at struck
  rcases struck with struck | struck <;> exact struck rfl

theorem seekEnd_struck {faults : RescanFaults} (struck : faults.seekEnd ≠ none) : faults ≠ .none := by
  intro same
  exact struck (congrArg RescanFaults.seekEnd same)

/-- Verifying a journal of storable records passes, unless a fault strikes. -/
theorem verifyExternalFrontier_spec (storable : ∀ record ∈ records, Storable record) {flag : Bool}
    (faults : RescanFaults) :
    Triple (Standing (scanOf codec records) flag (Holds (journalBytes codec records)))
      (verifyExternalFrontier faults)
      (fun _ => Standing (scanOf codec records) flag (AtEnd (journalBytes codec records)))
      (fun halt => Standing (scanOf codec records) flag
        (ReadFailed (journalBytes codec records) (faults ≠ .none) halt)) := by
  let failed (halt : Stage6JournalStorageHalt) : Stage6FileJournalBackend codec → Prop :=
    Standing (scanOf codec records) flag (ReadFailed (journalBytes codec records) (faults ≠ .none) halt)
  have asked : Triple (Standing (scanOf codec records) flag (Holds (journalBytes codec records)))
      (onFile (metadataLength faults.metadata))
      (fun length backend => length = (journalBytes codec records).length ∧
        Standing (scanOf codec records) flag (Holds (journalBytes codec records)) backend) failed :=
    (onFile_spec_of_fact _ _ (metadataLength_spec faults.metadata)).throwing fun _ _ standing =>
      standing.mono fun _ stopped => stopped.mono metadata_struck
  refine asked.bind fun actual => Triple.assuming fun length => Triple.get_bind fun backend standing => ?_
  subst length
  refine Triple.ofExcept_bind ?_ fun _ _ => ?_
  · -- The frontier stands at the end of the file.
    intro error mutated
    obtain ⟨differs, _⟩ := rejectIf_error_iff.1 mutated
    rw [standing.scan, scanOf_frontier_journalByteLength] at differs
    exact absurd rfl differs
  have sought : Triple (fun state => state = backend) (onFile (seekStart faults.seekStart))
      (fun _ => Standing (scanOf codec records) flag (Holds (journalBytes codec records))) failed :=
    ((onFile_spec _ _ (seekStart_spec faults.seekStart)).after fun _ same => same ▸ standing).throwing
      fun _ _ stopped => stopped.mono fun _ stopped => stopped.mono seekStart_struck
  have scanned : Triple (Standing (scanOf codec records) flag (Holds (journalBytes codec records)))
      ((onFile (scanFile codec faults.scan (journalBytes codec records).length)).mapError verifyHalt)
      (fun scan state => scan = scanOf codec records ∧
        Standing (scanOf codec records) flag (Holds (journalBytes codec records)) state) failed := by
    refine Triple.mapError ((onFile_spec_of_fact _ _ (scanFile_journalBytes_spec storable faults.scan)).throwing ?_)
    intro halt state stopped
    refine stopped.mono fun file stopped => ?_
    exact {
      holds := stopped.holds
      reported := stopped.reported.verifyHalt
      struck := scan_struck stopped.struck }
  refine sought.bind fun _ => scanned.bind fun observed => Triple.assuming fun found => ?_
  refine Triple.ofExcept_bind ?_ fun _ _ => ?_
  · intro error mutated
    obtain ⟨differs, _⟩ := rejectIf_error_iff.1 mutated
    rw [found, standing.scan, sameScan_self] at differs
    cases differs
  exact (onFile_spec _ _ (seekEnd_spec faults.seekEnd)).throwing fun _ _ stopped =>
    stopped.mono fun _ stopped => stopped.mono seekEnd_struck

/-- The rescan after a write. When only the last seek fails the scan is already the new one. -/
theorem rescanAppended_spec (storable : ∀ record ∈ records, Storable record) {scan : ScannedJournal codec}
    {flag : Bool} (faults : RescanFaults) :
    Triple (Standing scan flag (Holds (journalBytes codec records))) (rescanAppended faults)
      (fun _ => Standing (scanOf codec records) flag (Holds (journalBytes codec records)))
      (fun halt backend => (Reported halt ∧ faults ≠ .none) ∧
        (Standing scan flag (Holds (journalBytes codec records)) backend ∨
          faults.seekEnd ≠ none ∧
            Standing (scanOf codec records) flag (Holds (journalBytes codec records)) backend)) := by
  let failed (halt : Stage6JournalStorageHalt) (backend : Stage6FileJournalBackend codec) : Prop :=
    (Reported halt ∧ faults ≠ .none) ∧
      (Standing scan flag (Holds (journalBytes codec records)) backend ∨
        faults.seekEnd ≠ none ∧
          Standing (scanOf codec records) flag (Holds (journalBytes codec records)) backend)
  have early {struck : Prop} (explained : struck → faults ≠ .none) (halt : Stage6JournalStorageHalt)
      (backend : Stage6FileJournalBackend codec)
      (stopped : Standing scan flag (ReadFailed (journalBytes codec records) struck halt) backend) :
      failed halt backend :=
    ⟨⟨stopped.file.reported, explained stopped.file.struck⟩, .inl (stopped.mono fun _ stopped => stopped.holds)⟩
  have asked := (onFile_spec_of_fact scan flag (metadataLength_spec faults.metadata)).throwing (early metadata_struck)
  have sought := (onFile_spec scan flag (seekStart_spec faults.seekStart)).throwing (early seekStart_struck)
  have scanned := (onFile_spec_of_fact scan flag (scanFile_journalBytes_spec storable faults.scan)).throwing
    (early scan_struck)
  refine asked.bind fun length => Triple.assuming fun same => sought.bind fun _ => ?_
  subst same
  refine scanned.bind fun found => Triple.assuming fun same => ?_
  subst same
  have renewed : Triple (Standing scan flag (Holds (journalBytes codec records)))
      (modify fun backend => { backend with scan := scanOf codec records } : BackendAction codec PUnit)
      (fun _ => Standing (scanOf codec records) flag (Holds (journalBytes codec records))) failed :=
    Triple.of_modify fun _ standing => { standing with scan := rfl }
  refine renewed.bind fun _ => (onFile_spec _ _ (seekEnd_spec faults.seekEnd)).weaken (fun _ standing => standing) ?_ ?_
  · intro _ backend standing
    exact standing.mono fun _ atEnd => atEnd.1
  · intro halt backend stopped
    exact ⟨⟨stopped.file.reported, seekEnd_struck stopped.file.struck⟩,
      .inr ⟨stopped.file.struck, stopped.mono fun _ stopped => stopped.holds⟩⟩

def Settled (records : List (Stage6JournalRecordVersioned codec)) : Stage6FileJournalBackend codec → Prop :=
  Standing (scanOf codec records) false (Holds (journalBytes codec records))

def Interrupted (records : List (Stage6JournalRecordVersioned codec))
    (record : Stage6JournalRecordVersioned codec) : Stage6FileJournalBackend codec → Prop :=
  Standing (scanOf codec records) true fun file => ∃ front back,
    recordFrame codec (scanOf codec records).lastFrameDigest record = front ++ back ∧
      Holds (journalBytes codec records ++ front) file

/-- The backend after a failure behind the first write. If only the last seek
failed, the frame is whole and has been scanned. -/
def HalfWritten (faults : RescanFaults) (records : List (Stage6JournalRecordVersioned codec))
    (record : Stage6JournalRecordVersioned codec) (backend : Stage6FileJournalBackend codec) : Prop :=
  Interrupted records record backend ∨
    faults.seekEnd ≠ none ∧
      Standing (scanOf codec (records ++ [record])) true (Holds (journalBytes codec (records ++ [record]))) backend

/-- A failed append either changed nothing, or it has begun to write and says so. -/
def AppendFailed (faults : AppendFaults) (records : List (Stage6JournalRecordVersioned codec))
    (record : Stage6JournalRecordVersioned codec) (halt : Stage6JournalStorageHalt)
    (backend : Stage6FileJournalBackend codec) : Prop :=
  halt ≠ .rejected .durabilityUncertain ∧ Settled records backend ∨
    halt = .rejected .durabilityUncertain ∧
      ∃ stored, Storable stored ∧ StoredAs record stored ∧ HalfWritten faults.rescan records stored backend

/-- What an append does to the backend of a journal, whatever fails in it. -/
theorem appendVersioned_spec (storable : ∀ record ∈ records, Storable record) (faults : AppendFaults)
    (record : Stage6JournalRecordVersioned codec) :
    Triple (Settled records) (appendVersioned faults record)
      (fun receipt after => ∃ stored frame, Storable stored ∧ StoredAs record stored ∧
        encodeFrame codec record.encodeCanonical (scanOf codec records).lastFrameDigest = .ok frame ∧
          frame.bytes = recordFrame codec (scanOf codec records).lastFrameDigest stored ∧
            Settled (records ++ [stored]) after ∧
              receipt = appendReceipt record (journalBytes codec records).length frame.digest after.scan.frontier)
      (fun halt after => AppendFailed faults records record halt after ∧
        (faults ≠ .none ∨ ¬ Storable record)) := by
  let failed (halt : Stage6JournalStorageHalt) (backend : Stage6FileJournalBackend codec) : Prop :=
    AppendFailed faults records record halt backend ∧ (faults ≠ .none ∨ ¬ Storable record)
  refine Triple.get_bind fun backend settled => ?_
  refine Triple.ofExcept_bind ?_ fun _ _ => ?_
  · intro halt refused
    obtain ⟨sticky, _⟩ := rejectIf_error_iff.1 refused
    rw [settled.durabilityUncertain] at sticky
    cases sticky
  have verified : Triple (fun state => state = backend) (verifyExternalFrontier faults.verify)
      (fun _ => Standing (scanOf codec records) false (AtEnd (journalBytes codec records))) failed := by
    refine (verifyExternalFrontier_spec storable faults.verify).weaken (fun _ same => same ▸ settled)
      (fun _ _ standing => standing) ?_
    intro halt state stopped
    obtain ⟨error, shape, certain⟩ := stopped.file.reported
    refine ⟨.inl ⟨by rw [shape]; simpa using certain, stopped.mono fun _ stopped => stopped.holds⟩, .inl ?_⟩
    intro same
    exact stopped.file.struck (congrArg AppendFaults.verify same)
  refine verified.bind fun _ => Triple.ofExcept_bind ?_ fun recordBytes validated => ?_
  · intro halt refused state standing
    refine ⟨.inl ⟨validateVersionedRecordForStorage_error refused, standing.mono fun _ atEnd => atEnd.1⟩, .inr ?_⟩
    intro whole
    have accepted : validateVersionedRecordForStorage codec record = .ok record.encodeCanonical :=
      validateVersionedRecordForStorage_ok_iff.2 ⟨whole.lengthValid, ⟨_, storedAs_self whole⟩, rfl⟩
    rw [accepted] at refused
    cases refused
  obtain ⟨valid, ⟨stored, storedAs⟩, rfl⟩ := validateVersionedRecordForStorage_ok_iff.1 validated
  have next := storedAs.storable valid
  rw [settled.scan]
  obtain ⟨frame, encoded, framePrefix, hashBytes, frameBytes⟩ :
      ∃ frame, encodeFrame codec record.encodeCanonical (scanOf codec records).lastFrameDigest = .ok frame ∧
        frame.framePrefix = framePrefixOf record.encodeCanonical.length (scanOf codec records).lastFrameDigest ∧
          frame.hashBytes = (recordDigest codec (scanOf codec records).lastFrameDigest record).bytes ∧
            frame.bytes = recordFrame codec (scanOf codec records).lastFrameDigest record :=
    ⟨_, encodeFrame_record_ok_iff.2 ⟨valid, rfl⟩, rfl, rfl, rfl⟩
  have frameShape : frame.framePrefix ++ record.encodeCanonical ++ frame.hashBytes =
      recordFrame codec (scanOf codec records).lastFrameDigest stored := by
    rw [framePrefix, hashBytes, storedAs.recordFrame_eq]
    rfl
  rw [← storedAs.recordFrame_eq] at frameBytes
  refine Triple.ofExcept_bind ?_ fun sameFrame same => ?_
  · intro halt refused
    rw [encoded] at refused
    cases refused
  rw [encoded] at same
  cases same
  have flagged : Triple (Standing (scanOf codec records) false (AtEnd (journalBytes codec records)))
      (modify fun state => { state with durabilityUncertain := true } : BackendAction codec PUnit)
      (fun _ => Standing (scanOf codec records) true (AtEnd (journalBytes codec records))) failed :=
    Triple.of_modify fun _ standing => { standing with durabilityUncertain := rfl }
  have written : Triple (Standing (scanOf codec records) true (AtEnd (journalBytes codec records)))
      ((onFile (writeFrame faults frame record.encodeCanonical)).mapError uncertainHalt)
      (fun _ => Standing (scanOf codec records) true (Holds (journalBytes codec (records ++ [stored])))) failed := by
    refine Triple.mapError ((onFile_spec _ _ (writeFrame_spec faults frame _)).weaken (fun _ standing => standing) ?_ ?_)
    · intro _ state standing
      refine standing.mono fun file holds => ?_
      rwa [journalBytes_concat, ← frameShape]
    · intro halt state stopped
      refine ⟨.inr ⟨stopped.file.reported.uncertainHalt_eq, stored, next, storedAs, .inl ?_⟩,
        .inl stopped.file.struck⟩
      refine stopped.mono fun file stopped => ?_
      obtain ⟨front, back, split, holds⟩ := stopped.written
      exact ⟨front, back, by rw [← frameShape, split], holds⟩
  have rescanned : Triple
      (Standing (scanOf codec records) true (Holds (journalBytes codec (records ++ [stored]))))
      ((rescanAppended faults.rescan).mapError uncertainHalt)
      (fun _ => Standing (scanOf codec (records ++ [stored])) true
        (Holds (journalBytes codec (records ++ [stored])))) failed := by
    refine Triple.mapError ((rescanAppended_spec (storable_concat storable next) faults.rescan).throwing ?_)
    intro halt state stopped
    obtain ⟨⟨reported, struck⟩, halfWritten⟩ := stopped
    refine ⟨.inr ⟨reported.uncertainHalt_eq, stored, next, storedAs, ?_⟩, .inl fun same =>
      struck (congrArg AppendFaults.rescan same)⟩
    rcases halfWritten with old | new
    · refine .inl (old.mono fun file holds => ⟨_, [], (List.append_nil _).symm, ?_⟩)
      rwa [← journalBytes_concat]
    · exact .inr new
  have cleared : Triple
      (Standing (scanOf codec (records ++ [stored])) true (Holds (journalBytes codec (records ++ [stored]))))
      (modify fun state => { state with durabilityUncertain := false } : BackendAction codec PUnit)
      (fun _ => Settled (records ++ [stored])) failed :=
    Triple.of_modify fun _ standing => { standing with durabilityUncertain := rfl }
  refine flagged.bind fun _ => written.bind fun _ => rescanned.bind fun _ => cleared.bind fun _ => ?_
  refine Triple.get_bind fun appended standing => Triple.of_pure fun after same => ?_
  subst same
  refine ⟨stored, frame, next, storedAs, encoded, frameBytes, standing, ?_⟩
  rw [scanOf_frontier_journalByteLength]

/-- An uncertain backend refuses every append and stays as it is. -/
theorem appendVersioned_sticky {backend : Stage6FileJournalBackend codec}
    (uncertain : backend.durabilityUncertain = true) (faults : AppendFaults)
    (record : Stage6JournalRecordVersioned codec) :
    (appendVersioned faults record).outcome backend = (.error (.rejected .durabilityUncertain), backend) := by
  unfold appendVersioned
  rw [Action.outcome_bind, Action.outcome_get]
  dsimp only
  rw [Action.outcome_bind, Action.outcome_ofExcept, rejectIf, if_pos uncertain]

theorem appendEach_sticky {backend : Stage6FileJournalBackend codec}
    (uncertain : backend.durabilityUncertain = true)
    (calls : List (AppendFaults × Stage6JournalRecordVersioned codec)) :
    appendEach calls backend = (calls.map fun _ => .error (.rejected .durabilityUncertain), backend) := by
  induction calls with
  | nil => rfl
  | cons call rest ih =>
      obtain ⟨faults, record⟩ := call
      rw [appendEach, appendVersioned_sticky uncertain]
      dsimp only
      rw [ih]
      rfl

/-- Opening a file reads what a scan of its bytes finds. -/
theorem fromValidatedFile_spec (codec : ReconciliationCodec) (faults : RescanFaults) {content : List UInt8} :
    Triple (Holds content) (fromValidatedFile codec faults)
      (fun backend _ => scanBytes codec content = .ok backend.scan ∧ backend.file.content = content ∧
        backend.durabilityUncertain = false)
      (fun halt _ => faults ≠ .none ∨ scanBytes codec content = .error halt) := by
  let failed (halt : Stage6JournalStorageHalt) (_ : JournalFile) : Prop :=
    faults ≠ .none ∨ scanBytes codec content = .error halt
  have struck {fault : Prop} (explained : fault → faults ≠ .none) (halt : Stage6JournalStorageHalt)
      (file : JournalFile) (stopped : ReadFailed content fault halt file) : failed halt file :=
    .inl (explained stopped.struck)
  have asked := (metadataLength_spec faults.metadata).throwing (struck metadata_struck)
  have sought := (seekStart_spec faults.seekStart).throwing (struck seekStart_struck)
  have scanned : Triple (Holds content) (scanFile codec faults.scan content.length) _ failed :=
    (scanFile_spec codec faults.scan).throwing fun halt file stopped =>
      stopped.elim (struck scan_struck halt file) .inr
  have ended := (seekEnd_spec faults.seekEnd).throwing (struck seekEnd_struck)
  refine asked.bind fun length => Triple.assuming fun same => sought.bind fun _ => ?_
  subst same
  refine scanned.bind fun scan => Triple.assuming fun found => ended.bind fun _ => ?_
  exact Triple.get_bind fun file atEnd => Triple.of_pure fun _ _ => ⟨found, atEnd.1, rfl⟩

theorem scanBytes_of_openExisting {faults : RescanFaults} {content : List UInt8}
    {backend : Stage6FileJournalBackend codec} (opens : openExisting codec faults content = .ok backend) :
    scanBytes codec content = .ok backend.scan ∧ backend.file.content = content ∧
      backend.durabilityUncertain = false := by
  have post := fromValidatedFile_spec codec faults { content := content, position := 0 } rfl
  unfold openExisting at opens
  cases ran : (fromValidatedFile codec faults).outcome { content := content, position := 0 } with
  | mk result file =>
      rw [ran] at post opens
      cases opens
      exact post

/-- What every backend is, whatever has failed in its appends: that of a journal
of storable records, or one with a part of one more frame behind it. -/
inductive Consistent (backend : Stage6FileJournalBackend codec) : Prop
  | settled {records : List (Stage6JournalRecordVersioned codec)}
      (storable : ∀ record ∈ records, Storable record) (standing : Settled records backend)
  | interrupted {records : List (Stage6JournalRecordVersioned codec)}
      (storable : ∀ record ∈ records, Storable record) {record : Stage6JournalRecordVersioned codec}
      (next : Storable record) (standing : Interrupted records record backend)

theorem HalfWritten.consistent {faults : RescanFaults} {record : Stage6JournalRecordVersioned codec}
    {backend : Stage6FileJournalBackend codec} (half : HalfWritten faults records record backend)
    (storable : ∀ record ∈ records, Storable record) (next : Storable record) : Consistent backend := by
  rcases half with stopped | ⟨_, scanned⟩
  · exact .interrupted storable next stopped
  · refine .interrupted (storable_concat storable next) next (scanned.mono fun file holds => ?_)
    exact ⟨[], _, rfl, by rwa [List.append_nil]⟩

theorem openExisting_consistent {faults : RescanFaults} {content : List UInt8}
    {backend : Stage6FileJournalBackend codec} (opens : openExisting codec faults content = .ok backend) :
    Consistent backend := by
  obtain ⟨accepted, sameContent, certain⟩ := scanBytes_of_openExisting opens
  obtain ⟨records, storable, rfl, scan⟩ := scanBytes_ok_iff.1 accepted
  exact .settled storable { file := sameContent, scan := scan, durabilityUncertain := certain }

theorem appendVersioned_consistent {backend : Stage6FileJournalBackend codec} (consistent : Consistent backend)
    (faults : AppendFaults) (record : Stage6JournalRecordVersioned codec) :
    Consistent ((appendVersioned faults record).outcome backend).2 := by
  cases consistent with
  | interrupted storable next standing =>
      rw [appendVersioned_sticky standing.durabilityUncertain]
      exact .interrupted storable next standing
  | settled storable standing =>
      have post := appendVersioned_spec storable faults record backend standing
      cases ran : (appendVersioned faults record).outcome backend with
      | mk result after =>
          rw [ran] at post
          cases result with
          | ok receipt =>
              obtain ⟨stored, _, next, _, _, _, appended, _⟩ := post
              exact .settled (storable_concat storable next) appended
          | error halt =>
              rcases post.1 with ⟨_, unchanged⟩ | ⟨_, stored, next, _, half⟩
              · exact .settled storable unchanged
              · exact half.consistent storable next

theorem Reachable.consistent {backend : Stage6FileJournalBackend codec} (reachable : Reachable backend) :
    Consistent backend := by
  induction reachable with
  | opened opens => exact openExisting_consistent opens
  | appended _ faults record ih => exact appendVersioned_consistent ih faults record

/-- Without faults a storable record is appended. -/
theorem appendVersioned_succeeds (storable : ∀ record ∈ records, Storable record)
    {backend : Stage6FileJournalBackend codec} (settled : Settled records backend)
    {record : Stage6JournalRecordVersioned codec} (next : Storable record) :
    ∃ receipt after, (appendVersioned .none record).outcome backend = (.ok receipt, after) := by
  have post := appendVersioned_spec storable .none record backend settled
  cases ran : (appendVersioned .none record).outcome backend with
  | mk result after =>
      rw [ran] at post
      cases result with
      | ok receipt => exact ⟨receipt, after, rfl⟩
      | error halt =>
          rcases post.2 with struck | refused
          · exact absurd rfl struck
          · exact absurd next refused

/-- The bytes of an interrupted append read as the old journal, or as the old
journal and the record, or not at all. -/
theorem HalfWritten.reopens {faults : RescanFaults} {record : Stage6JournalRecordVersioned codec}
    {backend : Stage6FileJournalBackend codec} (half : HalfWritten faults records record backend)
    (storable : ∀ record ∈ records, Storable record) (next : Storable record) {openFaults : RescanFaults}
    {reopened : Stage6FileJournalBackend codec}
    (opens : openExisting codec openFaults backend.file.content = .ok reopened) :
    reopened.scan.versionedRecords = records ∨ reopened.scan.versionedRecords = records ++ [record] := by
  obtain ⟨accepted, _⟩ := scanBytes_of_openExisting opens
  rcases half with stopped | ⟨_, scanned⟩
  · obtain ⟨front, back, split, holds⟩ := stopped.file
    rw [holds] at accepted
    exact scanBytes_interrupted storable next split accepted
  · rw [scanned.file, scanBytes_journalBytes (storable_concat storable next)] at accepted
    have found : reopened.scan = scanOf codec (records ++ [record]) := (Except.ok.inj accepted).symm
    rw [found]
    exact .inr (scanOf_versionedRecords _)

structure Appended (backend : Stage6FileJournalBackend codec) (record : Stage6JournalRecordVersioned codec)
    (receipt : Stage6JournalAppendReceipt) (after : Stage6FileJournalBackend codec) : Prop where
  frame : ∃ frame, encodeFrame codec record.encodeCanonical backend.scan.lastFrameDigest = .ok frame ∧
    after.file.content = backend.file.content ++ frame.bytes ∧
      receipt = appendReceipt record backend.file.content.length frame.digest after.scan.frontier
  records : ∃ stored, StoredAs record stored ∧
    after.scan.versionedRecords = backend.scan.versionedRecords ++ [stored]
  scan : scanBytes codec after.file.content = .ok after.scan
  frontier : after.scan.frontier.journalByteLength = after.file.content.length
  durabilityUncertain : after.durabilityUncertain = false

/-- After an error from before the first write nothing has changed, and the next
append that meets no failure succeeds. -/
structure LeftUnchanged (backend after : Stage6FileJournalBackend codec) : Prop where
  content : after.file.content = backend.file.content
  scan : after.scan = backend.scan
  durabilityUncertain : after.durabilityUncertain = false
  retry : ∀ record : Stage6JournalRecordVersioned codec, Storable record →
    ∃ receipt final, (appendVersioned .none record).outcome after = (.ok receipt, final)

/-- After an uncertain append the records are the old ones, every later append is
refused and writes nothing, and the file reopens as the old journal, as the old
journal and the record, or not at all. -/
structure LeftUncertain (backend : Stage6FileJournalBackend codec) (faults : AppendFaults)
    (record : Stage6JournalRecordVersioned codec) (after : Stage6FileJournalBackend codec) : Prop where
  scan : faults.rescan.seekEnd = none → after.scan = backend.scan
  sticky : ∀ calls, appendEach calls after = (calls.map fun _ => .error (.rejected .durabilityUncertain), after)
  unwritten : backend.durabilityUncertain = true → after = backend
  reopening : ∃ interrupted, (backend.durabilityUncertain = false → StoredAs record interrupted) ∧
    ∀ openFaults reopened, openExisting codec openFaults after.file.content = .ok reopened →
      reopened.scan.versionedRecords = backend.scan.versionedRecords ∨
        reopened.scan.versionedRecords = backend.scan.versionedRecords ++ [interrupted]

theorem appended_of_settled {backend after : Stage6FileJournalBackend codec} (settled : Settled records backend)
    {record stored : Stage6JournalRecordVersioned codec} {receipt : Stage6JournalAppendReceipt}
    {frame : EncodedFrame} (storable : ∀ other ∈ records ++ [stored], Storable other)
    (storedAs : StoredAs record stored)
    (encoded : encodeFrame codec record.encodeCanonical (scanOf codec records).lastFrameDigest = .ok frame)
    (frameBytes : frame.bytes = recordFrame codec (scanOf codec records).lastFrameDigest stored)
    (appended : Settled (records ++ [stored]) after)
    (written : receipt =
      appendReceipt record (journalBytes codec records).length frame.digest after.scan.frontier) :
    Appended backend record receipt after := by
  have content : backend.file.content = journalBytes codec records := settled.file
  have newContent : after.file.content = journalBytes codec (records ++ [stored]) := appended.file
  refine {
    frame := ⟨frame, ?_, ?_, ?_⟩
    records := ⟨stored, storedAs, ?_⟩
    scan := ?_
    frontier := ?_
    durabilityUncertain := appended.durabilityUncertain }
  · rwa [settled.scan]
  · rw [newContent, content, journalBytes_concat, frameBytes]
  · rwa [content]
  · rw [appended.scan, settled.scan, scanOf_versionedRecords, scanOf_versionedRecords]
  · rw [newContent, appended.scan, scanBytes_journalBytes storable]
  · rw [newContent, appended.scan, scanOf_frontier_journalByteLength]

theorem leftUncertain_of_halfWritten {backend after : Stage6FileJournalBackend codec}
    (settled : Settled records backend) (storable : ∀ record ∈ records, Storable record)
    {record stored : Stage6JournalRecordVersioned codec} (next : Storable stored) (storedAs : StoredAs record stored)
    {faults : AppendFaults} (half : HalfWritten faults.rescan records stored after) :
    LeftUncertain backend faults record after := by
  have uncertain : after.durabilityUncertain = true := by
    rcases half with stopped | ⟨_, scanned⟩
    · exact stopped.durabilityUncertain
    · exact scanned.durabilityUncertain
  refine {
    scan := fun sought => ?_
    sticky := appendEach_sticky uncertain
    unwritten := fun sticky => ?_
    reopening := ⟨stored, fun _ => storedAs, fun openFaults reopened opens => ?_⟩ }
  · rcases half with stopped | ⟨struck, _⟩
    · exact stopped.scan.trans settled.scan.symm
    · exact absurd sought struck
  · rw [settled.durabilityUncertain] at sticky
    cases sticky
  · rw [settled.scan, scanOf_versionedRecords]
    exact half.reopens storable next opens

/-- An uncertain backend refuses an append, and its file stays as the interrupted append left it. -/
theorem leftUncertain_of_interrupted {backend : Stage6FileJournalBackend codec}
    (storable : ∀ record ∈ records, Storable record) {interrupted : Stage6JournalRecordVersioned codec}
    (next : Storable interrupted) (standing : Interrupted records interrupted backend) (faults : AppendFaults)
    (record : Stage6JournalRecordVersioned codec) : LeftUncertain backend faults record backend := by
  have half : HalfWritten .none records interrupted backend := .inl standing
  refine {
    scan := fun _ => rfl
    sticky := appendEach_sticky standing.durabilityUncertain
    unwritten := fun _ => rfl
    reopening := ⟨interrupted, fun certain => ?_, fun openFaults reopened opens => ?_⟩ }
  · rw [standing.durabilityUncertain] at certain
    cases certain
  · rw [standing.scan, scanOf_versionedRecords]
    exact half.reopens storable next opens

/-- Every append to every backend, whatever fails in it and has failed before. -/
theorem append_crash_safe {backend : Stage6FileJournalBackend codec} (reachable : Reachable backend)
    (faults : AppendFaults) (record : Stage6JournalRecordVersioned codec) :
    match (appendVersioned faults record).outcome backend with
    | (.ok receipt, after) => Appended backend record receipt after
    | (.error halt, after) =>
        (halt ≠ .rejected .durabilityUncertain → LeftUnchanged backend after) ∧
          (halt = .rejected .durabilityUncertain → LeftUncertain backend faults record after) := by
  cases reachable.consistent with
  | interrupted storable next standing =>
      rw [appendVersioned_sticky standing.durabilityUncertain]
      exact ⟨fun certain => absurd rfl certain, fun _ =>
        leftUncertain_of_interrupted storable next standing faults record⟩
  | settled storable settled =>
      have post := appendVersioned_spec storable faults record backend settled
      cases ran : (appendVersioned faults record).outcome backend with
      | mk result after =>
          rw [ran] at post
          cases result with
          | ok receipt =>
              obtain ⟨stored, frame, next, storedAs, encoded, frameBytes, appended, written⟩ := post
              exact appended_of_settled settled (storable_concat storable next) storedAs encoded frameBytes appended
                written
          | error halt =>
              rcases post.1 with ⟨certain, unchanged⟩ | ⟨uncertain, stored, next, storedAs, half⟩
              · refine ⟨fun _ => ?_, fun uncertain => absurd uncertain certain⟩
                exact {
                  content := unchanged.file.trans settled.file.symm
                  scan := unchanged.scan.trans settled.scan.symm
                  durabilityUncertain := unchanged.durabilityUncertain
                  retry := fun _ next => appendVersioned_succeeds storable unchanged next }
              · exact ⟨fun certain => absurd uncertain certain, fun _ =>
                  leftUncertain_of_halfWritten settled storable next storedAs half⟩

/-- A write that ends after the first bytes of the record. -/
def tornWrite : AppendFaults :=
  { AppendFaults.none with recordWrite := some { written := 5, kind := .storageFull } }

/-- A frame that is written whole, but whose sync fails. -/
def lostSync : AppendFaults :=
  { AppendFaults.none with sync := some .other }

def haltOf {Result : Type} : Except Stage6JournalStorageHalt Result → Option Stage6JournalStorageHalt
  | .ok _ => none
  | .error halt => some halt

theorem haltOf_eq_some_iff {Result : Type} {result : Except Stage6JournalStorageHalt Result}
    {halt : Stage6JournalStorageHalt} : haltOf result = some halt ↔ result = .error halt := by
  cases result <;> simp [haltOf]

/-- The acceptance of a request is appended to an empty journal. Where the append of its dispatch is
interrupted the file is torn; where only its sync fails the file reopens with both records. -/
theorem append_crash_safe_dispatched :
    ∃ sample, dispatchedPlace = some sample ∧
      ∃ (backend after torn unsynced reopened : Stage6FileJournalBackend (readingCodec sample.known))
        (receipt : Stage6JournalAppendReceipt),
        openExisting _ .none journalHeader = .ok backend ∧
        ((appendVersioned .none (.v1 sample.accepted)).outcome backend = (.ok receipt, after) ∧
          Appended backend (.v1 sample.accepted) receipt after) ∧
        ((appendVersioned tornWrite (.v1 sample.attempt)).outcome after =
            (.error (.rejected .durabilityUncertain), torn) ∧
          LeftUncertain after tornWrite (.v1 sample.attempt) torn ∧
          openExisting (readingCodec sample.known) .none torn.file.content = .error (.rejected .tornFrame)) ∧
        (appendVersioned lostSync (.v1 sample.attempt)).outcome after =
            (.error (.rejected .durabilityUncertain), unsynced) ∧
          LeftUncertain after lostSync (.v1 sample.attempt) unsynced ∧
          openExisting _ .none unsynced.file.content = .ok reopened ∧
          reopened.scan.versionedRecords.length = 2 := by
  have evaluated : (dispatchedPlace.bind fun sample =>
      (openExisting (readingCodec sample.known) .none journalHeader).toOption.map fun backend =>
        let appended := (appendVersioned .none (.v1 sample.accepted)).outcome backend
        let torn := (appendVersioned tornWrite (.v1 sample.attempt)).outcome appended.2
        let unsynced := (appendVersioned lostSync (.v1 sample.attempt)).outcome appended.2
        (appended.1.isOk,
          (haltOf torn.1, haltOf (openExisting (readingCodec sample.known) .none torn.2.file.content)),
          haltOf unsynced.1, (openExisting (readingCodec sample.known) .none unsynced.2.file.content).toOption.map
            fun reopened => reopened.scan.versionedRecords.length)) =
      some (true, (some (.rejected .durabilityUncertain), some (.rejected .tornFrame)),
        some (.rejected .durabilityUncertain), some 2) := by
    decide +kernel
  obtain ⟨sample, found, evaluated⟩ := Option.bind_eq_some_iff.1 evaluated
  obtain ⟨backend, opens, evaluated⟩ := Option.map_eq_some_iff.1 evaluated
  simp only [Prod.mk.injEq, haltOf_eq_some_iff, Option.map_eq_some_iff, toOption_eq_some_iff] at evaluated opens
  obtain ⟨accepts, ⟨tears, tornStays⟩, loses, reopened, reopens, both⟩ := evaluated
  have reachable : Reachable ((appendVersioned .none (.v1 sample.accepted)).outcome backend).2 :=
    .appended (.opened opens) .none _
  have acceptance := append_crash_safe (.opened opens) .none (.v1 sample.accepted)
  have tearing := append_crash_safe reachable tornWrite (.v1 sample.attempt)
  have losing := append_crash_safe reachable lostSync (.v1 sample.attempt)
  cases ran : (appendVersioned .none (.v1 sample.accepted)).outcome backend with
  | mk result after =>
      rw [ran] at accepts tears tornStays loses reopens acceptance tearing losing
      obtain ⟨receipt, rfl⟩ := exists_ok_of_isOk accepts
      have tore : (appendVersioned tornWrite (.v1 sample.attempt)).outcome after =
          (.error (.rejected .durabilityUncertain), _) := Prod.ext tears rfl
      have lost : (appendVersioned lostSync (.v1 sample.attempt)).outcome after =
          (.error (.rejected .durabilityUncertain), _) := Prod.ext loses rfl
      dsimp only at tearing losing tornStays reopens
      rw [tore] at tearing
      rw [lost] at losing
      exact ⟨sample, found, backend, after, _, _, reopened, receipt, opens, ⟨ran, acceptance⟩,
        ⟨tore, tearing.2 rfl, tornStays⟩, lost, losing.2 rfl, reopens, both⟩

end Backends

end TradingGateway.Stage6.FileJournal
