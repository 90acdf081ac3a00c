import TradingGateway.Foundation.Triples
import TradingGateway.Stage6.JournalFrames
import TradingGateway.Stage6.RecordEquality

/-! The journal in a file, and appending to it while file operations may fail.
The file is its bytes and a position; which operations fail is an input. -/

set_option autoImplicit false

namespace TradingGateway.Stage6.FileJournal

open JournalRecord JournalFrames VersionedRecord
open Foundation.ExceptRun Foundation.Triples

structure JournalFile where
  content : List UInt8
  position : Nat

/-- Write over what stands at the position, and past the end. -/
def JournalFile.write (file : JournalFile) (data : List UInt8) : JournalFile :=
  { content := file.content.take file.position ++ data ++ file.content.drop (file.position + data.length)
    position := file.position + data.length }

/-- A failed `write_all`, and how many bytes it wrote before. -/
structure WriteFault where
  written : Nat
  kind : ErrorKind

/-- Where a failed read strikes a scan; the scanner reports it as damage. -/
inductive ReadFault where
  | header
  | frame

def ReadFault.error : ReadFault → Stage6JournalStorageError
  | .header => .invalidJournalHeader
  | .frame => .tornFrame

structure ScanFaults where
  seek : Option ErrorKind
  read : Option ReadFault

/-- The faults of a full scan: of asking for the length, of the seek to the start,
of the scan itself and of the seek back to the end. -/
structure RescanFaults where
  metadata : Option ErrorKind
  seekStart : Option ErrorKind
  scan : ScanFaults
  seekEnd : Option ErrorKind

structure AppendFaults where
  verify : RescanFaults
  prefixWrite : Option WriteFault
  recordWrite : Option WriteFault
  hashWrite : Option WriteFault
  sync : Option ErrorKind
  rescan : RescanFaults

def RescanFaults.none : RescanFaults :=
  { metadata := .none, seekStart := .none, scan := { seek := .none, read := .none }, seekEnd := .none }

def AppendFaults.none : AppendFaults :=
  { verify := .none
    prefixWrite := .none
    recordWrite := .none
    hashWrite := .none
    sync := .none
    rescan := .none }

abbrev FileAction := Action JournalFile Stage6JournalStorageHalt

/-- Fail as the fault says, and do nothing without one. -/
def ioFault (fault : Option ErrorKind) : FileAction PUnit :=
  match fault with
  | none => pure ()
  | some kind => throw (.rejected (.io kind))

def metadataLength (fault : Option ErrorKind) : FileAction Nat := do
  ioFault fault
  let file ← get
  pure file.content.length

def seekStart (fault : Option ErrorKind) : FileAction PUnit := do
  ioFault fault
  modify fun file => { file with position := 0 }

def seekEnd (fault : Option ErrorKind) : FileAction PUnit := do
  ioFault fault
  modify fun file => { file with position := file.content.length }

def writeAll (fault : Option WriteFault) (data : List UInt8) : FileAction PUnit :=
  match fault with
  | none => modify fun file => file.write data
  | some fault => do
      modify fun file => file.write (data.take fault.written)
      throw (.rejected (.io fault.kind))

def syncData (fault : Option ErrorKind) : FileAction PUnit :=
  ioFault fault

section Backend

variable (codec : ReconciliationCodec)

/-- `scan_reader` on the file. Where it leaves the position matters only after
success: every path to a write seeks to the end first. -/
def scanFile (faults : ScanFaults) (totalLength : Nat) : FileAction (ScannedJournal codec) := do
  seekStart faults.seek
  let file ← get
  modify fun file => { file with position := file.content.length }
  match faults.read with
  | some fault => throw (.rejected fault.error)
  | none => Action.ofExcept (scanReader codec file.content totalLength)

structure Stage6FileJournalBackend where
  file : JournalFile
  scan : ScannedJournal codec
  durabilityUncertain : Bool

structure Stage6JournalAppendReceipt where
  frameIndex : Nat
  frameStartOffset : Nat
  frameEndOffset : Nat
  recordId : Stage6JournalRecordId
  lifecycleSequence : Stage6LifecycleSequence
  frameSha256 : HexText
  durableFrontier : Stage6JournalFrontierV1

/-- `Stage6FileJournalBackend::from_validated_file`. -/
def fromValidatedFile (faults : RescanFaults) : FileAction (Stage6FileJournalBackend codec) := do
  let length ← metadataLength faults.metadata
  seekStart faults.seekStart
  let scan ← scanFile codec faults.scan length
  seekEnd faults.seekEnd
  let file ← get
  pure { file := file, scan := scan, durabilityUncertain := false }

def openExisting (faults : RescanFaults) (content : List UInt8) :
    Except Stage6JournalStorageHalt (Stage6FileJournalBackend codec) :=
  ((fromValidatedFile codec faults).outcome { content := content, position := 0 }).1

def validateVersionedRecordForStorage (record : Stage6JournalRecordVersioned codec) :
    Except Stage6JournalStorageHalt (List UInt8) := do
  let bytes := record.encodeCanonical
  let _ ← (validateRecordLength bytes.length).mapError Stage6JournalStorageHalt.rejected
  let decoded ← (Stage6JournalRecordVersioned.decodeCanonical codec bytes).mapError mapVersionedRecordHalt
  rejectIf ((decoded == record) = false) (.rejected .nonCanonicalRecord)
  .ok bytes

variable {codec}

abbrev BackendAction (codec : ReconciliationCodec) :=
  Action (Stage6FileJournalBackend codec) Stage6JournalStorageHalt

def onFile {Result : Type} (action : FileAction Result) : BackendAction codec Result :=
  ExceptT.mk fun backend =>
    let (result, file) := action.outcome backend.file
    (result, { backend with file := file })

def sameScan (left right : ScannedJournal codec) : Bool :=
  left.records == right.records && decide (left.frontiers = right.frontiers) &&
    decide (left.frontier = right.frontier) && decide (left.lastFrameDigest = right.lastFrameDigest)

/-- Whatever is wrong with the bytes before an append was done by someone else. -/
def verifyHalt : Stage6JournalStorageHalt → Stage6JournalStorageHalt
  | .rejected (.io kind) => .rejected (.io kind)
  | .rejected _ => .rejected .externalMutationDetected
  | .panicked => .panicked

/-- Whatever fails after the first write leaves the durability unknown. -/
def uncertainHalt : Stage6JournalStorageHalt → Stage6JournalStorageHalt
  | .rejected _ => .rejected .durabilityUncertain
  | .panicked => .panicked

def verifyExternalFrontier (faults : RescanFaults) : BackendAction codec PUnit := do
  let actual ← onFile (metadataLength faults.metadata)
  let backend ← get
  Action.ofExcept (rejectIf (actual ≠ backend.scan.frontier.journalByteLength)
    (.rejected .externalMutationDetected))
  onFile (seekStart faults.seekStart)
  let observed ← (onFile (scanFile codec faults.scan actual)).mapError verifyHalt
  Action.ofExcept (rejectIf (sameScan observed backend.scan = false) (.rejected .externalMutationDetected))
  onFile (seekEnd faults.seekEnd)

def appendReceipt (record : Stage6JournalRecordVersioned codec) (start : Nat) (digest : Sha256Output)
    (frontier : Stage6JournalFrontierV1) : Stage6JournalAppendReceipt :=
  { frameIndex := frontier.frameCount - 1
    frameStartOffset := start
    frameEndOffset := frontier.journalByteLength
    recordId := record.journalRecordId
    lifecycleSequence := record.lifecycleSequence
    frameSha256 := digest.hex
    durableFrontier := frontier }

def writeFrame (faults : AppendFaults) (frame : EncodedFrame) (recordBytes : List UInt8) : FileAction PUnit := do
  writeAll faults.prefixWrite frame.framePrefix
  writeAll faults.recordWrite recordBytes
  writeAll faults.hashWrite frame.hashBytes
  syncData faults.sync

def rescanAppended (faults : RescanFaults) : BackendAction codec PUnit := do
  let length ← onFile (metadataLength faults.metadata)
  onFile (seekStart faults.seekStart)
  let scan ← onFile (scanFile codec faults.scan length)
  modify fun backend => { backend with scan := scan }
  onFile (seekEnd faults.seekEnd)

/-- `Stage6FileJournalBackend::append_versioned`. From the first write on the
backend is uncertain until the rescan has succeeded. -/
def appendVersioned (faults : AppendFaults) (record : Stage6JournalRecordVersioned codec) :
    BackendAction codec Stage6JournalAppendReceipt := do
  let backend ← get
  Action.ofExcept (rejectIf (backend.durabilityUncertain = true) (.rejected .durabilityUncertain))
  verifyExternalFrontier faults.verify
  let recordBytes ← Action.ofExcept (validateVersionedRecordForStorage codec record)
  let frame ← Action.ofExcept
    ((encodeFrame codec recordBytes backend.scan.lastFrameDigest).mapError Stage6JournalStorageHalt.rejected)
  modify fun backend => { backend with durabilityUncertain := true }
  (onFile (writeFrame faults frame recordBytes)).mapError uncertainHalt
  (rescanAppended faults.rescan).mapError uncertainHalt
  modify fun backend => { backend with durabilityUncertain := false }
  let appended ← get
  pure (appendReceipt record backend.scan.frontier.journalByteLength frame.digest appended.scan.frontier)

/-- Append records one after the other, each with its own faults; the results of
all calls, and the backend that they leave behind. -/
def appendEach (calls : List (AppendFaults × Stage6JournalRecordVersioned codec))
    (backend : Stage6FileJournalBackend codec) :
    List (Except Stage6JournalStorageHalt Stage6JournalAppendReceipt) × Stage6FileJournalBackend codec :=
  match calls with
  | [] => ([], backend)
  | (faults, record) :: rest =>
      let (result, next) := (appendVersioned faults record).outcome backend
      let (results, final) := appendEach rest next
      (result :: results, final)

inductive Reachable : Stage6FileJournalBackend codec → Prop
  | opened {faults : RescanFaults} {content : List UInt8} {backend : Stage6FileJournalBackend codec}
      (opens : openExisting codec faults content = .ok backend) : Reachable backend
  | appended {backend : Stage6FileJournalBackend codec} (reachable : Reachable backend) (faults : AppendFaults)
      (record : Stage6JournalRecordVersioned codec) :
      Reachable ((appendVersioned faults record).outcome backend).2

end Backend

end TradingGateway.Stage6.FileJournal
