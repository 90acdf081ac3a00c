import TradingGateway.BrokerCore.OrderPath
import TradingGateway.Foundation.Triples
import Mathlib.Data.List.Sort

/-! The two durable order-path stores over the in-memory one: a snapshot file that
is replaced by renaming, and a database. Which step of a call fails is an input. -/

set_option autoImplicit false

namespace TradingGateway.BrokerCore.OrderPathStores

open Identifiers Orders OrderPath
open Foundation.Bytes Foundation.ExceptRun Foundation.OrderedMap Foundation.Triples

structure OrderPathCodec where
  recordToString : OrderPathRecord → Except String (List Char)
  recordFromStr : List Char → Except String OrderPathRecord
  snapshotToStringPretty : List OrderPathRecord → Except String (List Char)
  snapshotFromStr : List Char → Except String (List OrderPathRecord)
  toRfc3339 : DateTimeUtc → String

inductive OrderPathCall where
  | insertIntent (record : OrderPathRecord)
  | updateRecord (record : OrderPathRecord)

def OrderPathCall.record : OrderPathCall → OrderPathRecord
  | .insertIntent record | .updateRecord record => record

def OrderPathCall.applyTo : OrderPathCall → InMemoryOrderPathStore → Except OrderPathStoreError InMemoryOrderPathStore
  | .insertIntent record, inner => inner.insertIntent record
  | .updateRecord record, inner => inner.updateRecord record

section JsonFile

structure FilePath where
  parent : List Char
  fileName : List Char
deriving DecidableEq

/-- The file name up to its last dot; a name whose only dot comes first is all stem. -/
def FilePath.fileStem (path : FilePath) : List Char :=
  match path.fileName.reverse.dropWhile (· ≠ '.') with
  | [] | ['.'] => path.fileName
  | _ :: before => before.reverse

/-- `Path::set_extension`. -/
def FilePath.setExtension (path : FilePath) (extension : List Char) : FilePath :=
  { path with fileName := path.fileStem ++ '.' :: extension }

abbrev Disk := FilePath → Option (List UInt8)

/-- The step of a persist that fails. A failing write may leave any part of the
temporary file behind. -/
inductive PersistFault where
  | createDirAll (error : String)
  | write (error : String) (left : Option (List UInt8))
  | rename (error : String)

structure JsonFileOrderPathStore where
  path : FilePath
  inner : InMemoryOrderPathStore

structure JsonFileSystem where
  store : JsonFileOrderPathStore
  disk : Disk

/-- A character of the `White_Space` property, which `str::trim` removes. -/
def IsWhitespace (character : Char) : Prop :=
  (0x9 ≤ character.toNat ∧ character.toNat ≤ 0xd) ∨ character.toNat = 0x20 ∨ character.toNat = 0x85 ∨
    character.toNat = 0xa0 ∨ character.toNat = 0x1680 ∨
    (0x2000 ≤ character.toNat ∧ character.toNat ≤ 0x200a) ∨ character.toNat = 0x2028 ∨
    character.toNat = 0x2029 ∨ character.toNat = 0x202f ∨ character.toNat = 0x205f ∨ character.toNat = 0x3000

instance (character : Char) : Decidable (IsWhitespace character) :=
  inferInstanceAs (Decidable (_ ∨ _))

/-- `raw.trim().is_empty()`. -/
def IsBlank (raw : List Char) : Prop :=
  ∀ character ∈ raw, IsWhitespace character

instance (raw : List Char) : Decidable (IsBlank raw) :=
  List.decidableBAll IsWhitespace raw

def readToString (content : List UInt8) : Except OrderPathStoreError (List Char) := do
  let characters ← orReject (ByteArray.mk content.toArray).utf8Decode? (.io "stream did not contain valid UTF-8")
  pure characters.toList

variable (codec : OrderPathCodec)

/-- `JsonFileOrderPathStore::open`. -/
def JsonFileOrderPathStore.openPath (path : FilePath) (disk : Disk) :
    Except OrderPathStoreError JsonFileOrderPathStore :=
  match disk path with
  | none => .ok { path := path, inner := .empty }
  | some content => do
      let raw ← readToString content
      if IsBlank raw then pure { path := path, inner := .empty }
      else
        let records ← (codec.snapshotFromStr raw).mapError .serialization
        let inner ← records.foldlM InMemoryOrderPathStore.insertIntent InMemoryOrderPathStore.empty
        pure { path := path, inner := inner }

def snapshotRecords (inner : InMemoryOrderPathStore) : List OrderPathRecord :=
  inner.allRecords.insertionSort fun left right => compare left.requestId.toText right.requestId.toText ≠ .gt

abbrev JsonAction := Action JsonFileSystem OrderPathStoreError

def createDirAll (parent : List Char) : Option PersistFault → JsonAction PUnit
  | some (.createDirAll error) => if parent = [] then pure () else throw (.io error)
  | _ => pure ()

/-- `fs::write`. -/
def writeFile (path : FilePath) (content : List UInt8) : Option PersistFault → JsonAction PUnit
  | some (.write error left) => do
      modify fun system => { system with disk := Function.update system.disk path left }
      throw (.io error)
  | _ => modify fun system => { system with disk := Function.update system.disk path (some content) }

/-- `fs::rename`. -/
def renameFile (source target : FilePath) : Option PersistFault → JsonAction PUnit
  | some (.rename error) => throw (.io error)
  | _ => modify fun system =>
      { system with disk := Function.update (Function.update system.disk source none) target (system.disk source) }

def JsonFileOrderPathStore.persist (fault : Option PersistFault) : JsonAction PUnit := do
  let system ← get
  createDirAll system.store.path.parent fault
  let raw ← Action.ofExcept
    ((codec.snapshotToStringPretty (snapshotRecords system.store.inner)).mapError .serialization)
  let tmp := system.store.path.setExtension "tmp".toList
  writeFile tmp (charBytes raw) fault
  renameFile tmp system.store.path fault

/-- What `insert_intent` and `update_record` do alike: change the memory, then persist it. -/
def JsonFileOrderPathStore.perform (call : OrderPathCall) (fault : Option PersistFault) : JsonAction PUnit := do
  let system ← get
  let inner ← Action.ofExcept (call.applyTo system.store.inner)
  modify fun system => { system with store := { system.store with inner := inner } }
  JsonFileOrderPathStore.persist codec fault

def JsonFileOrderPathStore.insertIntent (record : OrderPathRecord) (fault : Option PersistFault) : JsonAction PUnit :=
  JsonFileOrderPathStore.perform codec (.insertIntent record) fault

def JsonFileOrderPathStore.updateRecord (record : OrderPathRecord) (fault : Option PersistFault) : JsonAction PUnit :=
  JsonFileOrderPathStore.perform codec (.updateRecord record) fault

end JsonFile

section Sqlite

def stateDebugName : OrderPathState → String
  | .intentRecorded => "IntentRecorded"
  | .localRejected => "LocalRejected"
  | .submitInFlight => "SubmitInFlight"
  | .submitted => "Submitted"
  | .submittedPendingBrokerOrderId => "SubmittedPendingBrokerOrderId"
  | .timeoutUnknownPending => "TimeoutUnknownPending"
  | .recoveredByClientOrderId => "RecoveredByClientOrderId"
  | .brokerRejected => "BrokerRejected"
  | .cancelRequested => "CancelRequested"
  | .cancelSubmitted => "CancelSubmitted"
  | .cancelTimeoutUnknownPending => "CancelTimeoutUnknownPending"
  | .cancelRecoveredTerminal => "CancelRecoveredTerminal"
  | .terminal => "Terminal"
  | .manualInterventionRequired => "ManualInterventionRequired"

def errorKindDebugName : OrderPathErrorKind → String
  | .localValidation => "LocalValidation"
  | .brokerRejected => "BrokerRejected"
  | .transportTimeout => "TransportTimeout"
  | .rateLimited => "RateLimited"
  | .brokerMaintenance => "BrokerMaintenance"
  | .responseDecodeError => "ResponseDecodeError"
  | .unauthorized => "Unauthorized"
  | .reconciliationRequired => "ReconciliationRequired"
  | .durableStoreUnavailable => "DurableStoreUnavailable"
  | .unknown => "Unknown"

def ackStatusDebugName : CommandAckStatus → String
  | .accepted => "Accepted"
  | .submitted => "Submitted"
  | .duplicate => "Duplicate"
  | .expired => "Expired"
  | .recovered => "Recovered"
  | .rejected => "Rejected"
  | .error => "Error"
  | .timeout => "Timeout"
  | .unknownPending => "UnknownPending"

def recordReasonCode (record : OrderPathRecord) : Option String :=
  (record.lastErrorKind.map errorKindDebugName).or (record.lastAckStatus.map ackStatusDebugName)

def inferTransitionAuditEvent (previous record : OrderPathRecord) : String :=
  match previous.state, record.state with
  | .intentRecorded, .localRejected => "LocalReject"
  | .intentRecorded, .submitInFlight => "BeginSubmit"
  | .submitInFlight, .submitted => "SubmitAccepted"
  | .submitInFlight, .submittedPendingBrokerOrderId => "SubmitAcceptedWithoutBrokerOrderId"
  | .submitInFlight, .timeoutUnknownPending => "SubmitTimedOut"
  | .timeoutUnknownPending, .recoveredByClientOrderId
  | .submittedPendingBrokerOrderId, .recoveredByClientOrderId => "RecoverByClientOrderId"
  | .submitInFlight, .manualInterventionRequired
  | .submittedPendingBrokerOrderId, .manualInterventionRequired
  | .timeoutUnknownPending, .manualInterventionRequired
  | .cancelTimeoutUnknownPending, .manualInterventionRequired => "RequireManualIntervention"
  | .submitInFlight, .brokerRejected | .submitted, .brokerRejected => "BrokerReject"
  | .submitted, .cancelRequested | .recoveredByClientOrderId, .cancelRequested => "RequestCancel"
  | .cancelRequested, .cancelSubmitted => "CancelAccepted"
  | .cancelRequested, .manualInterventionRequired | .cancelSubmitted, .manualInterventionRequired =>
      if record.lastErrorKind = some .brokerRejected then "CancelRejected" else "RequireManualIntervention"
  | .cancelRequested, .cancelTimeoutUnknownPending
  | .cancelSubmitted, .cancelTimeoutUnknownPending => "CancelTimedOut"
  | .cancelTimeoutUnknownPending, .cancelRecoveredTerminal
  | .manualInterventionRequired, .cancelRecoveredTerminal => "RecoverCancelTerminal"
  | _, .terminal => "MarkTerminal"
  | _, _ => "UpdateRecord"

/-- A row of `order_path_records` without its primary key, the request id. -/
structure OrderPathRow where
  clientOrderId : String
  brokerOrderId : Option String
  state : String
  lastUpdateTs : String
  payload : List Char
deriving DecidableEq

structure SqliteOrderPathTransitionAudit where
  id : Nat
  requestId : List Char
  fromState : Option String
  toState : String
  event : String
  reasonCode : Option String
  ts : String
  safeDetails : String
deriving DecidableEq

structure OrderPathDatabase where
  records : Std.ExtTreeMap (List Char) OrderPathRow
  transitions : List SqliteOrderPathTransitionAudit

def OrderPathDatabase.empty : OrderPathDatabase :=
  { records := ∅
    transitions := [] }

/-- The `UNIQUE` columns of a row against the other rows. The text of the refusal is the engine's. -/
def checkUnique (records : Std.ExtTreeMap (List Char) OrderPathRow) (key : List Char) (row : OrderPathRow)
    (constraintFailed : String) : Except OrderPathStoreError Unit :=
  let others := (records.erase key).toList.map Prod.snd
  rejectIf (∃ other ∈ others, other.clientOrderId = row.clientOrderId ∨
    (row.brokerOrderId ≠ none ∧ other.brokerOrderId = row.brokerOrderId)) (.sqlite constraintFailed)

/-- `INSERT INTO order_path_records`. -/
def OrderPathDatabase.insertRow (database : OrderPathDatabase) (key : List Char) (row : OrderPathRow)
    (constraintFailed : String) : Except OrderPathStoreError OrderPathDatabase := do
  rejectIf (database.records.contains key) (.sqlite constraintFailed)
  checkUnique database.records key row constraintFailed
  pure { database with records := database.records.insert key row }

/-- `UPDATE order_path_records … WHERE request_id = ?1`, which has to find the row. -/
def OrderPathDatabase.updateRow (database : OrderPathDatabase) (requestId : StrategyRequestId) (row : OrderPathRow)
    (constraintFailed : String) : Except OrderPathStoreError OrderPathDatabase := do
  rejectIf (¬ database.records.contains requestId.toText) (.recordNotFound requestId)
  checkUnique database.records requestId.toText row constraintFailed
  pure { database with records := database.records.insert requestId.toText row }

def OrderPathDatabase.execute (database : OrderPathDatabase) (call : OrderPathCall) (row : OrderPathRow)
    (constraintFailed : String) : Except OrderPathStoreError OrderPathDatabase :=
  match call with
  | .insertIntent record => database.insertRow record.requestId.toText row constraintFailed
  | .updateRecord record => database.updateRow record.requestId row constraintFailed

/-- `insert_transition_audit_sql`, under the next row id. -/
def OrderPathDatabase.insertTransitionAudit (database : OrderPathDatabase) (codec : OrderPathCodec)
    (fromState : Option OrderPathState) (event : String) (record : OrderPathRecord) : OrderPathDatabase :=
  { database with
    transitions := database.transitions ++ [{
      id := (database.transitions.getLast?.map SqliteOrderPathTransitionAudit.id).getD 0 + 1
      requestId := record.requestId.toText
      fromState := fromState.map stateDebugName
      toState := stateDebugName record.state
      event := event
      reasonCode := recordReasonCode record
      ts := codec.toRfc3339 record.lastUpdateTs
      safeDetails := "sqlite_order_path_store" }] }

inductive RuntimeFile where
  | database
  | wal
  | shm
  | writerLock
deriving DecidableEq

/-- What fails during a call: a statement, the commit, or setting the permissions of a file that is there.
`constraintFailed` is how the engine words a constraint that the row breaks. -/
structure SqliteFaults where
  beginImmediate : Option String
  executeRecord : Option String
  constraintFailed : String
  executeAudit : Option String
  commit : Option String
  isPresent : RuntimeFile → Bool
  setPermissions : RuntimeFile → Option String

def failWith {Error Value : Type} (convert : Value → Error) : Option Value → Except Error Unit
  | some error => .error (convert error)
  | none => .ok ()

def hardenSqliteRuntimeFilePermissions (faults : SqliteFaults) : Except OrderPathStoreError Unit :=
  [RuntimeFile.database, .wal, .shm, .writerLock].forM fun file =>
    if faults.isPresent file then failWith .io (faults.setPermissions file) else .ok ()

structure SqliteOrderPathStore where
  database : OrderPathDatabase
  inner : InMemoryOrderPathStore

abbrev SqliteAction := Action SqliteOrderPathStore OrderPathStoreError

variable (codec : OrderPathCodec)

/-- `load_inner_from_sqlite`. -/
def loadInnerFromSqlite (database : OrderPathDatabase) : Except OrderPathStoreError InMemoryOrderPathStore :=
  (intoValues database.records).foldlM
    (fun inner row => do
      let record ← (codec.recordFromStr row.payload).mapError .serialization
      inner.insertIntent record)
    InMemoryOrderPathStore.empty

def recordRow (record : OrderPathRecord) : Except OrderPathStoreError OrderPathRow := do
  let payload ← (codec.recordToString record).mapError .serialization
  pure {
    clientOrderId := record.clientOrderId.value
    brokerOrderId := record.brokerOrderId.map BrokerOrderId.value
    state := stateDebugName record.state
    lastUpdateTs := codec.toRfc3339 record.lastUpdateTs
    payload := payload }

def transaction (database : OrderPathDatabase) (call : OrderPathCall) (previous : Option OrderPathRecord)
    (faults : SqliteFaults) : Except OrderPathStoreError OrderPathDatabase := do
  let row ← recordRow codec call.record
  failWith .sqlite faults.beginImmediate
  failWith .sqlite faults.executeRecord
  let written ← database.execute call row faults.constraintFailed
  failWith .sqlite faults.executeAudit
  failWith .sqlite faults.commit
  pure <| written.insertTransitionAudit codec (previous.map OrderPathRecord.state)
    (match previous with
      | some previous => inferTransitionAuditEvent previous call.record
      | none => "InsertIntent")
    call.record

/-- What `insert_record_sql` and `update_record_sql` do alike. -/
def writeRecordSql (call : OrderPathCall) (previous : Option OrderPathRecord) (faults : SqliteFaults) :
    SqliteAction PUnit := do
  let store ← get
  let committed ← Action.ofExcept (transaction codec store.database call previous faults)
  modify fun store => { store with database := committed }
  Action.ofExcept (hardenSqliteRuntimeFilePermissions faults)

def insertRecordSql (record : OrderPathRecord) (faults : SqliteFaults) : SqliteAction PUnit :=
  writeRecordSql codec (.insertIntent record) none faults

def updateRecordSql (previous record : OrderPathRecord) (faults : SqliteFaults) : SqliteAction PUnit :=
  writeRecordSql codec (.updateRecord record) (some previous) faults

def SqliteOrderPathStore.insertIntent (record : OrderPathRecord) (faults : SqliteFaults) : SqliteAction PUnit := do
  let store ← get
  let nextInner ← Action.ofExcept (store.inner.insertIntent record)
  insertRecordSql codec record faults
  modify fun store => { store with inner := nextInner }

def SqliteOrderPathStore.updateRecord (record : OrderPathRecord) (faults : SqliteFaults) : SqliteAction PUnit := do
  let store ← get
  let previous ← Action.ofExcept
    (orReject (store.inner.getByRequestId record.requestId) (.recordNotFound record.requestId))
  let nextInner ← Action.ofExcept (store.inner.updateRecord record)
  updateRecordSql codec previous record faults
  modify fun store => { store with inner := nextInner }

def SqliteOrderPathStore.perform (call : OrderPathCall) (faults : SqliteFaults) : SqliteAction PUnit :=
  match call with
  | .insertIntent record => SqliteOrderPathStore.insertIntent codec record faults
  | .updateRecord record => SqliteOrderPathStore.updateRecord codec record faults

end Sqlite

end TradingGateway.BrokerCore.OrderPathStores
