import TradingGateway.BrokerCore.OrderPathProperties
import TradingGateway.BrokerCore.OrderPathStores
import TradingGateway.Foundation.FailureAtomic

/-! When a call on a durable order-path store is all or nothing, and what runs of such
calls keep between the memory and the disk. -/

set_option autoImplicit false

namespace TradingGateway.BrokerCore.OrderPathStores

open FixedPoint Identifiers Orders OrderPath
open Foundation.Bytes Foundation.ExceptRun Foundation.FailureAtomic Foundation.OrderedMap Foundation.Runs
open Foundation.Triples.Action

/-- What is written reads back, but for the sign of a zero, and no snapshot is blank. -/
structure OrderPathCodec.Reads (codec : OrderPathCodec) : Prop where
  record : ∀ record payload, codec.recordToString record = .ok payload →
    codec.recordFromStr payload = .ok record.reread
  snapshot : ∀ records raw, codec.snapshotToStringPretty records = .ok raw →
    codec.snapshotFromStr raw = .ok (records.map OrderPathRecord.reread)
  notBlank : ∀ records raw, codec.snapshotToStringPretty records = .ok raw → ¬ IsBlank raw

section Memory

variable {inner next : InMemoryOrderPathStore} {call : OrderPathCall}

def Repeats (call : OrderPathCall) (inner : InMemoryOrderPathStore) : Prop :=
  inner.getByRequestId call.record.requestId = some call.record

theorem repeats_applyTo (success : call.applyTo inner = .ok next) : Repeats call next := by
  unfold Repeats
  cases call with
  | insertIntent record =>
      obtain ⟨_, _, _, rfl⟩ := InMemoryOrderPathStore.insertIntent_ok_iff.1 success
      simp [OrderPathCall.record, InMemoryOrderPathStore.getByRequestId_withRecord]
  | updateRecord record =>
      obtain ⟨existing, _, _, _, rfl⟩ := InMemoryOrderPathStore.updateRecord_ok success
      simp [OrderPathCall.record, InMemoryOrderPathStore.getByRequestId_insert]

theorem wellFormed_applyTo (wellFormed : inner.WellFormed) (success : call.applyTo inner = .ok next) :
    next.WellFormed := by
  cases call with
  | insertIntent record => exact wellFormed.insertIntent success
  | updateRecord record => exact wellFormed.updateRecord success

/-- A call leaves the memory as it is exactly when it repeats what is there. -/
theorem applyTo_eq_iff (success : call.applyTo inner = .ok next) : next = inner ↔ Repeats call inner := by
  constructor
  · rintro rfl
    exact repeats_applyTo success
  · intro repeats
    unfold Repeats at repeats
    cases call with
    | insertIntent record =>
        obtain ⟨unknown, _⟩ := InMemoryOrderPathStore.insertIntent_ok_iff.1 success
        simp [OrderPathCall.record, unknown] at repeats
    | updateRecord record =>
        obtain ⟨existing, found, _, _, rfl⟩ := InMemoryOrderPathStore.updateRecord_ok success
        have same : existing = record := Option.some.inj (found.symm.trans repeats)
        subst same
        have records : inner.byRequestId.insert existing.requestId.toText existing = inner.byRequestId := by
          apply Std.ExtTreeMap.ext_getElem?
          intro key
          rw [Std.ExtTreeMap.getElem?_insert]
          split
          · rename_i named
            rw [← Std.LawfulEqOrd.eq_of_compare named]
            exact found.symm
          · rfl
        have brokers : (if existing.brokerOrderId = none then inner.withBrokerId existing
            else inner.requestByBrokerId) = inner.requestByBrokerId := by
          split
          · rename_i unknown
            simp [InMemoryOrderPathStore.withBrokerId, unknown]
          · rfl
        rw [records, brokers]

end Memory

section JsonFile

variable {codec : OrderPathCodec} {system : JsonFileSystem} {inner : InMemoryOrderPathStore}
variable {call : OrderPathCall} {fault : Option PersistFault}

def temporaryPath (path : FilePath) : FilePath :=
  path.setExtension "tmp".toList

/-- Every step of writing `inner` to the file passes. -/
def Persists (codec : OrderPathCodec) (path : FilePath) (inner : InMemoryOrderPathStore) (fault : Option PersistFault) :
    Prop :=
  (codec.snapshotToStringPretty (snapshotRecords inner)).isOk ∧
    match fault with
    | none => True
    | some (.createDirAll _) => path.parent = []
    | some _ => False

/-- A persist that fails leaves the file itself alone: its temporary file is another one, or
holds what the file held. -/
def SparesFile (codec : OrderPathCodec) (path : FilePath) (disk : Disk) (inner : InMemoryOrderPathStore)
    (fault : Option PersistFault) : Prop :=
  temporaryPath path ≠ path ∨
    match codec.snapshotToStringPretty (snapshotRecords inner), fault with
    | .ok _, some (.write _ left) => disk path = left
    | .ok raw, some (.rename _) => disk path = some (charBytes raw)
    | _, _ => True

inductive PersistLeaves (codec : OrderPathCodec) (system : JsonFileSystem) (fault : Option PersistFault) :
    Except OrderPathStoreError Unit × JsonFileSystem → Prop where
  | persisted {raw : List Char} {disk : Disk} (persists : Persists codec system.store.path system.store.inner fault)
      (written : codec.snapshotToStringPretty (snapshotRecords system.store.inner) = .ok raw)
      (replaced : disk system.store.path = some (charBytes raw)) :
      PersistLeaves codec system fault (.ok (), { system with disk := disk })
  | failed {error : OrderPathStoreError} {disk : Disk}
      (fails : ¬ Persists codec system.store.path system.store.inner fault)
      (spares : disk system.store.path = system.disk system.store.path ↔
        SparesFile codec system.store.path system.disk system.store.inner fault) :
      PersistLeaves codec system fault (.error error, { system with disk := disk })

theorem createDirAll_outcome (parent : List Char) (fault : Option PersistFault) (system : JsonFileSystem) :
    (∃ error, fault = some (.createDirAll error) ∧ parent ≠ [] ∧
        (createDirAll parent fault).outcome system = (.error (.io error), system)) ∨
      ((∀ error, fault = some (.createDirAll error) → parent = []) ∧
        (createDirAll parent fault).outcome system = (.ok (), system)) := by
  cases fault with
  | none => exact .inr ⟨by simp, rfl⟩
  | some fault =>
      cases fault with
      | write error left => exact .inr ⟨by simp, rfl⟩
      | rename error => exact .inr ⟨by simp, rfl⟩
      | createDirAll error =>
          by_cases root : parent = []
          · exact .inr ⟨fun _ _ => root, by simp [createDirAll, root]⟩
          · exact .inl ⟨error, rfl, root, by simp [createDirAll, root]⟩

/-- Writing the temporary file and renaming it, once the text is there. -/
theorem replace_leaves {raw : List Char}
    (written : codec.snapshotToStringPretty (snapshotRecords system.store.inner) = .ok raw)
    (created : ∀ error, fault = some (.createDirAll error) → system.store.path.parent = []) :
    PersistLeaves codec system fault
      ((do
        writeFile (temporaryPath system.store.path) (charBytes raw) fault
        renameFile (temporaryPath system.store.path) system.store.path fault : JsonAction PUnit).outcome system) := by
  have serializes : (codec.snapshotToStringPretty (snapshotRecords system.store.inner)).isOk = true := by
    rw [written]
    rfl
  cases fault with
  | none =>
      simp only [outcome_bind, writeFile, renameFile, outcome_modify]
      exact .persisted ⟨serializes, trivial⟩ written (by simp)
  | some fault =>
      cases fault with
      | createDirAll error =>
          simp only [outcome_bind, writeFile, renameFile, outcome_modify]
          exact .persisted ⟨serializes, created error rfl⟩ written (by simp)
      | write error left =>
          simp only [outcome_bind, writeFile, outcome_modify, outcome_throw]
          refine .failed (fun persists => persists.2) ?_
          by_cases same : temporaryPath system.store.path = system.store.path
          · simp [SparesFile, same, written, eq_comm]
          · simp [SparesFile, same, Function.update_of_ne (Ne.symm same)]
      | rename error =>
          simp only [outcome_bind, writeFile, renameFile, outcome_modify, outcome_throw]
          refine .failed (fun persists => persists.2) ?_
          by_cases same : temporaryPath system.store.path = system.store.path
          · simp [SparesFile, same, written, eq_comm]
          · simp [SparesFile, same, Function.update_of_ne (Ne.symm same)]

theorem persist_leaves (codec : OrderPathCodec) (system : JsonFileSystem) (fault : Option PersistFault) :
    PersistLeaves codec system fault ((JsonFileOrderPathStore.persist codec fault).outcome system) := by
  unfold JsonFileOrderPathStore.persist
  rw [outcome_bind, outcome_get]
  dsimp only
  rw [outcome_bind]
  rcases createDirAll_outcome system.store.path.parent fault system with
    ⟨error, rfl, parent, blocked⟩ | ⟨created, passed⟩
  · rw [blocked]
    refine .failed (fun persists => parent persists.2) ?_
    simp only [true_iff]
    right
    cases codec.snapshotToStringPretty (snapshotRecords system.store.inner) <;> trivial
  · rw [passed]
    dsimp only
    rw [outcome_bind, outcome_ofExcept]
    cases written : codec.snapshotToStringPretty (snapshotRecords system.store.inner) with
    | error error =>
        refine .failed (fun persists => ?_) ?_
        · have serializes := persists.1
          rw [written] at serializes
          cases serializes
        · simp [SparesFile, written]
    | ok raw => exact replace_leaves written created

/-- What readers of a store can see: its memory, and the file it would be opened from. -/
def JsonFileSystem.view (system : JsonFileSystem) : JsonFileOrderPathStore × Option (List UInt8) :=
  (system.store, system.disk system.store.path)

def JsonTook (codec : OrderPathCodec) (call : OrderPathCall × Option PersistFault)
    (view : JsonFileOrderPathStore × Option (List UInt8)) : Prop :=
  Repeats call.1 view.1.inner ∧ ∃ content raw records, view.2 = some content ∧ readToString content = .ok raw ∧
    codec.snapshotFromStr raw = .ok records ∧ call.1.record.reread ∈ records

/-- The memory refuses the call, or its persist passes, or neither memory nor file can change. -/
def JsonCallSafe (codec : OrderPathCodec) (call : OrderPathCall × Option PersistFault) (system : JsonFileSystem) :
    Prop :=
  ∀ inner, call.1.applyTo system.store.inner = .ok inner →
    Persists codec system.store.path inner call.2 ∨
      (Repeats call.1 system.store.inner ∧ SparesFile codec system.store.path system.disk inner call.2)

def performJson (codec : OrderPathCodec) (call : OrderPathCall × Option PersistFault) : JsonAction PUnit :=
  JsonFileOrderPathStore.perform codec call.1 call.2

theorem performJson_outcome (call : OrderPathCall × Option PersistFault) (system : JsonFileSystem) :
    (performJson codec call).outcome system =
      match call.1.applyTo system.store.inner with
      | .error error => (.error error, system)
      | .ok inner => (JsonFileOrderPathStore.persist codec call.2).outcome
          { system with store := { system.store with inner := inner } } := by
  unfold performJson JsonFileOrderPathStore.perform
  simp only [outcome_bind, outcome_get, outcome_ofExcept, outcome_modify]
  cases call.1.applyTo system.store.inner <;> rfl

theorem readToString_charBytes (raw : List Char) : readToString (charBytes raw) = .ok raw := by
  have encoded : ByteArray.mk (charBytes raw).toArray = raw.utf8Encode := by
    apply ByteArray.ext
    rw [List.utf8Encode, List.data_toByteArray]
    rfl
  unfold readToString
  rw [encoded, List.utf8Decode?_utf8Encode]
  rfl

theorem mem_snapshotRecords {record : OrderPathRecord} {requestId : StrategyRequestId}
    (found : inner.getByRequestId requestId = some record) : record ∈ snapshotRecords inner := by
  unfold snapshotRecords InMemoryOrderPathStore.allRecords
  rw [List.mem_insertionSort, mem_intoValues_iff]
  exact ⟨_, found⟩

theorem json_allOrNothing_iff (reads : codec.Reads) (call : OrderPathCall × Option PersistFault)
    (system : JsonFileSystem) : AllOrNothing (performJson codec) JsonFileSystem.view (JsonTook codec) call system ↔
      JsonCallSafe codec call system := by
  unfold AllOrNothing JsonCallSafe
  rw [performJson_outcome]
  cases applied : call.1.applyTo system.store.inner with
  | error error => simp
  | ok inner =>
      have leaves := persist_leaves codec { system with store := { system.store with inner := inner } } call.2
      dsimp only
      generalize (JsonFileOrderPathStore.persist codec call.2).outcome _ = outcome at leaves ⊢
      cases leaves with
      | @persisted raw disk persists written replaced =>
          have took : JsonTook codec call ({ system.store with inner := inner }, disk system.store.path) := by
            refine ⟨repeats_applyTo applied, _, raw, _, replaced, readToString_charBytes raw,
              reads.snapshot _ _ written, ?_⟩
            exact List.mem_map_of_mem (mem_snapshotRecords (repeats_applyTo applied))
          simp only [Except.ok.injEq, forall_eq']
          exact ⟨fun _ => .inl persists, fun _ => took⟩
      | @failed error disk fails spares =>
          have sameStore : { system.store with inner := inner } = system.store ↔ inner = system.store.inner :=
            ⟨fun same => congrArg JsonFileOrderPathStore.inner same, fun same => by rw [same]⟩
          simp only [JsonFileSystem.view, Prod.mk.injEq, Except.ok.injEq, forall_eq']
          rw [sameStore, applyTo_eq_iff applied]
          constructor
          · rintro ⟨repeats, kept⟩
            exact .inr ⟨repeats, spares.1 kept⟩
          · rintro (persists | ⟨repeats, spared⟩)
            · exact absurd persists fails
            · exact ⟨repeats, spares.2 spared⟩

theorem performJson_ok {call : OrderPathCall × Option PersistFault} {last : JsonFileSystem}
    (ran : (performJson codec call).outcome system = (.ok (), last)) :
    ∃ inner raw, call.1.applyTo system.store.inner = .ok inner ∧
      codec.snapshotToStringPretty (snapshotRecords inner) = .ok raw ∧
      last.store = { system.store with inner := inner } ∧ last.disk system.store.path = some (charBytes raw) := by
  rw [performJson_outcome] at ran
  cases applied : call.1.applyTo system.store.inner with
  | error error =>
      rw [applied] at ran
      cases ran
  | ok inner =>
      rw [applied] at ran
      have leaves := persist_leaves codec { system with store := { system.store with inner := inner } } call.2
      dsimp only at ran
      rw [ran] at leaves
      cases leaves with
      | persisted persists written replaced => exact ⟨inner, _, rfl, written, rfl, replaced⟩

/-- Opening the file gives the memory view, up to the sign of a zero. -/
structure JsonSynced (codec : OrderPathCodec) (system : JsonFileSystem) : Prop where
  wellFormed : system.store.inner.WellFormed
  readsBack : ∃ opened, JsonFileOrderPathStore.openPath codec system.store.path system.disk = .ok opened ∧
    opened.inner.reread = system.store.inner.reread

theorem openPath_congr {path : FilePath} {disk other : Disk} (same : disk path = other path) :
    JsonFileOrderPathStore.openPath codec path disk = JsonFileOrderPathStore.openPath codec path other := by
  unfold JsonFileOrderPathStore.openPath
  rw [same]

/-- A snapshot of a well-formed memory opens as that memory. -/
theorem openPath_snapshot (reads : codec.Reads) (wellFormed : inner.WellFormed) {path : FilePath} {disk : Disk}
    {raw : List Char} (written : codec.snapshotToStringPretty (snapshotRecords inner) = .ok raw)
    (stored : disk path = some (charBytes raw)) :
    JsonFileOrderPathStore.openPath codec path disk = .ok { path := path, inner := inner.reread } := by
  have lists : inner.Lists (snapshotRecords inner) :=
    wellFormed.lists_allRecords.perm (List.perm_insertionSort _ _)
  have loaded := InMemoryOrderPathStore.foldlM_insertIntent wellFormed.reread (lists.reread wellFormed)
  unfold JsonFileOrderPathStore.openPath
  rw [stored]
  dsimp only
  rw [readToString_charBytes, ok_bind, if_neg (reads.notBlank _ _ written), reads.snapshot _ _ written]
  simp only [Except.mapError, ok_bind, loaded]
  rfl

theorem json_run_synced (reads : codec.Reads) {first last : JsonFileSystem}
    {calls : List (OrderPathCall × Option PersistFault)}
    (run : Run (CallStep (performJson codec) (JsonCallSafe codec)) first calls last)
    (synced : JsonSynced codec first) : JsonSynced codec last := by
  have atomic : ∀ call system, JsonSynced codec system → JsonCallSafe codec call system →
      AllOrNothing (performJson codec) JsonFileSystem.view (JsonTook codec) call system :=
    fun call system _ safe => (json_allOrNothing_iff reads call system).2 safe
  have seen : ∀ first last : JsonFileSystem, last.view = first.view → JsonSynced codec first →
      JsonSynced codec last := by
    intro first last same synced
    obtain ⟨sameStore, sameFile⟩ := Prod.mk.inj same
    obtain ⟨opened, opens, reopened⟩ := synced.readsBack
    refine ⟨sameStore ▸ synced.wellFormed, opened, ?_, ?_⟩
    · rw [sameStore] at sameFile ⊢
      rw [openPath_congr sameFile, opens]
    · rw [sameStore, reopened]
  have passes : ∀ call first last, JsonSynced codec first → JsonCallSafe codec call first →
      (performJson codec call).outcome first = (.ok (), last) → JsonSynced codec last := by
    intro call first last synced _ ran
    obtain ⟨inner, raw, applied, written, store, stored⟩ := performJson_ok ran
    have wellFormed := wellFormed_applyTo synced.wellFormed applied
    refine ⟨by rw [store]; exact wellFormed, { path := last.store.path, inner := inner.reread }, ?_, ?_⟩
    · rw [store]
      exact openPath_snapshot reads wellFormed written stored
    · rw [store]
      exact InMemoryOrderPathStore.reread_idem
  exact keeps_of_allOrNothing atomic seen passes run synced

/-- What a persist does to the view depends on the view alone. -/
theorem persist_congr (fault : Option PersistFault) {left right : JsonFileSystem} (same : left.view = right.view) :
    ((JsonFileOrderPathStore.persist codec fault).outcome left).1 =
        ((JsonFileOrderPathStore.persist codec fault).outcome right).1 ∧
      ((JsonFileOrderPathStore.persist codec fault).outcome left).2.view =
        ((JsonFileOrderPathStore.persist codec fault).outcome right).2.view := by
  obtain ⟨store, disk⟩ := left
  obtain ⟨otherStore, other⟩ := right
  obtain ⟨rfl, sameFile⟩ := Prod.mk.inj same
  dsimp only at sameFile
  have written : ∀ content : Option (List UInt8),
      Function.update disk (temporaryPath store.path) content store.path =
        Function.update other (temporaryPath store.path) content store.path := by
    intro content
    by_cases tmp : temporaryPath store.path = store.path
    · simp [tmp]
    · rw [Function.update_of_ne (Ne.symm tmp), Function.update_of_ne (Ne.symm tmp), sameFile]
  unfold JsonFileOrderPathStore.persist JsonFileSystem.view
  simp only [outcome_bind, outcome_get, outcome_ofExcept]
  rcases createDirAll_outcome store.path.parent fault ⟨store, disk⟩ with ⟨error, rfl, parent, blocked⟩ | ⟨created, passed⟩
  · simp [createDirAll, parent, sameFile]
  · have otherPassed : (createDirAll store.path.parent fault).outcome ⟨store, other⟩ = (.ok (), ⟨store, other⟩) := by
      rcases createDirAll_outcome store.path.parent fault ⟨store, other⟩ with ⟨error, rfl, parent, _⟩ | ⟨_, passed⟩
      · exact absurd (created error rfl) parent
      · exact passed
    rw [passed, otherPassed]
    dsimp only
    cases codec.snapshotToStringPretty (snapshotRecords store.inner) with
    | error error => simp [Except.mapError, sameFile]
    | ok raw =>
        have content := written (some (charBytes raw))
        dsimp only [Except.mapError]
        cases fault with
        | none => simp [writeFile, renameFile]
        | some fault =>
            cases fault with
            | createDirAll error => simp [writeFile, renameFile]
            | write error left => simpa [temporaryPath, writeFile, outcome_bind] using written left
            | rename error => simpa [temporaryPath, writeFile, renameFile] using content

theorem performJson_congr (call : OrderPathCall × Option PersistFault) {left right : JsonFileSystem}
    (same : left.view = right.view) :
    ((performJson codec call).outcome left).1 = ((performJson codec call).outcome right).1 ∧
      ((performJson codec call).outcome left).2.view = ((performJson codec call).outcome right).2.view := by
  obtain ⟨sameStore, sameFile⟩ := Prod.mk.inj same
  rw [performJson_outcome, performJson_outcome, sameStore]
  cases call.1.applyTo right.store.inner with
  | error error => exact ⟨rfl, same⟩
  | ok inner =>
      apply persist_congr
      unfold JsonFileSystem.view
      rw [sameStore] at sameFile
      simpa using sameFile

end JsonFile

section Sqlite

variable {codec : OrderPathCodec} {store : SqliteOrderPathStore}

abbrev SqliteCall := OrderPathCall × SqliteFaults

def performSqlite (codec : OrderPathCodec) (call : SqliteCall) : SqliteAction PUnit :=
  SqliteOrderPathStore.perform codec call.1 call.2

def previousOf : OrderPathCall → InMemoryOrderPathStore → Option OrderPathRecord
  | .insertIntent _, _ => none
  | .updateRecord record, inner => inner.getByRequestId record.requestId

theorem performSqlite_outcome (call : SqliteCall) (store : SqliteOrderPathStore) :
    (performSqlite codec call).outcome store =
      match call.1.applyTo store.inner with
      | .error error => (.error error, store)
      | .ok inner =>
          match transaction codec store.database call.1 (previousOf call.1 store.inner) call.2 with
          | .error error => (.error error, store)
          | .ok committed =>
              match hardenSqliteRuntimeFilePermissions call.2 with
              | .error error => (.error error, { store with database := committed })
              | .ok _ => (.ok (), { database := committed, inner := inner }) := by
  obtain ⟨call, faults⟩ := call
  cases call with
  | insertIntent record =>
      unfold performSqlite SqliteOrderPathStore.perform SqliteOrderPathStore.insertIntent insertRecordSql writeRecordSql
      simp only [outcome_bind, outcome_get, outcome_ofExcept, outcome_modify, OrderPathCall.applyTo, previousOf]
      cases store.inner.insertIntent record with
      | error error => rfl
      | ok inner =>
          dsimp only
          cases transaction codec store.database (.insertIntent record) none faults with
          | error error => rfl
          | ok committed =>
              dsimp only
              cases hardenSqliteRuntimeFilePermissions faults <;> rfl
  | updateRecord record =>
      unfold performSqlite SqliteOrderPathStore.perform SqliteOrderPathStore.updateRecord updateRecordSql writeRecordSql
      simp only [outcome_bind, outcome_get, outcome_ofExcept, outcome_modify, OrderPathCall.applyTo, previousOf]
      cases found : store.inner.getByRequestId record.requestId with
      | none => simp [orReject, InMemoryOrderPathStore.updateRecord, found]
      | some previous =>
          dsimp only [orReject]
          cases store.inner.updateRecord record with
          | error error => rfl
          | ok inner =>
              dsimp only
              cases transaction codec store.database (.updateRecord record) (some previous) faults with
              | error error => rfl
              | ok committed =>
                  dsimp only
                  cases hardenSqliteRuntimeFilePermissions faults <;> rfl

structure RowOf (codec : OrderPathCodec) (row : OrderPathRow) (record : OrderPathRecord) : Prop where
  client : row.clientOrderId = record.clientOrderId.value
  broker : row.brokerOrderId = record.brokerOrderId.map BrokerOrderId.value
  payload : codec.recordFromStr row.payload = .ok record.reread

/-- The memory and the table both hold the record of a call. -/
def SqliteTook (codec : OrderPathCodec) (call : SqliteCall) (store : SqliteOrderPathStore) : Prop :=
  Repeats call.1 store.inner ∧
    ∃ row, store.database.records[call.1.record.requestId.toText]? = some row ∧ RowOf codec row call.1.record

def RowFits (database : OrderPathDatabase) (call : OrderPathCall) : Prop :=
  (match call with
    | .insertIntent record => database.records[record.requestId.toText]? = none
    | .updateRecord record => database.records[record.requestId.toText]? ≠ none) ∧
  ∀ (key : List Char) (other : OrderPathRow), key ≠ call.record.requestId.toText →
    database.records[key]? = some other →
      other.clientOrderId ≠ call.record.clientOrderId.value ∧
        ∀ brokerOrderId ∈ call.record.brokerOrderId, other.brokerOrderId ≠ some brokerOrderId.value

structure Commits (codec : OrderPathCodec) (database : OrderPathDatabase) (call : SqliteCall) : Prop where
  serializes : (codec.recordToString call.1.record).isOk
  begins : call.2.beginImmediate = none
  writes : call.2.executeRecord = none
  fits : RowFits database call.1
  audits : call.2.executeAudit = none
  commits : call.2.commit = none

def Hardens (faults : SqliteFaults) : Prop :=
  ∀ file, faults.isPresent file = true → faults.setPermissions file = none

/-- The memory refuses the call, or its transaction does not commit, or the step behind the commit passes. -/
def SqliteCallSafe (codec : OrderPathCodec) (call : SqliteCall) (store : SqliteOrderPathStore) : Prop :=
  (call.1.applyTo store.inner).isOk = true → Commits codec store.database call → Hardens call.2

theorem hardens_iff (faults : SqliteFaults) :
    hardenSqliteRuntimeFilePermissions faults = .ok () ↔ Hardens faults := by
  have step : ∀ file, (if faults.isPresent file then failWith OrderPathStoreError.io (faults.setPermissions file)
      else .ok ()) = .ok () ↔ (faults.isPresent file = true → faults.setPermissions file = none) := by
    intro file
    cases faults.isPresent file <;> cases faults.setPermissions file <;> simp [failWith]
  constructor
  · intro passes file
    simp only [hardenSqliteRuntimeFilePermissions, List.forM_eq_forM, List.forM_cons, List.forM_nil,
      check_bind_ok_iff, step] at passes
    obtain ⟨database, wal, shm, lock, _⟩ := passes
    cases file with
    | database => exact database
    | wal => exact wal
    | shm => exact shm
    | writerLock => exact lock
  · intro hardens
    simp only [hardenSqliteRuntimeFilePermissions, List.forM_eq_forM, List.forM_cons, List.forM_nil,
      check_bind_ok_iff, step]
    exact ⟨hardens _, hardens _, hardens _, hardens _, rfl⟩

theorem mem_others {records : Std.ExtTreeMap (List Char) OrderPathRow} {key : List Char} {row : OrderPathRow} :
    row ∈ (records.erase key).toList.map Prod.snd ↔ ∃ other : List Char, other ≠ key ∧ records[other]? = some row := by
  change row ∈ intoValues (records.erase key) ↔ _
  rw [mem_intoValues_iff]
  simp only [Std.ExtTreeMap.getElem?_erase, Std.LawfulEqOrd.compare_eq_iff_eq]
  constructor
  · rintro ⟨other, found⟩
    split at found
    · cases found
    · rename_i differs
      exact ⟨other, fun same => differs same.symm, found⟩
  · rintro ⟨other, differs, found⟩
    exact ⟨other, by rwa [if_neg (fun same => differs same.symm)]⟩

theorem checkUnique_ok_iff {records : Std.ExtTreeMap (List Char) OrderPathRow} {key : List Char} {row : OrderPathRow}
    {constraintFailed : String} : checkUnique records key row constraintFailed = .ok () ↔
      ∀ (other : List Char) (found : OrderPathRow), other ≠ key → records[other]? = some found →
        found.clientOrderId ≠ row.clientOrderId ∧
          ∀ brokerOrderId ∈ row.brokerOrderId, found.brokerOrderId ≠ some brokerOrderId := by
  unfold checkUnique
  simp only [rejectIf_ok_iff, mem_others]
  constructor
  · intro fits other found differs isFound
    refine ⟨fun same => fits ⟨found, ⟨other, differs, isFound⟩, .inl same⟩, ?_⟩
    intro brokerOrderId known same
    exact fits ⟨found, ⟨other, differs, isFound⟩, .inr ⟨by simp [Option.mem_def.1 known], by rw [same, ← known]⟩⟩
  · rintro fits ⟨found, ⟨other, differs, isFound⟩, same | ⟨known, same⟩⟩
    · exact (fits other found differs isFound).1 same
    · obtain ⟨brokerOrderId, isKnown⟩ := Option.ne_none_iff_exists'.1 known
      exact (fits other found differs isFound).2 brokerOrderId isKnown (by rw [same, isKnown])

theorem failWith_ok_iff {Error Value : Type} (convert : Value → Error) (fault : Option Value) :
    failWith convert fault = .ok () ↔ fault = none := by
  cases fault <;> simp [failWith]

/-- The row a call writes, and whether the constraints let it in. -/
theorem rowFits_iff {database : OrderPathDatabase} {call : OrderPathCall} {row : OrderPathRow}
    (client : row.clientOrderId = call.record.clientOrderId.value)
    (broker : row.brokerOrderId = call.record.brokerOrderId.map BrokerOrderId.value) (constraintFailed : String)
    (written : OrderPathDatabase) : database.execute call row constraintFailed = .ok written ↔
      RowFits database call ∧
        { database with records := database.records.insert call.record.requestId.toText row } = written := by
  unfold RowFits
  cases call with
  | insertIntent record =>
      simp only [OrderPathDatabase.execute, OrderPathDatabase.insertRow, check_bind_ok_iff, rejectIf_ok_iff, not_contains_iff,
        checkUnique_ok_iff, pure_ok_iff, client, broker, OrderPathCall.record, and_assoc]
      simp
  | updateRecord record =>
      simp only [OrderPathDatabase.execute, OrderPathDatabase.updateRow, check_bind_ok_iff, rejectIf_ok_iff, not_contains_iff,
        checkUnique_ok_iff, pure_ok_iff, client, broker, OrderPathCall.record, and_assoc]
      simp

structure Committed (codec : OrderPathCodec) (database : OrderPathDatabase) (record : OrderPathRecord)
    (committed : OrderPathDatabase) : Prop where
  written : ∃ row, RowOf codec row record ∧
    committed.records = database.records.insert record.requestId.toText row
  audited : ∃ audit, committed.transitions = database.transitions ++ [audit]

theorem recordRow_ok (reads : codec.Reads) {record : OrderPathRecord} {row : OrderPathRow}
    (success : recordRow codec record = .ok row) :
    (codec.recordToString record).isOk = true ∧ RowOf codec row record := by
  obtain ⟨payload, serialized, result⟩ := bind_ok_iff.1 success
  rw [mapError_ok_iff] at serialized
  rw [pure_ok_iff] at result
  subst result
  exact ⟨by rw [serialized]; rfl, rfl, rfl, reads.record _ _ serialized⟩

theorem transaction_ok (reads : codec.Reads) {database committed : OrderPathDatabase} {call : SqliteCall}
    {previous : Option OrderPathRecord} (success : transaction codec database call.1 previous call.2 = .ok committed) :
    Commits codec database call ∧ Committed codec database call.1.record committed := by
  obtain ⟨row, rowed, success⟩ := bind_ok_iff.1 success
  obtain ⟨begins, success⟩ := check_bind_ok_iff.1 success
  obtain ⟨writes, success⟩ := check_bind_ok_iff.1 success
  obtain ⟨written, fits, success⟩ := bind_ok_iff.1 success
  obtain ⟨audits, success⟩ := check_bind_ok_iff.1 success
  obtain ⟨commits, result⟩ := check_bind_ok_iff.1 success
  rw [failWith_ok_iff] at begins writes audits commits
  rw [pure_ok_iff] at result
  obtain ⟨serializes, rowOf⟩ := recordRow_ok reads rowed
  obtain ⟨rowFits, sameRecords⟩ := (rowFits_iff rowOf.client rowOf.broker _ written).1 fits
  subst result sameRecords
  exact ⟨⟨serializes, begins, writes, rowFits, audits, commits⟩, ⟨row, rowOf, rfl⟩, ⟨_, rfl⟩⟩

theorem commits_transaction {database : OrderPathDatabase} {call : SqliteCall} (commits : Commits codec database call)
    (previous : Option OrderPathRecord) : ∃ committed,
      transaction codec database call.1 previous call.2 = .ok committed := by
  obtain ⟨payload, serialized⟩ := exists_ok_of_isOk commits.serializes
  obtain ⟨row, rowed, client, broker⟩ : ∃ row, recordRow codec call.1.record = .ok row ∧
      row.clientOrderId = call.1.record.clientOrderId.value ∧
      row.brokerOrderId = call.1.record.brokerOrderId.map BrokerOrderId.value := by
    unfold recordRow
    rw [serialized]
    exact ⟨_, rfl, rfl, rfl⟩
  have fits := (rowFits_iff client broker call.2.constraintFailed _).2 ⟨commits.fits, rfl⟩
  have begins := (failWith_ok_iff OrderPathStoreError.sqlite _).2 commits.begins
  have writes := (failWith_ok_iff OrderPathStoreError.sqlite _).2 commits.writes
  have audits := (failWith_ok_iff OrderPathStoreError.sqlite _).2 commits.audits
  have committed := (failWith_ok_iff OrderPathStoreError.sqlite _).2 commits.commits
  unfold transaction
  rw [rowed, ok_bind, begins, ok_bind, writes, ok_bind, fits, ok_bind, audits, ok_bind, committed, ok_bind]
  exact ⟨_, rfl⟩

theorem sqlite_allOrNothing_iff (reads : codec.Reads) (call : SqliteCall) (store : SqliteOrderPathStore) :
    AllOrNothing (performSqlite codec) id (SqliteTook codec) call store ↔ SqliteCallSafe codec call store := by
  unfold AllOrNothing SqliteCallSafe
  rw [performSqlite_outcome]
  cases applied : call.1.applyTo store.inner with
  | error error => simp [Except.isOk, Except.toBool]
  | ok inner =>
      dsimp only
      cases transacted : transaction codec store.database call.1 (previousOf call.1 store.inner) call.2 with
      | error error =>
          have aborts : ¬ Commits codec store.database call := by
            intro commits
            obtain ⟨committed, success⟩ := commits_transaction commits (previousOf call.1 store.inner)
            cases transacted.symm.trans success
          simp [aborts]
      | ok committed =>
          obtain ⟨commits, left⟩ := transaction_ok reads transacted
          dsimp only
          cases hardened : hardenSqliteRuntimeFilePermissions call.2 with
          | ok _ =>
              have took : SqliteTook codec call { database := committed, inner := inner } := by
                obtain ⟨row, rowOf, records⟩ := left.written
                refine ⟨repeats_applyTo applied, row, ?_, rowOf⟩
                rw [records]
                simp
              exact ⟨fun _ _ _ => (hardens_iff _).1 hardened, fun _ => took⟩
          | error error =>
              have exposed : ¬ Hardens call.2 := by
                intro hardens
                cases hardened.symm.trans ((hardens_iff _).2 hardens)
              have moved : ({ store with database := committed } : SqliteOrderPathStore) ≠ store := by
                intro same
                obtain ⟨audit, audited⟩ := left.audited
                have sameAudits := congrArg (fun store => store.database.transitions.length) same
                simp [audited] at sameAudits
              exact ⟨fun same => absurd same moved, fun safe => absurd (safe rfl commits) exposed⟩

/-- Every record of the memory has its row, every row its record, and loading the table gives
the memory view, up to the sign of a zero. -/
structure SqliteSynced (codec : OrderPathCodec) (store : SqliteOrderPathStore) : Prop where
  wellFormed : store.inner.WellFormed
  rows : ∀ (key : List Char) (row : OrderPathRow), store.database.records[key]? = some row →
    ∃ record, store.inner.byRequestId[key]? = some record ∧ RowOf codec row record
  records : ∀ (key : List Char) (record : OrderPathRecord), store.inner.byRequestId[key]? = some record →
    ∃ row, store.database.records[key]? = some row ∧ RowOf codec row record

theorem applyTo_byRequestId {inner next : InMemoryOrderPathStore} {call : OrderPathCall}
    (success : call.applyTo inner = .ok next) :
    next.byRequestId = inner.byRequestId.insert call.record.requestId.toText call.record := by
  cases call with
  | insertIntent record =>
      obtain ⟨_, _, _, rfl⟩ := InMemoryOrderPathStore.insertIntent_ok_iff.1 success
      rfl
  | updateRecord record =>
      obtain ⟨existing, _, _, _, rfl⟩ := InMemoryOrderPathStore.updateRecord_ok success
      rfl

theorem SqliteSynced.commit {inner : InMemoryOrderPathStore} {committed : OrderPathDatabase} {call : OrderPathCall}
    (synced : SqliteSynced codec store) (applied : call.applyTo store.inner = .ok inner)
    (left : Committed codec store.database call.record committed) :
    SqliteSynced codec { database := committed, inner := inner } := by
  obtain ⟨written, rowOf, records⟩ := left.written
  have memory := applyTo_byRequestId applied
  refine ⟨wellFormed_applyTo synced.wellFormed applied, ?_, ?_⟩
  · intro key row found
    dsimp only at found ⊢
    rw [records, Std.ExtTreeMap.getElem?_insert] at found
    rw [memory, Std.ExtTreeMap.getElem?_insert]
    by_cases named : compare call.record.requestId.toText key = .eq
    · rw [if_pos named] at found ⊢
      cases found
      exact ⟨_, rfl, rowOf⟩
    · rw [if_neg named] at found ⊢
      exact synced.rows key row found
  · intro key record found
    dsimp only at found ⊢
    rw [memory, Std.ExtTreeMap.getElem?_insert] at found
    rw [records, Std.ExtTreeMap.getElem?_insert]
    by_cases named : compare call.record.requestId.toText key = .eq
    · rw [if_pos named] at found ⊢
      cases found
      exact ⟨_, rfl, rowOf⟩
    · rw [if_neg named] at found ⊢
      exact synced.records key record found

/-- A passing call wrote the memory it kept. -/
theorem performSqlite_ok (reads : codec.Reads) {call : SqliteCall} {last : SqliteOrderPathStore}
    (ran : (performSqlite codec call).outcome store = (.ok (), last)) :
    call.1.applyTo store.inner = .ok last.inner ∧ Committed codec store.database call.1.record last.database := by
  rw [performSqlite_outcome] at ran
  cases applied : call.1.applyTo store.inner with
  | error error =>
      rw [applied] at ran
      cases ran
  | ok inner =>
      rw [applied] at ran
      dsimp only at ran
      cases transacted : transaction codec store.database call.1 (previousOf call.1 store.inner) call.2 with
      | error error =>
          rw [transacted] at ran
          cases ran
      | ok committed =>
          rw [transacted] at ran
          dsimp only at ran
          cases hardened : hardenSqliteRuntimeFilePermissions call.2 with
          | error error =>
              rw [hardened] at ran
              cases ran
          | ok _ =>
              rw [hardened] at ran
              cases ran
              exact ⟨rfl, (transaction_ok reads transacted).2⟩

theorem sqlite_run_synced (reads : codec.Reads) {first last : SqliteOrderPathStore} {calls : List SqliteCall}
    (run : Run (CallStep (performSqlite codec) (SqliteCallSafe codec)) first calls last)
    (synced : SqliteSynced codec first) : SqliteSynced codec last := by
  have atomic : ∀ call store, SqliteSynced codec store → SqliteCallSafe codec call store →
      AllOrNothing (performSqlite codec) id (SqliteTook codec) call store :=
    fun call store _ safe => (sqlite_allOrNothing_iff reads call store).2 safe
  have seen : ∀ first last : SqliteOrderPathStore, id last = id first → SqliteSynced codec first →
      SqliteSynced codec last := by
    rintro first last rfl synced
    exact synced
  have passes : ∀ call first last, SqliteSynced codec first → SqliteCallSafe codec call first →
      (performSqlite codec call).outcome first = (.ok (), last) → SqliteSynced codec last := by
    intro call first last synced _ ran
    obtain ⟨applied, left⟩ := performSqlite_ok reads ran
    exact synced.commit applied left
  exact keeps_of_allOrNothing atomic seen passes run synced

/-- The records behind the rows of a table, in the order of the rows. -/
theorem SqliteSynced.behind (synced : SqliteSynced codec store) {rows : List (List Char × OrderPathRow)}
    (stored : ∀ entry ∈ rows, store.database.records[entry.1]? = some entry.2) :
    ∃ records : List OrderPathRecord, List.Forall₂ (fun entry record =>
      store.inner.byRequestId[entry.1]? = some record ∧ RowOf codec entry.2 record) rows records := by
  induction rows with
  | nil => exact ⟨[], .nil⟩
  | cons entry rows ih =>
      obtain ⟨record, found, rowOf⟩ := synced.rows entry.1 entry.2 (stored entry List.mem_cons_self)
      obtain ⟨records, rest⟩ := ih fun other member => stored other (List.mem_cons_of_mem _ member)
      exact ⟨record :: records, .cons ⟨found, rowOf⟩ rest⟩

theorem forall₂_left_of_mem {Left Right : Type} {related : Left → Right → Prop} {left : List Left} {right : List Right}
    (pairs : List.Forall₂ related left right) {item : Left} (member : item ∈ left) :
    ∃ other ∈ right, related item other := by
  induction pairs with
  | nil => cases member
  | cons relates _ ih =>
      cases member with
      | head => exact ⟨_, List.mem_cons_self, relates⟩
      | tail _ behind =>
          obtain ⟨other, isMember, related⟩ := ih behind
          exact ⟨other, List.mem_cons_of_mem _ isMember, related⟩

theorem forall₂_map_eq {Left Right Key : Type} {related : Left → Right → Prop} {left : List Left} {right : List Right}
    (pairs : List.Forall₂ related left right) {key : Left → Key} {otherKey : Right → Key}
    (same : ∀ item other, related item other → key item = otherKey other) : left.map key = right.map otherKey := by
  induction pairs with
  | nil => rfl
  | cons relates _ ih => rw [List.map_cons, List.map_cons, same _ _ relates, ih]

/-- Loading the table of a synced store gives its memory view. -/
theorem SqliteSynced.loads (synced : SqliteSynced codec store) :
    loadInnerFromSqlite codec store.database = .ok store.inner.reread := by
  obtain ⟨records, pairs⟩ := synced.behind fun entry member => Std.ExtTreeMap.mem_toList_iff_getElem?_eq_some.1 member
  have keys : store.database.records.toList.map Prod.fst =
      records.map (StrategyRequestId.toText ∘ OrderPathRecord.requestId) :=
    forall₂_map_eq pairs fun entry record ⟨found, _⟩ => (synced.wellFormed.keyed entry.1 record found).symm
  have lists : store.inner.Lists records := by
    constructor
    · intro record
      constructor
      · intro member
        obtain ⟨entry, _, found, _⟩ := forall₂_left_of_mem pairs.flip member
        have named := synced.wellFormed.keyed entry.1 record found
        unfold InMemoryOrderPathStore.getByRequestId
        rwa [named]
      · intro found
        obtain ⟨row, stored, _⟩ := synced.records _ record found
        obtain ⟨other, isMember, sameKey, _⟩ :=
          forall₂_left_of_mem pairs (Std.ExtTreeMap.mem_toList_iff_getElem?_eq_some.2 stored)
        cases found.symm.trans sameKey
        exact isMember
    · have distinct : (store.database.records.toList.map Prod.fst).Nodup := by
        rw [List.nodup_iff_pairwise_ne, List.pairwise_map]
        exact Std.ExtTreeMap.distinct_keys_toList.imp fun differs same => differs (by rw [same]; simp)
      rw [keys, ← List.map_map] at distinct
      exact distinct.of_map _
  have payloads : List.Forall₂ (fun (row : OrderPathRow) (record : OrderPathRecord) =>
      (codec.recordFromStr row.payload).mapError OrderPathStoreError.serialization = .ok record)
      (intoValues store.database.records) (records.map OrderPathRecord.reread) := by
    unfold intoValues
    rw [List.forall₂_map_left_iff, List.forall₂_map_right_iff]
    exact pairs.imp fun entry record ⟨_, rowOf⟩ => by rw [rowOf.payload]; rfl
  unfold loadInnerFromSqlite
  rw [foldlM_reading payloads]
  exact InMemoryOrderPathStore.foldlM_insertIntent synced.wellFormed.reread (lists.reread synced.wellFormed)

end Sqlite

section Sample

def sampleRecord : OrderPathRecord :=
  { requestId := ⟨Vector.replicate 16 1⟩
    clientOrderId := { value := "CID000000000000030" }
    brokerOrderId := none
    commandKind := .place
    accountId := { value := "ACC_TEST" }
    instrument := { symbol := "TESTFUT", venueSymbol := none, exchange := .moex, market := .futures }
    side := some .buy
    orderType := some .market
    qty := some (Decimal.ofNat 1 Decimal.one_fits)
    limitPrice := none
    timeInForce := some .day
    createdTs := { seconds := 1786442400, nanos := 0 }
    lastUpdateTs := { seconds := 1786442400, nanos := 0 }
    submitAttemptCount := 0
    cancelAttemptCount := 0
    state := .intentRecorded
    lastAckStatus := none
    lastErrorKind := none
    lastReconciliationSource := none
    outgoingCommentFingerprint := none }

def samplePayload : String :=
  "\x7b\"request_id\":\"01010101-0101-0101-0101-010101010101\"," ++
    "\"client_order_id\":\"CID000000000000030\",\"broker_order_id\":null," ++
    "\"command_kind\":\"Place\",\"account_id\":\"ACC_TEST\",\"instrument\":\x7b\"symbol\":\"TESTFUT\"," ++
    "\"venue_symbol\":null,\"exchange\":\"Moex\",\"market\":\"Futures\"\x7d,\"side\":\"Buy\"," ++
    "\"order_type\":\"Market\",\"qty\":\"1\",\"limit_price\":null,\"time_in_force\":\"Day\"," ++
    "\"created_ts\":\"2026-08-11T10:00:00Z\",\"last_update_ts\":\"2026-08-11T10:00:00Z\"," ++
    "\"submit_attempt_count\":0,\"cancel_attempt_count\":0,\"state\":\"IntentRecorded\"," ++
    "\"last_ack_status\":null,\"last_error_kind\":null,\"last_reconciliation_source\":null," ++
    "\"outgoing_comment_fingerprint\":null\x7d"

def sampleSnapshot : List Char :=
  '\x7b' :: ("\n  \"records\": [\n    \x7b" ++
      "\n      \"request_id\": \"01010101-0101-0101-0101-010101010101\"," ++
      "\n      \"client_order_id\": \"CID000000000000030\",\n      \"broker_order_id\": null," ++
      "\n      \"command_kind\": \"Place\",\n      \"account_id\": \"ACC_TEST\"," ++
      "\n      \"instrument\": \x7b\n        \"symbol\": \"TESTFUT\"," ++
      "\n        \"venue_symbol\": null,\n        \"exchange\": \"Moex\"," ++
      "\n        \"market\": \"Futures\"\n      \x7d,\n      \"side\": \"Buy\"," ++
      "\n      \"order_type\": \"Market\",\n      \"qty\": \"1\",\n      \"limit_price\": null," ++
      "\n      \"time_in_force\": \"Day\",\n      \"created_ts\": \"2026-08-11T10:00:00Z\"," ++
      "\n      \"last_update_ts\": \"2026-08-11T10:00:00Z\",\n      \"submit_attempt_count\": 0," ++
      "\n      \"cancel_attempt_count\": 0,\n      \"state\": \"IntentRecorded\"," ++
      "\n      \"last_ack_status\": null,\n      \"last_error_kind\": null," ++
      "\n      \"last_reconciliation_source\": null,\n      \"outgoing_comment_fingerprint\": null" ++
      "\n    \x7d\n  ]\n\x7d").toList

def sampleCodec : OrderPathCodec :=
  { recordToString := fun record => if record = sampleRecord then .ok samplePayload.toList else .error "not the sample"
    recordFromStr := fun payload => if payload = samplePayload.toList then .ok sampleRecord else .error "not the sample"
    snapshotToStringPretty := fun records =>
      if records = [sampleRecord] then .ok sampleSnapshot else .error "not the sample"
    snapshotFromStr := fun raw =>
      if raw = sampleSnapshot then .ok [sampleRecord] else .error "not the sample"
    toRfc3339 := fun _ => "2026-08-11T10:00:00+00:00" }

theorem reread_sampleRecord : sampleRecord.reread = sampleRecord := by decide

theorem writesOnly_ok_iff {Value : Type} {condition : Prop} [Decidable condition] {written result : Value}
    {refusal : String} : (if condition then Except.ok written else .error refusal) = .ok result ↔
      condition ∧ written = result := by
  by_cases holds : condition <;> simp [holds]

theorem sampleCodec_reads : sampleCodec.Reads := by
  constructor
  · intro record payload success
    obtain ⟨isSample, isText⟩ := writesOnly_ok_iff.1 success
    rw [isSample, reread_sampleRecord]
    exact writesOnly_ok_iff.2 ⟨isText.symm, rfl⟩
  · intro records raw success
    obtain ⟨isSample, isText⟩ := writesOnly_ok_iff.1 success
    rw [isSample, List.map_singleton, reread_sampleRecord]
    exact writesOnly_ok_iff.2 ⟨isText.symm, rfl⟩
  · intro records raw success
    obtain ⟨_, isText⟩ := writesOnly_ok_iff.1 success
    rw [← isText]
    intro blank
    have opening := blank '\x7b' List.mem_cons_self
    revert opening
    decide

def samplePath : FilePath :=
  { parent := "store".toList
    fileName := "orders.json".toList }

def freshJsonSystem : JsonFileSystem :=
  { store := { path := samplePath, inner := .empty }
    disk := fun _ => none }

def freshSqliteStore : SqliteOrderPathStore :=
  { database := .empty
    inner := .empty }

/-- Only setting the permissions of the database file fails. -/
def databaseUnprotected : SqliteFaults :=
  { beginImmediate := none
    executeRecord := none
    constraintFailed := "UNIQUE constraint failed: order_path_records.client_order_id"
    executeAudit := none
    commit := none
    isPresent := fun file => file = .database
    setPermissions := fun _ => some "Operation not permitted (os error 1)" }

theorem fresh_insertIntent : (OrderPathCall.insertIntent sampleRecord).applyTo .empty =
    .ok (InMemoryOrderPathStore.empty.withRecord sampleRecord) :=
  InMemoryOrderPathStore.insertIntent_ok_iff.2
    ⟨by simp [InMemoryOrderPathStore.empty, InMemoryOrderPathStore.getByRequestId],
      by simp [InMemoryOrderPathStore.empty], by simp [InMemoryOrderPathStore.empty], rfl⟩

theorem recordToString_sample : (sampleCodec.recordToString sampleRecord).isOk = true := by
  simp only [sampleCodec, ↓reduceIte]
  rfl

theorem snapshotRecords_fresh :
    snapshotRecords (InMemoryOrderPathStore.empty.withRecord sampleRecord) = [sampleRecord] := by
  decide

theorem snapshot_fresh : (sampleCodec.snapshotToStringPretty
    (snapshotRecords (InMemoryOrderPathStore.empty.withRecord sampleRecord))).isOk = true := by
  rw [snapshotRecords_fresh]
  simp only [sampleCodec, ↓reduceIte]
  rfl

/-- A failing write leaves the record in memory alone, and a failing step behind the commit leaves it
on disk alone. -/
theorem order_path_stores_not_failure_atomic :
    ¬ AllOrNothing (performJson sampleCodec) JsonFileSystem.view (JsonTook sampleCodec)
      (.insertIntent sampleRecord, some (.write "No space left on device (os error 28)" none)) freshJsonSystem ∧
    ¬ AllOrNothing (performSqlite sampleCodec) id (SqliteTook sampleCodec)
      (.insertIntent sampleRecord, databaseUnprotected) freshSqliteStore := by
  constructor
  · rw [json_allOrNothing_iff sampleCodec_reads]
    intro safe
    rcases safe _ fresh_insertIntent with persists | ⟨repeats, _⟩
    · exact persists.2
    · simp [Repeats, freshJsonSystem, InMemoryOrderPathStore.empty, InMemoryOrderPathStore.getByRequestId] at repeats
  · rw [sqlite_allOrNothing_iff sampleCodec_reads]
    intro safe
    have commits : Commits sampleCodec freshSqliteStore.database
        (OrderPathCall.insertIntent sampleRecord, databaseUnprotected) := by
      refine ⟨recordToString_sample, rfl, rfl, ⟨?_, ?_⟩, rfl, rfl⟩
      · simp [freshSqliteStore, OrderPathDatabase.empty]
      · intro key other _ found
        simp [freshSqliteStore, OrderPathDatabase.empty] at found
    have hardens := safe (by rw [show freshSqliteStore.inner = .empty from rfl, fresh_insertIntent]; rfl) commits
    have unset := hardens .database rfl
    cases unset

end Sample

/-- Each call on either store is all or nothing exactly where it is safe; runs of safe calls never
let memory and disk diverge, and a safe call that failed can be made again. -/
theorem order_path_stores_failure_atomic (codec : OrderPathCodec) (reads : codec.Reads) :
    (∀ call system, AllOrNothing (performJson codec) JsonFileSystem.view (JsonTook codec) call system ↔
      JsonCallSafe codec call system) ∧
    (∀ call store, AllOrNothing (performSqlite codec) id (SqliteTook codec) call store ↔
      SqliteCallSafe codec call store) ∧
    (∀ first calls last, JsonSynced codec first →
      Run (CallStep (performJson codec) (JsonCallSafe codec)) first calls last → JsonSynced codec last) ∧
    (∀ first calls last, SqliteSynced codec first →
      Run (CallStep (performSqlite codec) (SqliteCallSafe codec)) first calls last →
        SqliteSynced codec last ∧ loadInnerFromSqlite codec last.database = .ok last.inner.reread) ∧
    (∀ call again system error, JsonCallSafe codec call system →
      ((performJson codec call).outcome system).1 = .error error →
        ((performJson codec again).outcome ((performJson codec call).outcome system).2).1 =
            ((performJson codec again).outcome system).1 ∧
          ((performJson codec again).outcome ((performJson codec call).outcome system).2).2.view =
            ((performJson codec again).outcome system).2.view) ∧
    (∀ call again store error, SqliteCallSafe codec call store →
      ((performSqlite codec call).outcome store).1 = .error error →
        (performSqlite codec again).outcome ((performSqlite codec call).outcome store).2 =
          (performSqlite codec again).outcome store) := by
  refine ⟨json_allOrNothing_iff reads, sqlite_allOrNothing_iff reads, ?_, ?_, ?_, ?_⟩
  · intro first calls last synced run
    exact json_run_synced reads run synced
  · intro first calls last synced run
    have lastSynced := sqlite_run_synced reads run synced
    exact ⟨lastSynced, lastSynced.loads⟩
  · intro call again system error safe failed
    have whole := (json_allOrNothing_iff reads call system).2 safe
    exact retry_of_allOrNothing (fun left right same => performJson_congr again same) whole failed
  · intro call again store error safe failed
    have whole := (sqlite_allOrNothing_iff reads call store).2 safe
    unfold AllOrNothing at whole
    cases ran : (performSqlite codec call).outcome store with
    | mk result after =>
        rw [ran] at whole failed
        dsimp only at failed
        subst failed
        exact congrArg _ whole

/-- A market order recorded on a fresh disk, by both stores, with nothing failing. -/
theorem order_path_stores_failure_atomic_fresh :
    AllOrNothing (performJson sampleCodec) JsonFileSystem.view (JsonTook sampleCodec)
      (.insertIntent sampleRecord, none) freshJsonSystem ∧
    AllOrNothing (performSqlite sampleCodec) id (SqliteTook sampleCodec)
      (.insertIntent sampleRecord, { databaseUnprotected with setPermissions := fun _ => none }) freshSqliteStore := by
  obtain ⟨json, sqlite, _⟩ := order_path_stores_failure_atomic sampleCodec sampleCodec_reads
  constructor
  · refine (json _ _).2 ?_
    intro inner applied
    cases fresh_insertIntent.symm.trans applied
    exact .inl ⟨snapshot_fresh, trivial⟩
  · refine (sqlite _ _).2 ?_
    intro _ _ file _
    rfl

end TradingGateway.BrokerCore.OrderPathStores
