import Mathlib.Order.Compare
import TradingGateway.Stage8b.WorkingLimitBook

/-! What a valid working book promises about its records, and what writing one
record and linking the book leaves behind. -/

set_option autoImplicit false

namespace TradingGateway.Stage8b.WorkingLimitBook

open BrokerCore.Identifiers Stage6.JournalRecord WorkingLimitEvidence
open Foundation.ExceptRun Foundation.KeyedRows

theorem checkedAdd_toNat {value increment sum : UInt64} (counted : checkedAdd value increment = some sum) :
    sum.toNat = value.toNat + increment.toNat := by
  unfold checkedAdd at counted
  split at counted
  · cases counted
    rw [UInt64.toNat_add]
    omega
  · cases counted

theorem compareBytes_trans {first second third : String} (firstLess : compareBytes first second = .lt)
    (secondLess : compareBytes second third = .lt) : compareBytes first third = .lt := by
  unfold compareBytes at *
  exact Std.TransCmp.lt_trans firstLess secondLess

namespace Stage8bP1d3WorkingBookProjectionV1

variable {codec : WorkingLimitCodec} {book : Stage8bP1d3WorkingBookProjectionV1}

structure LoopFacts (codec : WorkingLimitCodec) (book : Stage8bP1d3WorkingBookProjectionV1)
    (history : List Stage8bP1d3OrderRecordV1) (seen : SeenRecords) : Prop where
  orderIds : seen.orderIds = (history.map (·.brokerOrderId)).reverse
  requestIds : seen.requestIds = (history.map (·.originalRequestId)).reverse
  clientIds : seen.clientIds = (history.map (·.originalDurablePlaceClientId)).reverse
  fingerprints : seen.fingerprints = (history.map (·.deterministicOrderFingerprintSha256)).reverse
  previousOrderId : seen.previousOrderId = history.getLast?.map (·.brokerOrderId)
  activeRows : seen.activeRows = history.countP (fun record => record.lifecycle = .active)
  distinctOrderIds : (history.map (·.brokerOrderId)).Nodup
  distinctRequestIds : (history.map (·.originalRequestId)).Nodup
  distinctClientIds : (history.map (·.originalDurablePlaceClientId)).Nodup
  distinctFingerprints : (history.map (·.deterministicOrderFingerprintSha256)).Nodup
  ascending : history.Pairwise fun left right =>
    compareBytes left.brokerOrderId.value right.brokerOrderId.value = .lt
  active : ∀ record ∈ history, record.lifecycle = .active →
    book.activeBrokerOrderId = some record.brokerOrderId
  valid : ∀ record ∈ history, record.validate codec book = .ok ()

theorem LoopFacts.start (codec : WorkingLimitCodec) (book : Stage8bP1d3WorkingBookProjectionV1) :
    LoopFacts codec book [] SeenRecords.start := by
  constructor <;> simp [SeenRecords.start]

private theorem nodup_concat {Value : Type} {values : List Value} {value : Value} (distinct : values.Nodup)
    (fresh : value ∉ values) : (values ++ [value]).Nodup := by
  rw [List.nodup_append]
  refine ⟨distinct, List.nodup_singleton value, ?_⟩
  intro earlier member later last same
  rw [List.mem_singleton] at last
  exact fresh (last ▸ same ▸ member)

private theorem ascending_concat {history : List Stage8bP1d3OrderRecordV1} {record : Stage8bP1d3OrderRecordV1}
    (ascending : history.Pairwise fun left right =>
      compareBytes left.brokerOrderId.value right.brokerOrderId.value = .lt)
    (follows : ∀ last ∈ history.getLast?, compareBytes last.brokerOrderId.value record.brokerOrderId.value = .lt) :
    (history ++ [record]).Pairwise fun left right =>
      compareBytes left.brokerOrderId.value right.brokerOrderId.value = .lt := by
  rw [List.pairwise_append]
  refine ⟨ascending, List.pairwise_singleton _ _, ?_⟩
  intro earlier member final isFinal
  rw [List.mem_singleton] at isFinal
  subst isFinal
  cases history using List.reverseRecOn with
  | nil => cases member
  | append_singleton front last =>
      have below := follows last (by simp)
      rw [List.pairwise_append] at ascending
      rcases List.mem_append.1 member with inFront | isLast
      · exact compareBytes_trans (ascending.2.2 earlier inFront last (List.mem_singleton_self last)) below
      · exact List.mem_singleton.1 isLast ▸ below

theorem LoopFacts.next {history : List Stage8bP1d3OrderRecordV1} {seen updated : SeenRecords}
    {record : Stage8bP1d3OrderRecordV1} (facts : LoopFacts codec book history seen)
    (stepped : validateRecord codec book seen record = .ok updated) :
    LoopFacts codec book (history ++ [record]) updated := by
  unfold validateRecord at stepped
  obtain ⟨valid, stepped⟩ := check_bind_ok_iff.1 stepped
  obtain ⟨fresh, stepped⟩ := check_bind_ok_iff.1 stepped
  obtain ⟨active, stepped⟩ := check_bind_ok_iff.1 stepped
  cases stepped
  simp only [rejectIf_ok_iff, not_or] at fresh
  obtain ⟨follows, freshOrder, freshRequest, freshClient, freshFingerprint⟩ := fresh
  simp only [facts.orderIds, facts.requestIds, facts.clientIds, facts.fingerprints, List.mem_reverse]
    at freshOrder freshRequest freshClient freshFingerprint
  constructor
  · simp [facts.orderIds]
  · simp [facts.requestIds]
  · simp [facts.clientIds]
  · simp [facts.fingerprints]
  · simp
  · simp only [facts.activeRows, List.countP_append, List.countP_singleton, decide_eq_true_eq]
    split <;> rfl
  · simpa using nodup_concat facts.distinctOrderIds freshOrder
  · simpa using nodup_concat facts.distinctRequestIds freshRequest
  · simpa using nodup_concat facts.distinctClientIds freshClient
  · simpa using nodup_concat facts.distinctFingerprints freshFingerprint
  · refine ascending_concat facts.ascending ?_
    intro last isLast
    rw [facts.previousOrderId, Option.mem_def.1 isLast] at follows
    cases order : compareBytes last.brokerOrderId.value record.brokerOrderId.value with
    | lt => rfl
    | eq => simp [order] at follows
    | gt => simp [order] at follows
  · intro other member isActive
    rcases List.mem_append.1 member with earlier | last
    · exact facts.active other earlier isActive
    · rw [List.mem_singleton] at last
      subst last
      simpa [isActive] using active
  · intro other member
    rcases List.mem_append.1 member with earlier | last
    · exact facts.valid other earlier
    · exact List.mem_singleton.1 last ▸ valid

/-- What `validate` promises about the records of a book. -/
structure RegistryFacts (codec : WorkingLimitCodec) (book : Stage8bP1d3WorkingBookProjectionV1) : Prop where
  distinctOrderIds : (book.records.map (·.brokerOrderId)).Nodup
  distinctRequestIds : (book.records.map (·.originalRequestId)).Nodup
  distinctClientIds : (book.records.map (·.originalDurablePlaceClientId)).Nodup
  ascending : book.records.Pairwise fun left right =>
    compareBytes left.brokerOrderId.value right.brokerOrderId.value = .lt
  oneActive : book.records.countP (fun record => record.lifecycle = .active) ≤ 1
  active : ∀ record ∈ book.records, record.lifecycle = .active →
    book.activeBrokerOrderId = some record.brokerOrderId
  activeKnown : ∀ id, book.activeBrokerOrderId = some id →
    ∃ record ∈ book.records, record.brokerOrderId = id ∧ record.lifecycle = .active
  valid : ∀ record ∈ book.records, record.validate codec book = .ok ()

theorem registry_of_validate (accepted : book.validate codec = .ok ()) : RegistryFacts codec book := by
  unfold validate at accepted
  obtain ⟨_, accepted⟩ := check_bind_ok_iff.1 accepted
  obtain ⟨_, accepted⟩ := check_bind_ok_iff.1 accepted
  obtain ⟨seen, looped, accepted⟩ := bind_ok_iff.1 accepted
  have facts : LoopFacts codec book book.records seen :=
    foldlM_induction (LoopFacts codec book) (.start codec book) (fun _ _ _ _ facts stepped => facts.next stepped) looped
  simp only [rejectIf_ok_iff, not_or, not_lt] at accepted
  obtain ⟨one, someActive, _⟩ := accepted
  refine {
    distinctOrderIds := facts.distinctOrderIds
    distinctRequestIds := facts.distinctRequestIds
    distinctClientIds := facts.distinctClientIds
    ascending := facts.ascending
    oneActive := facts.activeRows ▸ one
    active := facts.active
    activeKnown := ?_
    valid := facts.valid }
  intro id isActive
  have positive : 0 < book.records.countP (fun record => record.lifecycle = .active) := by
    rw [facts.activeRows, isActive] at someActive
    simp only [ne_eq, reduceCtorEq, not_false_eq_true, iff_true] at someActive
    exact Nat.pos_of_ne_zero someActive
  obtain ⟨record, member, active⟩ := List.countP_pos_iff.1 positive
  have active : record.lifecycle = .active := by simpa using active
  have named := facts.active record member active
  rw [isActive] at named
  exact ⟨record, member, (Option.some.inj named).symm, active⟩

structure Written (codec : WorkingLimitCodec) (book : Stage8bP1d3WorkingBookProjectionV1)
    (record : Stage8bP1d3OrderRecordV1) (frontier : UInt64) (post : Stage8bP1d3WorkingBookProjectionV1) :
    Prop where
  valid : post.validate codec = .ok ()
  records : post.records =
    sortRecords (replaceOrAppend Stage8bP1d3OrderRecordV1.brokerOrderId record book.records)
  ordinal : post.transitionOrdinal.toNat = book.transitionOrdinal.toNat + 1
  previous : post.previousTransitionSha256 = book.latestTransitionSha256
  frontier : post.totalSequenceFrontier = frontier

theorem written_of_advance {record : Stage8bP1d3OrderRecordV1} {inserted post : Stage8bP1d3WorkingBookProjectionV1}
    {latestOutcome : HexText} {evidenceBytes : List UInt8} {phase : Stage8bP1d3BookPhase} {frontier : UInt64}
    (insertion : book.insertOrReplace record = .ok inserted)
    (advanced : { inserted with latestOutcomeEvidenceSha256 := latestOutcome }.advance codec evidenceBytes phase
      frontier = .ok post) : Written codec book record frontier post := by
  unfold insertOrReplace at insertion
  obtain ⟨_, insertion⟩ := check_bind_ok_iff.1 insertion
  cases insertion
  unfold advance at advanced
  obtain ⟨ordinal, counted, advanced⟩ := bind_ok_iff.1 advanced
  obtain ⟨latest, _, advanced⟩ := bind_ok_iff.1 advanced
  obtain ⟨_, advanced⟩ := check_bind_ok_iff.1 advanced
  obtain ⟨valid, advanced⟩ := check_bind_ok_iff.1 advanced
  cases advanced
  exact {
    valid := valid
    records := rfl
    ordinal := checkedAdd_toNat ((orReject_ok_iff ..).1 counted)
    previous := rfl
    frontier := rfl }

theorem mem_sortRecords {record : Stage8bP1d3OrderRecordV1} {records : List Stage8bP1d3OrderRecordV1} :
    record ∈ sortRecords records ↔ record ∈ records :=
  List.mem_insertionSort _

/-- A record under another id is still there after a write. -/
theorem Written.keeps_other {record other : Stage8bP1d3OrderRecordV1} {frontier : UInt64}
    {post : Stage8bP1d3WorkingBookProjectionV1} (written : Written codec book record frontier post)
    (member : other ∈ book.records) (differs : other.brokerOrderId ≠ record.brokerOrderId) :
    other ∈ post.records := by
  rw [written.records, mem_sortRecords]
  exact mem_replaceOrAppend_of_ne member differs

theorem Written.mem_record {record : Stage8bP1d3OrderRecordV1} {frontier : UInt64}
    {post : Stage8bP1d3WorkingBookProjectionV1} (written : Written codec book record frontier post) :
    record ∈ post.records := by
  rw [written.records, mem_sortRecords]
  exact mem_replaceOrAppend_self record book.records

/-- In a valid book the active record is in the registry, and it is active. -/
theorem RegistryFacts.activeRecord {record : Stage8bP1d3OrderRecordV1} (facts : RegistryFacts codec book)
    (found : book.activeRecord = some record) : record ∈ book.records ∧ record.lifecycle = .active := by
  unfold Stage8bP1d3WorkingBookProjectionV1.activeRecord at found
  obtain ⟨id, isActive, found⟩ := Option.bind_eq_some_iff.1 found
  obtain ⟨known, member, named, active⟩ := facts.activeKnown id isActive
  have located := find?_key_of_mem facts.distinctOrderIds member
  rw [named] at located
  cases located.symm.trans found
  exact ⟨member, active⟩

/-- Looking up the id of a record of a valid book finds that record. -/
theorem RegistryFacts.record_of_mem {record : Stage8bP1d3OrderRecordV1} (facts : RegistryFacts codec book)
    (member : record ∈ book.records) : book.record record.brokerOrderId = some record :=
  find?_key_of_mem facts.distinctOrderIds member

theorem mem_of_record {id : BrokerOrderId} {record : Stage8bP1d3OrderRecordV1}
    (found : book.record id = some record) : record ∈ book.records ∧ record.brokerOrderId = id :=
  ⟨List.mem_of_find?_eq_some found, by simpa using List.find?_some found⟩

/-- In a valid book an active record is the active record. -/
theorem RegistryFacts.activeRecord_of_mem {record : Stage8bP1d3OrderRecordV1} (facts : RegistryFacts codec book)
    (member : record ∈ book.records) (isActive : record.lifecycle = .active) :
    book.activeRecord = some record := by
  unfold Stage8bP1d3WorkingBookProjectionV1.activeRecord
  rw [facts.active record member isActive]
  exact facts.record_of_mem member

/-- Behind a write over its record, the active order of a book is that record, or there is none. -/
theorem Written.active_eq {record row found : Stage8bP1d3OrderRecordV1} {frontier : UInt64}
    {post : Stage8bP1d3WorkingBookProjectionV1} (written : Written codec book row frontier post)
    (facts : RegistryFacts codec book) (member : record ∈ book.records)
    (isActive : record.lifecycle = .active) (same : row.brokerOrderId = record.brokerOrderId)
    (active : post.activeRecord = some found) : found = row ∧ row.lifecycle = .active := by
  have postFacts := registry_of_validate written.valid
  obtain ⟨foundMember, foundActive⟩ := postFacts.activeRecord active
  have isRow : found = row := by
    by_cases sameId : found.brokerOrderId = row.brokerOrderId
    · have first := postFacts.record_of_mem foundMember
      have second := postFacts.record_of_mem written.mem_record
      rw [sameId] at first
      cases first.symm.trans second
      rfl
    · rw [written.records, mem_sortRecords] at foundMember
      rcases mem_of_mem_replaceOrAppend foundMember with isRow | before
      · exact isRow
      · have named := facts.active found before foundActive
        rw [facts.active record member isActive, Option.some.injEq, ← same] at named
        exact absurd named.symm sameId
  exact ⟨isRow, isRow ▸ foundActive⟩

/-- A link behind the book changes nothing but the chain, the frontier and the phase. -/
theorem advance_ok {post : Stage8bP1d3WorkingBookProjectionV1} {evidenceBytes : List UInt8}
    {phase : Stage8bP1d3BookPhase} {frontier : UInt64}
    (advanced : book.advance codec evidenceBytes phase frontier = .ok post) :
    ∃ ordinal latest, ordinal.toNat = book.transitionOrdinal.toNat + 1 ∧
      post = { book with
        previousTransitionSha256 := book.latestTransitionSha256
        transitionOrdinal := ordinal
        totalSequenceFrontier := frontier
        phase := phase
        latestTransitionSha256 := latest } := by
  unfold advance at advanced
  obtain ⟨ordinal, counted, advanced⟩ := bind_ok_iff.1 advanced
  obtain ⟨latest, _, advanced⟩ := bind_ok_iff.1 advanced
  obtain ⟨_, advanced⟩ := check_bind_ok_iff.1 advanced
  obtain ⟨_, advanced⟩ := check_bind_ok_iff.1 advanced
  cases advanced
  exact ⟨ordinal, latest, checkedAdd_toNat ((orReject_ok_iff ..).1 counted), rfl⟩

/-- Writing over the active order leaves every ended order alone. -/
theorem Written.keeps_ended {written active ended : Stage8bP1d3OrderRecordV1} {frontier : UInt64}
    {post : Stage8bP1d3WorkingBookProjectionV1} (writes : Written codec book written frontier post)
    (facts : RegistryFacts codec book) (member : active ∈ book.records) (isActive : active.lifecycle = .active)
    (same : written.brokerOrderId = active.brokerOrderId) (endedMember : ended ∈ book.records)
    (isEnded : ended.lifecycle = .terminal) : ended ∈ post.records := by
  refine writes.keeps_other endedMember ?_
  rw [same]
  intro sameId
  cases eq_of_key_eq facts.distinctOrderIds endedMember member sameId
  rw [isActive] at isEnded
  cases isEnded

end Stage8bP1d3WorkingBookProjectionV1

end TradingGateway.Stage8b.WorkingLimitBook
