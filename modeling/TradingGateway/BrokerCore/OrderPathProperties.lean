import TradingGateway.BrokerCore.OrderPath

/-! The in-memory order-path store: its indexes follow its records, so the records alone
rebuild it. -/

set_option autoImplicit false

namespace TradingGateway.BrokerCore.OrderPath

open FixedPoint Identifiers
open Foundation.ExceptRun Foundation.OrderedMap

theorem clientKey_injective : Function.Injective clientKey := by
  intro left right same
  cases left
  cases right
  exact congrArg _ (String.toList_inj.1 same)

namespace InMemoryOrderPathStore

variable {store next : InMemoryOrderPathStore} {record : OrderPathRecord}

def withRecord (store : InMemoryOrderPathStore) (record : OrderPathRecord) : InMemoryOrderPathStore :=
  { byRequestId := store.byRequestId.insert record.requestId.toText record
    requestByClientId := store.requestByClientId.insert (clientKey record.clientOrderId) record.requestId
    requestByBrokerId := store.withBrokerId record }

theorem insertIntent_ok_iff : store.insertIntent record = .ok next ↔
    store.getByRequestId record.requestId = none ∧
      store.requestByClientId[clientKey record.clientOrderId]? = none ∧
      (∀ brokerOrderId ∈ record.brokerOrderId, store.requestByBrokerId[brokerKey brokerOrderId]? = none) ∧
      store.withRecord record = next := by
  unfold insertIntent
  rw [check_bind_ok_iff, check_bind_ok_iff, rejectIf_ok_iff, rejectIf_ok_iff, not_contains_iff, not_contains_iff]
  cases record.brokerOrderId with
  | none => simp [getByRequestId, withRecord]
  | some brokerOrderId => simp [getByRequestId, withRecord]

inductive BrokerIdKept (store : InMemoryOrderPathStore) (existing record : OrderPathRecord) : Prop where
  | same (same : record.brokerOrderId = existing.brokerOrderId)
  | learnt (brokerOrderId : BrokerOrderId) (unknown : existing.brokerOrderId = none)
      (known : record.brokerOrderId = some brokerOrderId)
      (free : ∀ mapped, store.requestByBrokerId[brokerKey brokerOrderId]? = some mapped → mapped = record.requestId)

theorem checkBrokerOrderId_ok {existing : OrderPathRecord}
    (passes : store.checkBrokerOrderId existing record = .ok ()) : BrokerIdKept store existing record := by
  unfold checkBrokerOrderId at passes
  cases before : existing.brokerOrderId with
  | some existingId =>
      cases after : record.brokerOrderId with
      | some newId =>
          simp only [before, after, rejectIf_ok_iff, not_not] at passes
          exact .same (by rw [before, after, passes])
      | none =>
          simp only [before, after, reduceCtorEq] at passes
  | none =>
      cases after : record.brokerOrderId with
      | some newId =>
          simp only [before, after, rejectIf_ok_iff] at passes
          refine .learnt newId before after ?_
          intro mapped isMapped
          by_contra differs
          exact passes ⟨mapped, isMapped, differs⟩
      | none => exact .same (by rw [before, after])

/-- What an accepted update says of the record it replaces. -/
theorem updateRecord_ok (success : store.updateRecord record = .ok next) :
    ∃ existing, store.getByRequestId record.requestId = some existing ∧
      existing.clientOrderId = record.clientOrderId ∧ BrokerIdKept store existing record ∧
      next = { store with
        byRequestId := store.byRequestId.insert record.requestId.toText record
        requestByBrokerId :=
          if existing.brokerOrderId = none then store.withBrokerId record else store.requestByBrokerId } := by
  obtain ⟨existing, found, rest⟩ := bind_ok_iff.1 success
  obtain ⟨sameClient, rest⟩ := check_bind_ok_iff.1 rest
  obtain ⟨broker, rest⟩ := check_bind_ok_iff.1 rest
  obtain ⟨_, rest⟩ := check_bind_ok_iff.1 rest
  obtain ⟨_, result⟩ := check_bind_ok_iff.1 rest
  refine ⟨existing, (orReject_ok_iff ..).1 found, ?_, checkBrokerOrderId_ok broker, ?_⟩
  · simpa using sameClient
  · exact ((pure_ok_iff ..).1 result).symm

theorem getByRequestId_insert (byRequestId : Std.ExtTreeMap (List Char) OrderPathRecord)
    (clients brokers : Std.ExtTreeMap (List Char) StrategyRequestId) (requestId : StrategyRequestId) :
    getByRequestId (mk (byRequestId.insert record.requestId.toText record) clients brokers) requestId =
      if requestId = record.requestId then some record else byRequestId[requestId.toText]? := by
  unfold getByRequestId
  rw [Std.ExtTreeMap.getElem?_insert]
  by_cases same : requestId = record.requestId
  · simp [same]
  · have differs : record.requestId.toText ≠ requestId.toText :=
      fun texts => same (StrategyRequestId.toText_injective texts).symm
    simp [same, differs]

structure WellFormed (store : InMemoryOrderPathStore) : Prop where
  keyed : ∀ (key : List Char) (record : OrderPathRecord),
    store.byRequestId[key]? = some record → record.requestId.toText = key
  client : ∀ (key : List Char) (requestId : StrategyRequestId),
    store.requestByClientId[key]? = some requestId ↔
      ∃ record, store.getByRequestId requestId = some record ∧ clientKey record.clientOrderId = key
  broker : ∀ (key : List Char) (requestId : StrategyRequestId),
    store.requestByBrokerId[key]? = some requestId ↔
      ∃ record, store.getByRequestId requestId = some record ∧ ∃ brokerOrderId ∈ record.brokerOrderId,
        brokerKey brokerOrderId = key

theorem wellFormed_empty : empty.WellFormed := by
  constructor <;> simp [empty, getByRequestId]

theorem WellFormed.requestId_eq (wellFormed : store.WellFormed) {requestId : StrategyRequestId}
    (found : store.getByRequestId requestId = some record) : record.requestId = requestId :=
  StrategyRequestId.toText_injective (wellFormed.keyed _ _ found)

/-- The records decide the indexes. -/
theorem WellFormed.ext {other : InMemoryOrderPathStore} (wellFormed : store.WellFormed)
    (otherWellFormed : other.WellFormed) (same : store.byRequestId = other.byRequestId) : store = other := by
  have records : ∀ requestId, store.getByRequestId requestId = other.getByRequestId requestId := by
    intro requestId
    unfold getByRequestId
    rw [same]
  have clients : store.requestByClientId = other.requestByClientId := by
    apply Std.ExtTreeMap.ext_getElem?
    intro key
    apply Option.ext
    intro requestId
    rw [wellFormed.client, otherWellFormed.client, records]
  have brokers : store.requestByBrokerId = other.requestByBrokerId := by
    apply Std.ExtTreeMap.ext_getElem?
    intro key
    apply Option.ext
    intro requestId
    rw [wellFormed.broker, otherWellFormed.broker, records]
  cases store
  cases other
  cases same
  cases clients
  cases brokers
  rfl

theorem getByRequestId_withRecord (store : InMemoryOrderPathStore) (record : OrderPathRecord)
    (requestId : StrategyRequestId) : (store.withRecord record).getByRequestId requestId =
      if requestId = record.requestId then some record else store.getByRequestId requestId :=
  getByRequestId_insert ..

theorem keyed_insert (wellFormed : store.WellFormed) (key : List Char) (stored : OrderPathRecord)
    (found : (store.byRequestId.insert record.requestId.toText record)[key]? = some stored) :
    stored.requestId.toText = key := by
  rw [Std.ExtTreeMap.getElem?_insert] at found
  split at found
  · rename_i same
    cases found
    exact Std.LawfulEqOrd.eq_of_compare same
  · exact wellFormed.keyed key stored found

/-- Both indexes extend alike: under a key that is free, with an id that has no record yet. -/
theorem index_insert {index : Std.ExtTreeMap (List Char) StrategyRequestId} {names : OrderPathRecord → List Char → Prop}
    (indexes : ∀ (key : List Char) (requestId : StrategyRequestId), index[key]? = some requestId ↔
      ∃ stored, store.getByRequestId requestId = some stored ∧ names stored key)
    (unknown : store.getByRequestId record.requestId = none) {own : List Char} (free : index[own]? = none)
    (named : ∀ key, names record key ↔ own = key) (key : List Char) (requestId : StrategyRequestId) :
    (index.insert own record.requestId)[key]? = some requestId ↔
      ∃ stored, (store.withRecord record).getByRequestId requestId = some stored ∧ names stored key := by
  rw [Std.ExtTreeMap.getElem?_insert, getByRequestId_withRecord]
  by_cases sameKey : own = key
  · subst sameKey
    by_cases sameId : requestId = record.requestId
    · simp [sameId, named]
    · have absent : ∀ stored, store.getByRequestId requestId = some stored → ¬ names stored own := by
        intro stored found isNamed
        have known := (indexes own requestId).2 ⟨stored, found, isNamed⟩
        simp [free] at known
      simpa [sameId, Ne.symm sameId] using absent
  · by_cases sameId : requestId = record.requestId
    · have absent := (indexes key requestId).not.2 (by simp [sameId, unknown])
      simp [sameKey, sameId, named, sameId ▸ absent]
    · simp [sameKey, sameId, indexes key requestId]

theorem WellFormed.insertIntent (wellFormed : store.WellFormed) (success : store.insertIntent record = .ok next) :
    next.WellFormed := by
  obtain ⟨unknown, clientFree, brokerFree, rfl⟩ := insertIntent_ok_iff.1 success
  constructor
  · intro key stored found
    exact keyed_insert wellFormed key stored found
  · intro key requestId
    exact index_insert wellFormed.client unknown clientFree (fun _ => Iff.rfl) key requestId
  · intro key requestId
    cases known : record.brokerOrderId with
    | some brokerOrderId =>
        have broker : (store.withRecord record).requestByBrokerId =
            store.requestByBrokerId.insert (brokerKey brokerOrderId) record.requestId := by
          simp [withRecord, withBrokerId, known]
        rw [broker]
        exact index_insert wellFormed.broker unknown (brokerFree brokerOrderId known) (by simp [known]) key requestId
    | none =>
        have broker : (store.withRecord record).requestByBrokerId = store.requestByBrokerId := by
          simp [withRecord, withBrokerId, known]
        rw [broker, wellFormed.broker, getByRequestId_withRecord]
        by_cases sameId : requestId = record.requestId
        · simp [sameId, known, unknown]
        · simp [sameId]

/-- An index whose names an update does not touch. -/
theorem index_update {index : Std.ExtTreeMap (List Char) StrategyRequestId} {names : OrderPathRecord → List Char → Prop}
    {existing : OrderPathRecord} (byRequestId : Std.ExtTreeMap (List Char) OrderPathRecord)
    (clients brokers : Std.ExtTreeMap (List Char) StrategyRequestId)
    (indexes : ∀ (key : List Char) (requestId : StrategyRequestId), index[key]? = some requestId ↔
      ∃ stored, (mk byRequestId clients brokers).getByRequestId requestId = some stored ∧ names stored key)
    (found : (mk byRequestId clients brokers).getByRequestId record.requestId = some existing)
    (sameNames : ∀ key, names existing key ↔ names record key) (otherClients otherBrokers : _)
    (key : List Char) (requestId : StrategyRequestId) :
    index[key]? = some requestId ↔
      ∃ stored, (mk (byRequestId.insert record.requestId.toText record) otherClients otherBrokers).getByRequestId
        requestId = some stored ∧ names stored key := by
  rw [getByRequestId_insert, indexes]
  by_cases sameId : requestId = record.requestId
  · subst sameId
    simp [found, sameNames]
  · simp [sameId, getByRequestId]

theorem WellFormed.updateRecord (wellFormed : store.WellFormed) (success : store.updateRecord record = .ok next) :
    next.WellFormed := by
  obtain ⟨existing, found, sameClient, kept, rfl⟩ := updateRecord_ok success
  constructor
  · intro key stored isStored
    exact keyed_insert wellFormed key stored isStored
  · intro key requestId
    exact index_update _ _ _ wellFormed.client found (fun key => by rw [sameClient]) _ _ key requestId
  · intro key requestId
    cases kept with
    | same same =>
        have broker : (if existing.brokerOrderId = none then store.withBrokerId record else store.requestByBrokerId) =
            store.requestByBrokerId := by
          split
          · rename_i unknown
            simp [withBrokerId, same, unknown]
          · rfl
        rw [broker]
        exact index_update _ _ _ wellFormed.broker found (fun key => by rw [same]) _ _ key requestId
    | learnt brokerOrderId unknown known free =>
        have broker : (if existing.brokerOrderId = none then store.withBrokerId record else store.requestByBrokerId) =
            store.requestByBrokerId.insert (brokerKey brokerOrderId) record.requestId := by
          simp [withBrokerId, unknown, known]
        rw [broker, Std.ExtTreeMap.getElem?_insert, getByRequestId_insert]
        by_cases sameId : requestId = record.requestId
        · subst sameId
          have absent := (wellFormed.broker key record.requestId).not.2 (by simp [found, unknown])
          by_cases sameKey : brokerKey brokerOrderId = key
          · simp [sameKey, known]
          · simp [sameKey, known, absent]
        · by_cases sameKey : brokerKey brokerOrderId = key
          · subst sameKey
            have absent := (wellFormed.broker (brokerKey brokerOrderId) requestId).not.1
              fun mapped => sameId (free requestId mapped)
            simpa [sameId, Ne.symm sameId, getByRequestId] using absent
          · simpa [sameKey, sameId, getByRequestId] using wellFormed.broker key requestId

structure Lists (store : InMemoryOrderPathStore) (records : List OrderPathRecord) : Prop where
  exact : ∀ record, record ∈ records ↔ store.getByRequestId record.requestId = some record
  distinct : (records.map OrderPathRecord.requestId).Nodup

structure Loaded (records : List OrderPathRecord) (middle : InMemoryOrderPathStore) : Prop where
  ran : records.foldlM InMemoryOrderPathStore.insertIntent empty = .ok middle
  wellFormed : middle.WellFormed
  holds : ∀ requestId stored, middle.getByRequestId requestId = some stored ↔
    stored ∈ records ∧ stored.requestId = requestId

theorem loaded_nil : Loaded [] empty :=
  { ran := rfl
    wellFormed := wellFormed_empty
    holds := by simp [empty, getByRequestId] }

theorem Loaded.append {records : List OrderPathRecord} {middle : InMemoryOrderPathStore}
    (loaded : Loaded records middle) (success : middle.insertIntent record = .ok next) :
    Loaded (records ++ [record]) next := by
  obtain ⟨unknown, _, _, rfl⟩ := insertIntent_ok_iff.1 success
  refine {
    ran := (foldlM_append_ok_iff ..).2 ⟨middle, loaded.ran, by simpa using success⟩
    wellFormed := loaded.wellFormed.insertIntent success
    holds := ?_ }
  intro requestId other
  rw [getByRequestId_withRecord, List.mem_append, List.mem_singleton]
  by_cases sameId : requestId = record.requestId
  · subst sameId
    rw [if_pos rfl]
    constructor
    · rintro ⟨⟩
      exact ⟨.inr rfl, rfl⟩
    · rintro ⟨earlier | last, same⟩
      · have found := (loaded.holds record.requestId other).2 ⟨earlier, same⟩
        simp [unknown] at found
      · rw [last]
  · rw [if_neg sameId, loaded.holds]
    constructor
    · rintro ⟨member, same⟩
      exact ⟨.inl member, same⟩
    · rintro ⟨earlier | last, same⟩
      · exact ⟨earlier, same⟩
      · exact absurd (last ▸ same).symm sameId

/-- Within a well-formed store, a record that is not taken in yet finds its names free. -/
theorem Loaded.takes {records : List OrderPathRecord} {middle : InMemoryOrderPathStore}
    (loaded : Loaded records middle) (wellFormed : store.WellFormed)
    (earlier : ∀ other ∈ records, store.getByRequestId other.requestId = some other)
    (stored : store.getByRequestId record.requestId = some record)
    (unknown : middle.getByRequestId record.requestId = none) :
    middle.insertIntent record = .ok (middle.withRecord record) := by
  have fromStore : ∀ requestId other, middle.getByRequestId requestId = some other →
      store.getByRequestId requestId = some other := by
    intro requestId other found
    obtain ⟨member, rfl⟩ := (loaded.holds requestId other).1 found
    exact earlier other member
  refine insertIntent_ok_iff.2 ⟨unknown, ?_, ?_, rfl⟩
  · apply Option.eq_none_iff_forall_ne_some.2
    intro requestId mapped
    obtain ⟨other, found, sameKey⟩ := (loaded.wellFormed.client _ _).1 mapped
    have own := (wellFormed.client _ record.requestId).2 ⟨record, stored, rfl⟩
    have others := (wellFormed.client _ requestId).2 ⟨other, fromStore _ _ found, sameKey⟩
    cases own.symm.trans others
    simp [unknown] at found
  · intro brokerOrderId known
    apply Option.eq_none_iff_forall_ne_some.2
    intro requestId mapped
    obtain ⟨other, found, sameKey⟩ := (loaded.wellFormed.broker _ _).1 mapped
    have own := (wellFormed.broker _ record.requestId).2 ⟨record, stored, brokerOrderId, known, rfl⟩
    have others := (wellFormed.broker _ requestId).2 ⟨other, fromStore _ _ found, sameKey⟩
    cases own.symm.trans others
    simp [unknown] at found

theorem Lists.loads (wellFormed : store.WellFormed) {records : List OrderPathRecord} (lists : store.Lists records)
    {front back : List OrderPathRecord} (split : front ++ back = records) : ∃ middle, Loaded front middle := by
  induction front using List.reverseRecOn generalizing back with
  | nil => exact ⟨empty, loaded_nil⟩
  | append_singleton front record ih =>
      have longer : front ++ record :: back = records := by simpa using split
      obtain ⟨middle, loaded⟩ := ih longer
      have unknown : middle.getByRequestId record.requestId = none := by
        apply Option.eq_none_iff_forall_ne_some.2
        intro other found
        obtain ⟨member, sameId⟩ := (loaded.holds record.requestId other).1 found
        have distinct := lists.distinct
        simp only [← split, List.map_append, List.map_cons, List.append_assoc, List.singleton_append,
          List.nodup_append, List.mem_map, List.mem_cons] at distinct
        exact distinct.2.2 _ ⟨other, member, rfl⟩ record.requestId (.inl rfl) sameId
      have earlier : ∀ other ∈ front, store.getByRequestId other.requestId = some other :=
        fun other member => (lists.exact other).1 (by simp [← split, member])
      have stored := (lists.exact record).1 (by simp [← split])
      exact ⟨_, loaded.append (loaded.takes wellFormed earlier stored unknown)⟩

/-- Taking the records of a well-formed store in, in any order, rebuilds the store. -/
theorem foldlM_insertIntent (wellFormed : store.WellFormed) {records : List OrderPathRecord}
    (lists : store.Lists records) : records.foldlM InMemoryOrderPathStore.insertIntent empty = .ok store := by
  obtain ⟨middle, loaded⟩ := lists.loads wellFormed (List.append_nil records)
  have same : middle = store := by
    apply loaded.wellFormed.ext wellFormed
    apply Std.ExtTreeMap.ext_getElem?
    intro key
    apply Option.ext
    intro record
    constructor
    · intro found
      have named := loaded.wellFormed.keyed key record found
      subst named
      exact (lists.exact record).1 ((loaded.holds record.requestId record).1 found).1
    · intro found
      have named := wellFormed.keyed key record found
      subst named
      exact (loaded.holds record.requestId record).2 ⟨(lists.exact record).2 found, rfl⟩
  rw [loaded.ran, same]

theorem WellFormed.lists_allRecords (wellFormed : store.WellFormed) : store.Lists store.allRecords := by
  constructor
  · intro record
    unfold allRecords
    rw [mem_intoValues_iff]
    constructor
    · rintro ⟨key, found⟩
      have named := wellFormed.keyed key record found
      subst named
      exact found
    · intro found
      exact ⟨_, found⟩
  · have keys : store.allRecords.map (StrategyRequestId.toText ∘ OrderPathRecord.requestId) =
        store.byRequestId.toList.map Prod.fst := by
      unfold allRecords intoValues
      rw [List.map_map]
      apply List.map_congr_left
      intro entry member
      exact wellFormed.keyed entry.1 entry.2 (Std.ExtTreeMap.mem_toList_iff_getElem?_eq_some.1 member)
    have distinct : (store.byRequestId.toList.map Prod.fst).Nodup := by
      rw [List.nodup_iff_pairwise_ne, List.pairwise_map]
      exact Std.ExtTreeMap.distinct_keys_toList.imp fun differs same => differs (by rw [same]; simp)
    rw [← keys, ← List.map_map] at distinct
    exact distinct.of_map _

theorem Lists.perm {records others : List OrderPathRecord} (lists : store.Lists records)
    (permuted : others.Perm records) : store.Lists others :=
  { exact := fun record => by rw [permuted.mem_iff, lists.exact]
    distinct := (permuted.map _).nodup_iff.2 lists.distinct }

end InMemoryOrderPathStore

section Reread

/-- A text keeps everything of a decimal but the sign of a zero. -/
def rereadDecimal (value : Decimal) : Decimal :=
  if value.magnitude = 0 then { value with negative := false } else value

theorem rereadDecimal_idem (value : Decimal) : rereadDecimal (rereadDecimal value) = rereadDecimal value := by
  unfold rereadDecimal
  by_cases isZero : value.magnitude = 0
  · simp [isZero]
  · simp [isZero]

def OrderPathRecord.reread (record : OrderPathRecord) : OrderPathRecord :=
  { record with
    qty := record.qty.map rereadDecimal
    limitPrice := record.limitPrice.map rereadDecimal }

theorem OrderPathRecord.reread_idem (record : OrderPathRecord) : record.reread.reread = record.reread := by
  have twice : rereadDecimal ∘ rereadDecimal = rereadDecimal := funext rereadDecimal_idem
  simp [OrderPathRecord.reread, twice]

/-- A store whose records were written and read back. -/
def InMemoryOrderPathStore.reread (store : InMemoryOrderPathStore) : InMemoryOrderPathStore :=
  { store with byRequestId := store.byRequestId.map fun _ record => record.reread }

variable {store : InMemoryOrderPathStore}

namespace InMemoryOrderPathStore

theorem getByRequestId_reread (requestId : StrategyRequestId) :
    store.reread.getByRequestId requestId = (store.getByRequestId requestId).map OrderPathRecord.reread := by
  simp [reread, getByRequestId, Std.ExtTreeMap.getElem?_map]

theorem reread_idem : store.reread.reread = store.reread := by
  unfold reread
  congr 1
  apply Std.ExtTreeMap.ext_getElem?
  intro key
  simp [Std.ExtTreeMap.getElem?_map, OrderPathRecord.reread_idem]

theorem WellFormed.reread (wellFormed : store.WellFormed) : store.reread.WellFormed := by
  constructor
  · intro key record found
    obtain ⟨original, stored, rfl⟩ := by simpa [InMemoryOrderPathStore.reread, Std.ExtTreeMap.getElem?_map] using found
    exact wellFormed.keyed key original stored
  · intro key requestId
    change store.requestByClientId[key]? = some requestId ↔ _
    rw [getByRequestId_reread]
    simpa [OrderPathRecord.reread] using wellFormed.client key requestId
  · intro key requestId
    change store.requestByBrokerId[key]? = some requestId ↔ _
    rw [getByRequestId_reread]
    simpa [OrderPathRecord.reread] using wellFormed.broker key requestId

theorem Lists.reread {records : List OrderPathRecord} (wellFormed : store.WellFormed) (lists : store.Lists records) :
    store.reread.Lists (records.map OrderPathRecord.reread) := by
  constructor
  · intro record
    rw [getByRequestId_reread, List.mem_map]
    constructor
    · rintro ⟨original, member, rfl⟩
      have found : store.getByRequestId original.reread.requestId = some original := (lists.exact original).1 member
      rw [found]
      rfl
    · intro found
      obtain ⟨original, stored, rfl⟩ := Option.map_eq_some_iff.1 found
      have named := wellFormed.requestId_eq stored
      exact ⟨original, (lists.exact original).2 (by rwa [named]), rfl⟩
  · rw [List.map_map]
    exact lists.distinct

end InMemoryOrderPathStore

end Reread

end TradingGateway.BrokerCore.OrderPath
