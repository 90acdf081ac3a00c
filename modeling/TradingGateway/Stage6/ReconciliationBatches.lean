import TradingGateway.Stage6.MixedReplayRoutes

/-! Reconciliation batches are all-or-prefix: a request has at most one
transition, and what follows it in the journal is its suffix. -/

set_option autoImplicit false

namespace TradingGateway.Stage6.MixedReplay

open BrokerCore.Identifiers DurableIdentity JournalRecord Replay ReconciliationV2 VersionedRecord
open PlainReconciliationCodec
open Foundation.ExceptRun Foundation.OrderedMap Foundation.Splits

section Accounts

variable {codec : ReconciliationCodec}

def distinctRecords (records : List (Stage6JournalRecordVersioned codec)) :
    List (Stage6JournalRecordVersioned codec) :=
  (mixedLog codec).distinct records

def lastAccepted (history : List (Stage6JournalRecordVersioned codec)) :
    Option Stage6DurableRequestIdentityV1 :=
  history.getLast?.bind MixedReplayState.acceptedIdentity

def suffixRecords (key : List Char) (history : List (Stage6JournalRecordVersioned codec)) :
    List (Stage6JournalRecordV1 codec.toDurableRecordCodec) :=
  history.filterMap fun record =>
    match record with
    | .v1 v1 => if requestKey v1 = key then some v1 else none
    | _ => none

def transitionRecords (request : StrategyRequestId) (history : List (Stage6JournalRecordVersioned codec)) :
    List (Stage6JournalRecordV2 codec.toTransitionCodec) :=
  history.filterMap fun record =>
    match record with
    | .v2 v2 => if v2.requestId = request then some v2 else none
    | _ => none

abbrev Stage6PendingReconciliationBatchV2.key (batch : Stage6PendingReconciliationBatchV2 codec) :
    List Char :=
  batch.transitionRecord.requestId.toText

structure BatchAccount (before after : List (Stage6JournalRecordVersioned codec))
    (batch : Stage6PendingReconciliationBatchV2 codec) : Prop where
  alone : ∀ middle record rest, after = middle ++ record :: rest →
    requestRoute (lastAccepted (before ++ .v2 batch.transitionRecord :: middle)) record = some batch.key →
      ∃ v1, record = .v1 v1
  verified : batch.verifiedSuffixPrefixLength =
    min (suffixRecords batch.key after).length batch.transitionRecord.manifestEntries.length
  matched : ∀ index < batch.verifiedSuffixPrefixLength, ∃ entry record,
    batch.transitionRecord.manifestEntries[index]? = some entry ∧
      (suffixRecords batch.key after)[index]? = some record ∧
        entry.matchesRecord codec.toTransitionCodec record = true
  completion : batch.completion = .complete ↔
    batch.verifiedSuffixPrefixLength = batch.transitionRecord.manifestEntries.length

theorem lastAccepted_append_singleton (history : List (Stage6JournalRecordVersioned codec))
    (record : Stage6JournalRecordVersioned codec) :
    lastAccepted (history ++ [record]) = MixedReplayState.acceptedIdentity record := by
  simp [lastAccepted]

theorem suffixRecords_append_v1 (history : List (Stage6JournalRecordVersioned codec))
    (v1 : Stage6JournalRecordV1 codec.toDurableRecordCodec) :
    suffixRecords (requestKey v1) (history ++ [.v1 v1]) = suffixRecords (requestKey v1) history ++ [v1] := by
  simp [suffixRecords]

theorem suffixRecords_append_off_route {key : List Char} {identity : Option Stage6DurableRequestIdentityV1}
    (history : List (Stage6JournalRecordVersioned codec)) {record : Stage6JournalRecordVersioned codec}
    (offRoute : requestRoute identity record ≠ some key) :
    suffixRecords key (history ++ [record]) = suffixRecords key history := by
  cases record with
  | v1 v1 =>
      have differs : requestKey v1 ≠ key := fun same => offRoute (congrArg some same)
      simp [suffixRecords, differs]
  | v2 v2 => simp [suffixRecords]
  | v3 v3 => simp [suffixRecords]
  | v4 v4 => simp [suffixRecords]

theorem mem_transitionRecords_iff {request : StrategyRequestId}
    {history : List (Stage6JournalRecordVersioned codec)} {v2 : Stage6JournalRecordV2 codec.toTransitionCodec} :
    v2 ∈ transitionRecords request history ↔ .v2 v2 ∈ history ∧ v2.requestId = request := by
  unfold transitionRecords
  rw [List.mem_filterMap]
  constructor
  · intro selected
    obtain ⟨record, member, isTransition⟩ := selected
    cases record with
    | v2 other =>
        simp only [Option.ite_none_right_eq_some, Option.some.injEq] at isTransition
        obtain ⟨named, rfl⟩ := isTransition
        exact ⟨member, named⟩
    | _ => cases isTransition
  · intro member
    exact ⟨.v2 v2, member.1, by simp [member.2]⟩

namespace BatchAccount

variable {before after : List (Stage6JournalRecordVersioned codec)}
variable {batch : Stage6PendingReconciliationBatchV2 codec}

theorem opened (before : List (Stage6JournalRecordVersioned codec))
    (v2 : Stage6JournalRecordV2 codec.toTransitionCodec) :
    BatchAccount before [] (Stage6PendingReconciliationBatchV2.opened v2) := by
  refine { alone := ?_, verified := ?_, matched := ?_, completion := ?_ }
  · intro middle record rest split
    simp at split
  · simp [Stage6PendingReconciliationBatchV2.opened, suffixRecords]
  · intro index within
    simp [Stage6PendingReconciliationBatchV2.opened] at within
  · unfold Stage6PendingReconciliationBatchV2.opened
    split <;> simp_all [eq_comm]

/-- The last record of an extended journal is new; the others were accounted for. -/
private theorem alone_append (account : BatchAccount before after batch)
    {record : Stage6JournalRecordVersioned codec}
    (isV1 : requestRoute (lastAccepted (before ++ .v2 batch.transitionRecord :: after)) record =
      some batch.key → ∃ v1, record = .v1 v1) :
    ∀ middle later rest, after ++ [record] = middle ++ later :: rest →
      requestRoute (lastAccepted (before ++ .v2 batch.transitionRecord :: middle)) later = some batch.key →
        ∃ v1, later = .v1 v1 := by
  intro middle later rest split
  rcases split_append_singleton split with ⟨rfl, rfl, _⟩ | ⟨shorter, _, earlier⟩
  · exact isV1
  · exact account.alone middle later shorter earlier

/-- A record of another request leaves the account as it was. -/
theorem off_route (account : BatchAccount before after batch) {record : Stage6JournalRecordVersioned codec}
    (offRoute : requestRoute (lastAccepted (before ++ .v2 batch.transitionRecord :: after)) record ≠
      some batch.key) : BatchAccount before (after ++ [record]) batch := by
  have kept := suffixRecords_append_off_route after offRoute
  exact {
    alone := account.alone_append fun onRoute => absurd onRoute offRoute
    verified := by rw [kept, account.verified]
    matched := by
      rw [kept]
      exact account.matched
    completion := account.completion }

/-- An open batch has consumed every suffix record there is, and names a next one. -/
private theorem awaits (account : BatchAccount before after batch) {entry : Stage6SuffixManifestEntryV2}
    (named : batch.missingSuffixEntries.head? = some entry) :
    batch.transitionRecord.manifestEntries[batch.verifiedSuffixPrefixLength]? = some entry ∧
      batch.verifiedSuffixPrefixLength < batch.transitionRecord.manifestEntries.length ∧
        (suffixRecords batch.key after).length = batch.verifiedSuffixPrefixLength := by
  unfold Stage6PendingReconciliationBatchV2.missingSuffixEntries at named
  rw [List.head?_drop] at named
  have within := (List.getElem?_eq_some_iff.1 named).1
  have verified := account.verified
  exact ⟨named, within, by omega⟩

/-- The next record of an open batch is the one its manifest names next. -/
theorem extended (account : BatchAccount before after batch)
    {v1 : Stage6JournalRecordV1 codec.toDurableRecordCodec} {entry : Stage6SuffixManifestEntryV2}
    (named : batch.missingSuffixEntries.head? = some entry)
    (matches_ : entry.matchesRecord codec.toTransitionCodec v1 = true) (routed : requestKey v1 = batch.key) :
    BatchAccount before (after ++ [.v1 v1]) (batch.extended v1) := by
  obtain ⟨atNext, within, consumed⟩ := account.awaits named
  have suffix : suffixRecords batch.key (after ++ [.v1 v1]) = suffixRecords batch.key after ++ [v1] := by
    rw [← routed]
    exact suffixRecords_append_v1 after v1
  refine { alone := ?_, verified := ?_, matched := ?_, completion := ?_ }
  · exact account.alone_append fun _ => ⟨v1, rfl⟩
  · change batch.verifiedSuffixPrefixLength + 1 = min (suffixRecords batch.key _).length
      batch.transitionRecord.manifestEntries.length
    rw [suffix, List.length_append, consumed, List.length_singleton]
    omega
  · intro index below
    change ∃ entry record, batch.transitionRecord.manifestEntries[index]? = some entry ∧
      (suffixRecords batch.key _)[index]? = some record ∧ _
    rw [suffix]
    by_cases isNext : index = batch.verifiedSuffixPrefixLength
    · subst isNext
      exact ⟨entry, v1, atNext, by simp [← consumed], matches_⟩
    · have earlier : index < batch.verifiedSuffixPrefixLength :=
        Nat.lt_of_le_of_ne (Nat.le_of_lt_succ below) isNext
      obtain ⟨earlierEntry, record, hasEntry, hasRecord, matched⟩ := account.matched index earlier
      exact ⟨earlierEntry, record, hasEntry, by rw [List.getElem?_append_left (by omega), hasRecord], matched⟩
  · have unfinished : batch.completion ≠ .complete := fun complete =>
      absurd (account.completion.1 complete) (by omega)
    change (if _ then _ else batch.completion) = _ ↔
      batch.verifiedSuffixPrefixLength + 1 = batch.transitionRecord.manifestEntries.length
    simp only [List.drop_eq_nil_iff]
    split
    · simp only [true_iff]
      omega
    · simp only [unfinished, false_iff]
      omega

/-- Records after a complete batch are not suffix records any more. -/
theorem beyond (account : BatchAccount before after batch)
    {v1 : Stage6JournalRecordV1 codec.toDurableRecordCodec} (complete : batch.completion = .complete)
    (routed : requestKey v1 = batch.key) : BatchAccount before (after ++ [.v1 v1]) batch := by
  have whole := account.completion.1 complete
  have verified := account.verified
  have suffix : suffixRecords batch.key (after ++ [.v1 v1]) = suffixRecords batch.key after ++ [v1] := by
    rw [← routed]
    exact suffixRecords_append_v1 after v1
  refine { alone := ?_, verified := ?_, matched := ?_, completion := account.completion }
  · exact account.alone_append fun _ => ⟨v1, rfl⟩
  · rw [suffix, List.length_append, List.length_singleton]
    omega
  · intro index below
    obtain ⟨entry, record, hasEntry, hasRecord, matched⟩ := account.matched index below
    exact ⟨entry, record, hasEntry, by rw [suffix, List.getElem?_append_left (by omega), hasRecord], matched⟩

end BatchAccount

def KeyAccount (history : List (Stage6JournalRecordVersioned codec)) (key : List Char)
    (batch : Option (Stage6PendingReconciliationBatchV2 codec)) : Prop :=
  match batch with
  | none => ∀ v2, .v2 v2 ∈ history → v2.requestId.toText ≠ key
  | some batch => batch.key = key ∧ ∃ before after,
      history = before ++ .v2 batch.transitionRecord :: after ∧
        (∀ v2, .v2 v2 ∈ before → v2.requestId.toText ≠ key) ∧ BatchAccount before after batch

/-- The account of a request that the record does not act on. -/
theorem KeyAccount.off_route {history : List (Stage6JournalRecordVersioned codec)} {key : List Char}
    {batch : Option (Stage6PendingReconciliationBatchV2 codec)} (account : KeyAccount history key batch)
    {record : Stage6JournalRecordVersioned codec}
    (offRoute : requestRoute (lastAccepted history) record ≠ some key) :
    KeyAccount (history ++ [record]) key batch := by
  cases batch with
  | none =>
      intro v2 member same
      rcases List.mem_append.1 member with earlier | isRecord
      · exact account v2 earlier same
      · obtain rfl : .v2 v2 = record := by simpa using isRecord
        exact offRoute (congrArg some same)
  | some batch =>
      obtain ⟨named, before, after, shape, first, holds⟩ := account
      subst shape
      refine ⟨named, before, after ++ [record], by simp, first, holds.off_route ?_⟩
      rw [named]
      exact offRoute

/-- A request that has no batch after one of its records other than a transition. -/
private theorem KeyAccount.without_batch {history : List (Stage6JournalRecordVersioned codec)} {key : List Char}
    (account : KeyAccount history key none) {record : Stage6JournalRecordVersioned codec}
    (notTransition : ∀ v2, record ≠ .v2 v2) : KeyAccount (history ++ [record]) key none := by
  intro v2 member
  rcases List.mem_append.1 member with earlier | isRecord
  · exact account v2 earlier
  · exact absurd (by simpa using isRecord) (notTransition v2 ∘ Eq.symm)

/-- The account of the request that a suffix record belongs to. -/
private theorem KeyAccount.suffix {history : List (Stage6JournalRecordVersioned codec)}
    {v1 : Stage6JournalRecordV1 codec.toDurableRecordCodec}
    {current updated : Option (Stage6PendingReconciliationBatchV2 codec)}
    (account : KeyAccount history (requestKey v1) current) (effect : SuffixEffect current v1 updated) :
    KeyAccount (history ++ [.v1 v1]) (requestKey v1) updated := by
  cases effect with
  | noBatch absent kept =>
      subst absent kept
      exact account.without_batch fun _ => by simp
  | beyond batch open_ complete kept =>
      subst open_ kept
      obtain ⟨named, before, after, shape, first, holds⟩ := account
      exact ⟨named, before, after ++ [.v1 v1], by simp [shape], first, holds.beyond complete named.symm⟩
  | next batch entry open_ incomplete named matches_ extends_ =>
      subst open_ extends_
      obtain ⟨sameKey, before, after, shape, first, holds⟩ := account
      exact ⟨sameKey, before, after ++ [.v1 v1], by simp [shape], first,
        holds.extended named matches_ sameKey.symm⟩

/-- The account of the request that the record acts on. -/
theorem KeyAccount.on_route {history : List (Stage6JournalRecordVersioned codec)} {key : List Char}
    {current : Option (MixedWorkingRequest codec)} {record : Stage6JournalRecordVersioned codec}
    {updated : MixedWorkingRequest codec} (account : KeyAccount history key (current.bind (·.batch)))
    (onRoute : requestRoute (lastAccepted history) record = some key)
    (effect : RequestEffect current record updated) : KeyAccount (history ++ [record]) key updated.batch := by
  cases effect with
  | taken v1 shape takes =>
      subst shape
      obtain rfl : requestKey v1 = key := Option.some.inj onRoute
      cases current with
      | none =>
          obtain ⟨first, _, result⟩ := bind_ok_iff.1 takes
          cases result
          exact KeyAccount.without_batch account fun _ => by simp
      | some request => exact KeyAccount.suffix account (MixedWorkingRequest.applyV1_ok takes).2
  | opened v2 request shape found unfinished opens =>
      subst shape found
      obtain ⟨noBatch, _, rfl⟩ := MixedWorkingRequest.applyV2_ok_iff.1 opens
      have none : KeyAccount history key none := by simpa [noBatch] using account
      exact ⟨Option.some.inj onRoute, history, [], rfl, none, .opened history v2⟩
  | settled v3 effect request shape isEffect found settles =>
      subst shape found
      obtain ⟨noBatch, settles⟩ := check_bind_ok_iff.1 settles
      obtain ⟨applied, _, result⟩ := bind_ok_iff.1 settles
      cases result
      have absent : request.batch = none := by simpa using noBatch
      have none : KeyAccount history key none := by simpa [absent] using account
      rw [absent]
      exact none.without_batch fun _ => by simp
  | scheduled v4 identity request shape found noBatch advances =>
      subst shape found
      obtain ⟨advanced, _, result⟩ := bind_ok_iff.1 advances
      cases result
      have none : KeyAccount history key none := by simpa [noBatch] using account
      rw [noBatch]
      exact none.without_batch fun _ => by simp

/-- The run lemma: after every mixed replay the batches are accounted for. -/
theorem mixedRun_accounts {records : List (Stage6JournalRecordVersioned codec)}
    {cursor : MixedReplayCursor codec} (success : (mixedLog codec).run .empty records = .ok cursor)
    (key : List Char) :
    KeyAccount (distinctRecords records) key (cursor.state.requests[key]?.bind (·.batch)) := by
  have accounts := (mixedLog codec).run_induction
    (fun history state => state.lastUniqueRequestAcceptedIdentity = lastAccepted history ∧
      ∀ key, KeyAccount history key (state.requests[key]?.bind (·.batch))) ?_ ?_ success
  · exact accounts.2.2.2 key
  · refine ⟨rfl, fun key => ?_⟩
    simp [MixedReplayState.empty, KeyAccount]
  · intro history cursor updated record _ _ _ holds consumed
    obtain ⟨accepted, accounts⟩ := holds
    have drives := MixedReplayState.consume_drives consumed
    refine ⟨?_, fun key => ?_⟩
    · rw [lastAccepted_append_singleton]
      exact MixedReplayState.consume_lastAccepted consumed
    · by_cases onRoute : requestRoute (lastAccepted history) record = some key
      · obtain ⟨request, stored, effect⟩ := drives.on_route (by rw [accepted, onRoute])
        rw [stored]
        exact (accounts key).on_route onRoute effect
      · rw [drives.off_route (by rwa [accepted])]
        exact (accounts key).off_route onRoute

structure AllOrPrefix (records : List (Stage6JournalRecordVersioned codec))
    (snapshot : Stage6MixedReplaySnapshotV2 codec) : Prop where
  oneTransition : ∀ request, (transitionRecords request (distinctRecords records)).length ≤ 1
  everyTransition : ∀ v2, .v2 v2 ∈ distinctRecords records →
    ∃ batch ∈ snapshot.reconciliationBatches, batch.transitionRecord = v2
  accounted : ∀ batch ∈ snapshot.reconciliationBatches, ∃ before after,
    distinctRecords records = before ++ .v2 batch.transitionRecord :: after ∧
      BatchAccount before after batch ∧
        batch.missingSuffixEntries =
          batch.transitionRecord.manifestEntries.drop (suffixRecords batch.key after).length

theorem BatchAccount.missing {before after : List (Stage6JournalRecordVersioned codec)}
    {batch : Stage6PendingReconciliationBatchV2 codec} (account : BatchAccount before after batch) :
    batch.missingSuffixEntries =
      batch.transitionRecord.manifestEntries.drop (suffixRecords batch.key after).length := by
  unfold Stage6PendingReconciliationBatchV2.missingSuffixEntries
  rw [account.verified]
  rcases Nat.le_total (suffixRecords batch.key after).length batch.transitionRecord.manifestEntries.length with
    short | long
  · rw [Nat.min_eq_left short]
  · rw [Nat.min_eq_right long, List.drop_length, List.drop_eq_nil_of_le long]

/-- No second transition of a batch's request stands in the journal. -/
theorem BatchAccount.no_later_transition {before after : List (Stage6JournalRecordVersioned codec)}
    {batch : Stage6PendingReconciliationBatchV2 codec} (account : BatchAccount before after batch)
    {v2 : Stage6JournalRecordV2 codec.toTransitionCodec} (member : .v2 v2 ∈ after) :
    v2.requestId.toText ≠ batch.key := by
  intro same
  obtain ⟨middle, rest, split⟩ := List.append_of_mem member
  obtain ⟨v1, isV1⟩ := account.alone middle (.v2 v2) rest split (congrArg some same)
  cases isV1

theorem KeyAccount.of_transition {history : List (Stage6JournalRecordVersioned codec)}
    {v2 : Stage6JournalRecordV2 codec.toTransitionCodec}
    {current : Option (Stage6PendingReconciliationBatchV2 codec)}
    (account : KeyAccount history v2.requestId.toText current) (member : .v2 v2 ∈ history) :
    ∃ batch, current = some batch ∧ batch.transitionRecord = v2 := by
  cases current with
  | none => exact absurd rfl (account v2 member)
  | some batch =>
      obtain ⟨named, before, after, shape, first, holds⟩ := account
      refine ⟨batch, rfl, ?_⟩
      rw [shape] at member
      rcases List.mem_append.1 member with earlier | later
      · exact absurd rfl (first v2 earlier)
      · rcases List.mem_cons.1 later with same | after
        · exact (Stage6JournalRecordVersioned.v2.inj same).symm
        · exact absurd named.symm (holds.no_later_transition after)

theorem KeyAccount.one_transition {history : List (Stage6JournalRecordVersioned codec)}
    {request : StrategyRequestId} {batch : Option (Stage6PendingReconciliationBatchV2 codec)}
    (account : KeyAccount history request.toText batch) : (transitionRecords request history).length ≤ 1 := by
  have none (part : List (Stage6JournalRecordVersioned codec))
      (others : ∀ v2, .v2 v2 ∈ part → v2.requestId.toText ≠ request.toText) :
      transitionRecords request part = [] := by
    refine List.eq_nil_iff_forall_not_mem.2 fun v2 member => ?_
    obtain ⟨inPart, named⟩ := mem_transitionRecords_iff.1 member
    exact others v2 inPart (by rw [named])
  cases batch with
  | none => simp [none history account]
  | some batch =>
      obtain ⟨named, before, after, rfl, first, holds⟩ := account
      have later := none after fun v2 member => named ▸ holds.no_later_transition member
      have single : transitionRecords request (before ++ .v2 batch.transitionRecord :: after) =
          transitionRecords request before ++
            (transitionRecords request [.v2 batch.transitionRecord] ++ transitionRecords request after) := by
        simp [transitionRecords, ← List.filterMap_append]
      rw [single, none before first, later, List.append_nil, List.nil_append]
      exact List.length_filterMap_le ..

theorem mem_reconciliationBatches_iff {state : MixedReplayState codec}
    {batch : Stage6PendingReconciliationBatchV2 codec} :
    batch ∈ state.snapshot.reconciliationBatches ↔
      ∃ key : List Char, state.requests[key]?.bind (·.batch) = some batch := by
  unfold MixedReplayState.snapshot
  simp only [List.mem_filterMap, mem_intoValues_iff, Option.bind_eq_some_iff]
  constructor
  · intro found
    obtain ⟨request, ⟨key, stored⟩, hasBatch⟩ := found
    exact ⟨key, request, stored, hasBatch⟩
  · intro found
    obtain ⟨key, request, stored, hasBatch⟩ := found
    exact ⟨request, ⟨key, stored⟩, hasBatch⟩

/-- Reconciliation batches are all-or-prefix in every journal that replays. -/
theorem batches_are_all_or_prefix {records : List (Stage6JournalRecordVersioned codec)}
    {snapshot : Stage6MixedReplaySnapshotV2 codec}
    (success : Stage6MixedReplayEngineV2.replay records = .ok snapshot) : AllOrPrefix records snapshot := by
  obtain ⟨cursor, ran, rfl⟩ := (mixedReplay_ok_iff ..).1 success
  have accounts := mixedRun_accounts ran
  refine { oneTransition := ?_, everyTransition := ?_, accounted := ?_ }
  · intro request
    exact (accounts request.toText).one_transition
  · intro v2 member
    have account := accounts v2.requestId.toText
    obtain ⟨batch, found, ofTransition⟩ := account.of_transition member
    exact ⟨batch, mem_reconciliationBatches_iff.2 ⟨_, found⟩, ofTransition⟩
  · intro batch member
    obtain ⟨key, found⟩ := mem_reconciliationBatches_iff.1 member
    have account := accounts key
    rw [found] at account
    obtain ⟨_, before, after, shape, _, holds⟩ := account
    exact ⟨before, after, shape, holds, holds.missing⟩

end Accounts

section Sample

/-- A crash between the two suffix records of a transition. -/
theorem batches_are_all_or_prefix_interrupted :
    ∃ (sample : RejectedPlace) (transition : Stage6JournalRecordV2 (plainReconciliationCodec []).toTransitionCodec)
      (snapshot : Stage6MixedReplaySnapshotV2 (plainReconciliationCodec [])),
      rejectedPlace = some sample ∧ Stage6JournalRecordV2.ofWire sample.transition = .ok transition ∧
        Stage6MixedReplayEngineV2.replay
          [.v1 sample.accepted, .v1 sample.attempt, .v2 transition, .v1 sample.observed] = .ok snapshot ∧
        snapshot.reconciliationBatches.map (·.verifiedSuffixPrefixLength) = [1] ∧
        AllOrPrefix [.v1 sample.accepted, .v1 sample.attempt, .v2 transition, .v1 sample.observed] snapshot := by
  have evaluated : (rejectedPlace.bind fun sample =>
      (Stage6JournalRecordV2.ofWire sample.transition).toOption.bind fun transition =>
        (Stage6MixedReplayEngineV2.replay ((sample.journal transition).take 4)).toOption.map fun snapshot =>
            snapshot.reconciliationBatches.map (·.verifiedSuffixPrefixLength)) = some [1] := by
    decide +kernel
  obtain ⟨sample, isSample, evaluated⟩ := Option.bind_eq_some_iff.1 evaluated
  obtain ⟨transition, built, evaluated⟩ := Option.bind_eq_some_iff.1 evaluated
  obtain ⟨snapshot, replays, progress⟩ := Option.map_eq_some_iff.1 evaluated
  have success := toOption_eq_some_iff.1 replays
  exact ⟨sample, transition, snapshot, isSample, toOption_eq_some_iff.1 built, success, progress,
    batches_are_all_or_prefix success⟩

end Sample


end TradingGateway.Stage6.MixedReplay
