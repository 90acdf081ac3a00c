import TradingGateway.BrokerCore.OrderPathTransitions
import TradingGateway.BrokerCore.Timestamps
import TradingGateway.Foundation.Runs

/-! The calls on the in-memory store as they change it, step by step, and the recovery
of a record by its client order id. Whatever the order of the calls, the identities of
the stored records stay distinct and permanent. -/

set_option autoImplicit false

namespace TradingGateway.BrokerCore.OrderPath

open Identifiers Orders
open Foundation.ExceptRun Foundation.Triples

abbrev StoreAction (Error : Type) := Action InMemoryOrderPathStore Error

namespace InMemoryOrderPathStore

def runInsertIntent (record : OrderPathRecord) : StoreAction OrderPathStoreError PUnit := do
  let store ← get
  Action.ofExcept (rejectIf (store.byRequestId.contains record.requestId.toText)
    (.duplicateStrategyRequestId record.requestId))
  Action.ofExcept (rejectIf (store.requestByClientId.contains (clientKey record.clientOrderId))
    (.duplicateClientOrderId record.clientOrderId))
  match record.brokerOrderId with
  | some brokerOrderId =>
      Action.ofExcept (rejectIf (store.requestByBrokerId.contains (brokerKey brokerOrderId))
        (.duplicateBrokerOrderId brokerOrderId))
  | none => pure ()
  modify fun store =>
    { store with
      requestByClientId := store.requestByClientId.insert (clientKey record.clientOrderId) record.requestId }
  modify fun store => { store with requestByBrokerId := store.withBrokerId record }
  modify fun store => { store with byRequestId := store.byRequestId.insert record.requestId.toText record }

def runUpdateRecord (record : OrderPathRecord) : StoreAction OrderPathStoreError PUnit := do
  let store ← get
  let existing ← Action.ofExcept (orReject (store.getByRequestId record.requestId) (.recordNotFound record.requestId))
  Action.ofExcept (rejectIf (existing.clientOrderId ≠ record.clientOrderId) (.clientOrderIdChanged record.requestId))
  Action.ofExcept (store.checkBrokerOrderId existing record)
  Action.ofExcept (rejectIf (existing.state.IsTerminal ∧ ¬ record.state.IsTerminal)
    (.terminalStateOverwrite record.requestId))
  Action.ofExcept (rejectIf (existing.lastUpdateTs.After record.lastUpdateTs)
    (.updatedTimestampRegressed record.requestId))
  modify fun store =>
    { store with
      requestByBrokerId :=
        if existing.brokerOrderId = none then store.withBrokerId record else store.requestByBrokerId }
  modify fun store => { store with byRequestId := store.byRequestId.insert record.requestId.toText record }

end InMemoryOrderPathStore

open InMemoryOrderPathStore

/-- `recover_order_path_by_client_order_id`. -/
def recoverOrderPathByClientOrderId (clientOrderId : ClientOrderId) (brokerOrderId : BrokerOrderId)
    (now : DateTimeUtc) : StoreAction OrderPathReconciliationError OrderPathRecord := do
  let store ← get
  let record ← Action.ofExcept
    (orReject (store.getByClientOrderId clientOrderId) (.recordNotFoundByClientOrderId clientOrderId))
  match record.brokerOrderId with
  | some existingBrokerOrderId =>
      if existingBrokerOrderId = brokerOrderId then pure record
      else throw (.brokerOrderIdMismatch record.requestId)
  | none => do
      Action.ofExcept (rejectIf
        (record.state ∉ [OrderPathState.submittedPendingBrokerOrderId, .timeoutUnknownPending])
        (.stateNotRecoverableByClientOrderId record.requestId record.state))
      let recovered ← Action.ofExcept
        (({ record with brokerOrderId := some brokerOrderId }.transition .recoverByClientOrderId now).mapError
          .transition)
      (runUpdateRecord recovered).mapError .store
      pure recovered

inductive StoreCall where
  | insertIntent (record : OrderPathRecord)
  | updateRecord (record : OrderPathRecord)
  | recover (clientOrderId : ClientOrderId) (brokerOrderId : BrokerOrderId) (now : DateTimeUtc)

def StoreCall.perform : StoreCall → StoreAction OrderPathReconciliationError PUnit
  | .insertIntent record => (runInsertIntent record).mapError .store
  | .updateRecord record => (runUpdateRecord record).mapError .store
  | .recover clientOrderId brokerOrderId now => do
      let _ ← recoverOrderPathByClientOrderId clientOrderId brokerOrderId now
      pure ()

def StoreCall.apply (store : InMemoryOrderPathStore) (call : StoreCall) : InMemoryOrderPathStore :=
  (call.perform.outcome store).2

def applyCalls (store : InMemoryOrderPathStore) (calls : List StoreCall) : InMemoryOrderPathStore :=
  calls.foldl StoreCall.apply store

section Calls

variable {store next : InMemoryOrderPathStore} {record existing : OrderPathRecord}

def committed {Error : Type} (computed : Except Error InMemoryOrderPathStore) (store : InMemoryOrderPathStore) :
    Except Error PUnit × InMemoryOrderPathStore :=
  match computed with
  | .ok next => (.ok (), next)
  | .error error => (.error error, store)

@[simp] theorem committed_pure {Error : Type} (store next : InMemoryOrderPathStore) :
    committed (pure next : Except Error InMemoryOrderPathStore) store = (.ok (), next) := rfl

theorem committed_bind {Error Value : Type} {source : Except Error Value}
    {change : Value → Except Error InMemoryOrderPathStore} {action : Value → StoreAction Error PUnit}
    (rest : ∀ value, source = .ok value → (action value).outcome store = committed (change value) store) :
    (Action.ofExcept source >>= action).outcome store = committed (source >>= change) store := by
  rw [Action.outcome_bind, Action.outcome_ofExcept]
  cases computed : source with
  | error error => rfl
  | ok value => exact rest value computed

/-- The steps of an insertion amount to the store it computes. -/
theorem outcome_runInsertIntent (store : InMemoryOrderPathStore) (record : OrderPathRecord) :
    (runInsertIntent record).outcome store = committed (store.insertIntent record) store := by
  unfold runInsertIntent InMemoryOrderPathStore.insertIntent
  rw [Action.outcome_bind, Action.outcome_get]
  refine committed_bind fun _ _ => committed_bind fun _ _ => ?_
  cases known : record.brokerOrderId with
  | none => simp [Action.outcome_bind, withBrokerId, known]
  | some brokerOrderId =>
      refine committed_bind fun _ _ => ?_
      simp [Action.outcome_bind, withBrokerId, known]

theorem outcome_runUpdateRecord (store : InMemoryOrderPathStore) (record : OrderPathRecord) :
    (runUpdateRecord record).outcome store = committed (store.updateRecord record) store := by
  unfold runUpdateRecord InMemoryOrderPathStore.updateRecord
  rw [Action.outcome_bind, Action.outcome_get]
  refine committed_bind fun existing _ => ?_
  refine committed_bind fun _ _ => committed_bind fun _ _ => committed_bind fun _ _ => committed_bind fun _ _ => ?_
  rfl

/-- Which record may take the place of which: identities stay, a terminal state stays
terminal, time does not run back. -/
structure Succeeds (earlier later : OrderPathRecord) : Prop where
  client : later.clientOrderId = earlier.clientOrderId
  broker : ∀ brokerOrderId ∈ earlier.brokerOrderId, later.brokerOrderId = some brokerOrderId
  terminal : earlier.state.IsTerminal → later.state.IsTerminal
  time : ¬ earlier.lastUpdateTs.After later.lastUpdateTs

theorem Succeeds.refl (record : OrderPathRecord) : Succeeds record record :=
  { client := rfl
    broker := fun _ known => known
    terminal := id
    time := DateTimeUtc.after_irrefl _ }

theorem Succeeds.trans {first second third : OrderPathRecord} (front : Succeeds first second)
    (back : Succeeds second third) : Succeeds first third :=
  { client := back.client.trans front.client
    broker := fun brokerOrderId known => back.broker brokerOrderId (front.broker brokerOrderId known)
    terminal := fun isTerminal => back.terminal (front.terminal isTerminal)
    time := DateTimeUtc.not_after_trans front.time back.time }

theorem succeeds_of_updateRecord (success : store.updateRecord record = .ok next) :
    ∃ existing, store.getByRequestId record.requestId = some existing ∧ Succeeds existing record := by
  obtain ⟨existing, found, rest⟩ := bind_ok_iff.1 success
  obtain ⟨sameClient, rest⟩ := check_bind_ok_iff.1 rest
  obtain ⟨broker, rest⟩ := check_bind_ok_iff.1 rest
  obtain ⟨terminal, rest⟩ := check_bind_ok_iff.1 rest
  obtain ⟨time, -⟩ := check_bind_ok_iff.1 rest
  rw [rejectIf_ok_iff] at sameClient terminal time
  refine ⟨existing, (orReject_ok_iff ..).1 found, ?_⟩
  constructor
  · exact (not_not.1 sameClient).symm
  · intro brokerOrderId known
    cases checkBrokerOrderId_ok broker with
    | same same => rw [same, known]
    | learnt _ unknown => cases unknown.symm.trans known
  · intro isTerminal
    by_contra differs
    exact terminal ⟨isTerminal, differs⟩
  · exact time

theorem getByRequestId_of_updateRecord (success : store.updateRecord record = .ok next)
    (requestId : StrategyRequestId) : next.getByRequestId requestId =
      if requestId = record.requestId then some record else store.getByRequestId requestId := by
  obtain ⟨existing, found, sameClient, kept, rfl⟩ := updateRecord_ok success
  exact getByRequestId_insert ..

def Follows (store next : InMemoryOrderPathStore) : Prop :=
  ∀ requestId record, store.getByRequestId requestId = some record →
    ∃ later, next.getByRequestId requestId = some later ∧ Succeeds record later

theorem Follows.refl (store : InMemoryOrderPathStore) : Follows store store :=
  fun _ record found => ⟨record, found, .refl record⟩

theorem Follows.trans {middle : InMemoryOrderPathStore} (front : Follows store middle) (back : Follows middle next) :
    Follows store next := by
  intro requestId record found
  obtain ⟨between, foundBetween, first⟩ := front requestId record found
  obtain ⟨later, foundLater, second⟩ := back requestId between foundBetween
  exact ⟨later, foundLater, first.trans second⟩

theorem follows_of_insertIntent (success : store.insertIntent record = .ok next) : Follows store next := by
  obtain ⟨unknown, -, -, rfl⟩ := insertIntent_ok_iff.1 success
  intro requestId stored found
  refine ⟨stored, ?_, .refl stored⟩
  rw [getByRequestId_withRecord, if_neg, found]
  rintro rfl
  cases unknown.symm.trans found

theorem follows_of_updateRecord (success : store.updateRecord record = .ok next) : Follows store next := by
  intro requestId stored found
  rw [getByRequestId_of_updateRecord success]
  by_cases sameId : requestId = record.requestId
  · subst sameId
    obtain ⟨existing, isExisting, succeeds⟩ := succeeds_of_updateRecord success
    cases isExisting.symm.trans found
    exact ⟨record, if_pos rfl, succeeds⟩
  · exact ⟨stored, by rw [if_neg sameId, found], .refl stored⟩

/-- What a recovery does: it refuses, it finds the broker order id known already, or it
writes the record back with the id. -/
inductive Recovery (store : InMemoryOrderPathStore) (clientOrderId : ClientOrderId) (brokerOrderId : BrokerOrderId)
    (now : DateTimeUtc) : Except OrderPathReconciliationError OrderPathRecord × InMemoryOrderPathStore → Prop where
  | refused (error : OrderPathReconciliationError) : Recovery store clientOrderId brokerOrderId now (.error error, store)
  | known (record : OrderPathRecord) (found : store.getByClientOrderId clientOrderId = some record)
      (known : record.brokerOrderId = some brokerOrderId) :
      Recovery store clientOrderId brokerOrderId now (.ok record, store)
  | recovered (existing record : OrderPathRecord) (next : InMemoryOrderPathStore)
      (found : store.getByClientOrderId clientOrderId = some existing) (unknown : existing.brokerOrderId = none)
      (waiting : existing.state ∈ [OrderPathState.submittedPendingBrokerOrderId, .timeoutUnknownPending])
      (moved : { existing with brokerOrderId := some brokerOrderId }.transition .recoverByClientOrderId now = .ok record)
      (written : store.updateRecord record = .ok next) : Recovery store clientOrderId brokerOrderId now (.ok record, next)

theorem recovery_spec (store : InMemoryOrderPathStore) (clientOrderId : ClientOrderId) (brokerOrderId : BrokerOrderId)
    (now : DateTimeUtc) : Recovery store clientOrderId brokerOrderId now
      ((recoverOrderPathByClientOrderId clientOrderId brokerOrderId now).outcome store) := by
  unfold recoverOrderPathByClientOrderId
  rw [Action.outcome_bind, Action.outcome_get]
  simp only [Action.outcome_bind, Action.outcome_ofExcept]
  cases found : store.getByClientOrderId clientOrderId with
  | none => exact .refused _
  | some existing =>
      cases isKnown : existing.brokerOrderId with
      | some known =>
          by_cases same : known = brokerOrderId
          · subst same
            simpa [orReject, isKnown] using Recovery.known existing found isKnown
          · simpa [orReject, isKnown, same] using Recovery.refused _
      | none =>
          simp only [orReject, isKnown, Action.outcome_bind, Action.outcome_ofExcept]
          by_cases waiting : existing.state ∈ [OrderPathState.submittedPendingBrokerOrderId, .timeoutUnknownPending]
          · rw [rejectIf_of_not _ (not_not.2 waiting)]
            dsimp only
            cases moved : OrderPathRecord.transition _ _ _ with
            | error error => exact .refused _
            | ok record =>
                simp only [Except.mapError, Action.outcome_mapError, outcome_runUpdateRecord]
                cases written : store.updateRecord record with
                | error error => exact .refused _
                | ok next => exact .recovered existing record next found isKnown waiting moved written
          · rw [rejectIf, if_pos waiting]
            exact .refused _

/-- A call is refused, reads a record, takes one in, or puts one in the place of another. -/
inductive CallEffect (store : InMemoryOrderPathStore) :
    Except OrderPathReconciliationError PUnit × InMemoryOrderPathStore → Prop where
  | refused (error : OrderPathReconciliationError) : CallEffect store (.error error, store)
  | read : CallEffect store (.ok (), store)
  | inserted (record : OrderPathRecord) (next : InMemoryOrderPathStore)
      (success : store.insertIntent record = .ok next) : CallEffect store (.ok (), next)
  | updated (record : OrderPathRecord) (next : InMemoryOrderPathStore)
      (success : store.updateRecord record = .ok next) : CallEffect store (.ok (), next)

theorem callEffect_perform (store : InMemoryOrderPathStore) (call : StoreCall) :
    CallEffect store (call.perform.outcome store) := by
  cases call with
  | insertIntent record =>
      simp only [StoreCall.perform, Action.outcome_mapError, outcome_runInsertIntent]
      cases success : store.insertIntent record with
      | error error => exact .refused _
      | ok next => exact .inserted record next success
  | updateRecord record =>
      simp only [StoreCall.perform, Action.outcome_mapError, outcome_runUpdateRecord]
      cases success : store.updateRecord record with
      | error error => exact .refused _
      | ok next => exact .updated record next success
  | recover clientOrderId brokerOrderId now =>
      simp only [StoreCall.perform, Action.outcome_bind]
      have recovery := recovery_spec store clientOrderId brokerOrderId now
      revert recovery
      generalize (recoverOrderPathByClientOrderId clientOrderId brokerOrderId now).outcome store = outcome
      intro recovery
      cases recovery with
      | refused error => exact .refused error
      | known record => exact .read
      | recovered existing record next found unknown waiting moved written => exact .updated record next written

theorem apply_of_error {call : StoreCall} {error : OrderPathReconciliationError}
    (failed : (call.perform.outcome store).1 = .error error) : (call.perform.outcome store).2 = store := by
  have effect := callEffect_perform store call
  revert failed effect
  generalize call.perform.outcome store = outcome
  intro failed effect
  cases effect with
  | refused other => rfl
  | read => cases failed
  | inserted record next success => cases failed
  | updated record next success => cases failed

theorem wellFormed_apply (wellFormed : store.WellFormed) (call : StoreCall) : (StoreCall.apply store call).WellFormed := by
  unfold StoreCall.apply
  have effect := callEffect_perform store call
  revert effect
  generalize call.perform.outcome store = outcome
  intro effect
  cases effect with
  | refused error => exact wellFormed
  | read => exact wellFormed
  | inserted record next success => exact wellFormed.insertIntent success
  | updated record next success => exact wellFormed.updateRecord success

theorem follows_apply (store : InMemoryOrderPathStore) (call : StoreCall) : Follows store (StoreCall.apply store call) := by
  unfold StoreCall.apply
  have effect := callEffect_perform store call
  revert effect
  generalize call.perform.outcome store = outcome
  intro effect
  cases effect with
  | refused error => exact .refl store
  | read => exact .refl store
  | inserted record next success => exact follows_of_insertIntent success
  | updated record next success => exact follows_of_updateRecord success

theorem wellFormed_calls (wellFormed : store.WellFormed) (calls : List StoreCall) :
    (applyCalls store calls).WellFormed := by
  induction calls generalizing store with
  | nil => exact wellFormed
  | cons call calls ih => exact ih (wellFormed_apply wellFormed call)

theorem follows_calls (store : InMemoryOrderPathStore) (calls : List StoreCall) :
    Follows store (applyCalls store calls) := by
  induction calls generalizing store with
  | nil => exact .refl store
  | cons call calls ih => exact (follows_apply store call).trans (ih _)

theorem getByClientOrderId_iff (wellFormed : store.WellFormed) {clientOrderId : ClientOrderId} :
    store.getByClientOrderId clientOrderId = some record ↔
      store.getByRequestId record.requestId = some record ∧ record.clientOrderId = clientOrderId := by
  unfold getByClientOrderId
  rw [Option.bind_eq_some_iff]
  constructor
  · rintro ⟨requestId, mapped, found⟩
    obtain ⟨stored, isStored, sameKey⟩ := (wellFormed.client _ _).1 mapped
    cases isStored.symm.trans found
    rw [wellFormed.requestId_eq found]
    exact ⟨found, clientKey_injective sameKey⟩
  · rintro ⟨found, rfl⟩
    exact ⟨record.requestId, (wellFormed.client _ _).2 ⟨record, found, rfl⟩, found⟩

theorem recover_known {clientOrderId : ClientOrderId} {brokerOrderId : BrokerOrderId}
    (found : store.getByClientOrderId clientOrderId = some record) (known : record.brokerOrderId = some brokerOrderId)
    (now : DateTimeUtc) :
    (recoverOrderPathByClientOrderId clientOrderId brokerOrderId now).outcome store = (.ok record, store) := by
  unfold recoverOrderPathByClientOrderId
  simp [Action.outcome_bind, found, orReject, known]

/-- A record that was recovered is found under its client order id, with its broker order id. -/
theorem known_of_recover (wellFormed : store.WellFormed) {clientOrderId : ClientOrderId}
    {brokerOrderId : BrokerOrderId} {now : DateTimeUtc}
    (recovered : (recoverOrderPathByClientOrderId clientOrderId brokerOrderId now).outcome store = (.ok record, next)) :
    next.WellFormed ∧ next.getByClientOrderId clientOrderId = some record ∧
      record.brokerOrderId = some brokerOrderId := by
  have recovery := recovery_spec store clientOrderId brokerOrderId now
  rw [recovered] at recovery
  cases recovery with
  | known _ found known => exact ⟨wellFormed, found, known⟩
  | recovered existing _ _ found unknown waiting moved written =>
      have kept := wellFormed.updateRecord written
      obtain ⟨stored, sameClient⟩ := (getByClientOrderId_iff wellFormed).1 found
      obtain ⟨state, -, rfl⟩ := OrderPathRecord.transition_ok_iff.1 moved
      refine ⟨kept, (getByClientOrderId_iff kept).2 ⟨?_, ?_⟩, ?_⟩
      · rw [getByRequestId_of_updateRecord written, if_pos rfl]
      · simpa using sameClient
      · simp

end Calls

/-- The two indexes name the stored records by their identities, and nothing else. -/
structure IdentitiesIndexed (store : InMemoryOrderPathStore) : Prop where
  own : ∀ requestId record, store.getByRequestId requestId = some record → record.requestId = requestId
  client : ∀ (key : List Char) (requestId : StrategyRequestId), store.requestByClientId[key]? = some requestId ↔
    ∃ record, store.getByRequestId requestId = some record ∧ clientKey record.clientOrderId = key
  broker : ∀ (key : List Char) (requestId : StrategyRequestId), store.requestByBrokerId[key]? = some requestId ↔
    ∃ record, store.getByRequestId requestId = some record ∧ ∃ brokerOrderId ∈ record.brokerOrderId,
      brokerKey brokerOrderId = key
  clientDistinct : ∀ left right one other, store.getByRequestId left = some one →
    store.getByRequestId right = some other → one.clientOrderId = other.clientOrderId → left = right
  brokerDistinct : ∀ left right one other, store.getByRequestId left = some one →
    store.getByRequestId right = some other → ∀ brokerOrderId ∈ one.brokerOrderId,
      brokerOrderId ∈ other.brokerOrderId → left = right

theorem InMemoryOrderPathStore.WellFormed.identitiesIndexed {store : InMemoryOrderPathStore}
    (wellFormed : store.WellFormed) : IdentitiesIndexed store := by
  constructor
  · exact fun requestId record found => wellFormed.requestId_eq found
  · exact wellFormed.client
  · exact wellFormed.broker
  · intro left right one other foundLeft foundRight same
    have mappedLeft := (wellFormed.client _ left).2 ⟨one, foundLeft, rfl⟩
    have mappedRight := (wellFormed.client _ right).2 ⟨other, foundRight, rfl⟩
    rw [same] at mappedLeft
    exact Option.some.inj (mappedLeft.symm.trans mappedRight)
  · intro left right one other foundLeft foundRight brokerOrderId isOne isOther
    have mappedLeft := (wellFormed.broker _ left).2 ⟨one, foundLeft, brokerOrderId, isOne, rfl⟩
    have mappedRight := (wellFormed.broker _ right).2 ⟨other, foundRight, brokerOrderId, isOther, rfl⟩
    exact Option.some.inj (mappedLeft.symm.trans mappedRight)

/-- After any calls on an empty store the identities are indexed exactly, whatever is
called later only puts records in the place of those they succeed, a call that fails
changes nothing, and a recovery made again returns the record and changes nothing. -/
theorem order_path_identities_permanent (calls : List StoreCall) :
    IdentitiesIndexed (applyCalls .empty calls) ∧
    (∀ more, Follows (applyCalls .empty calls) (applyCalls .empty (calls ++ more))) ∧
    (∀ (call : StoreCall) error, (call.perform.outcome (applyCalls .empty calls)).1 = .error error →
      (call.perform.outcome (applyCalls .empty calls)).2 = applyCalls .empty calls) ∧
    (∀ clientOrderId brokerOrderId now record next,
      (recoverOrderPathByClientOrderId clientOrderId brokerOrderId now).outcome (applyCalls .empty calls) = (.ok record, next) →
      (∀ again, (recoverOrderPathByClientOrderId clientOrderId brokerOrderId again).outcome next = (.ok record, next)) ∧
      ∀ more again, ∃ current,
        (applyCalls next more).getByRequestId record.requestId = some current ∧
        (recoverOrderPathByClientOrderId clientOrderId brokerOrderId again).outcome (applyCalls next more) =
          (.ok current, applyCalls next more)) := by
  have wellFormed : (applyCalls .empty calls).WellFormed := wellFormed_calls wellFormed_empty calls
  refine ⟨wellFormed.identitiesIndexed, ?_, fun call error failed => apply_of_error failed, ?_⟩
  · intro more
    unfold applyCalls
    rw [List.foldl_append]
    exact follows_calls _ more
  · intro clientOrderId brokerOrderId now record next recovered
    obtain ⟨kept, found, known⟩ := known_of_recover wellFormed recovered
    refine ⟨recover_known found known, ?_⟩
    intro more again
    obtain ⟨stored, sameClient⟩ := (getByClientOrderId_iff kept).1 found
    obtain ⟨current, isCurrent, succeeds⟩ := follows_calls next more _ _ stored
    have later := wellFormed_calls kept more
    have sameId := later.requestId_eq isCurrent
    refine ⟨current, isCurrent, recover_known ?_ (succeeds.broker _ known) again⟩
    refine (getByClientOrderId_iff later).2 ⟨?_, ?_⟩
    · rw [sameId, isCurrent]
    · rw [succeeds.client, sameClient]

end TradingGateway.BrokerCore.OrderPath
