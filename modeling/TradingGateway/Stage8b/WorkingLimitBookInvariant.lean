import TradingGateway.Stage8b.WorkingLimitRuns

/-! What the working book keeps over a whole run: a valid registry, a linked chain, a
growing frontier, and the orders that have ended. -/

set_option autoImplicit false

namespace TradingGateway.Stage8b.WorkingLimitRuns

open BrokerCore.HybridAttribution BrokerCore.Identifiers BrokerCore.Orders Stage6.JournalRecord
open WorkingLimitBook WorkingLimitBook.Stage8bP1d3WorkingBookProjectionV1
open PlainWorkingLimitCodec
open Foundation.ExceptRun Foundation.Runs

structure BookInvariant (codec : WorkingLimitCodec) (book : Stage8bP1d3WorkingBookProjectionV1) : Prop where
  valid : book.validate codec = .ok ()
  oneActive : book.records.countP (fun record => record.lifecycle = .active) ≤ 1
  ascending : book.records.Pairwise fun left right =>
    compareBytes left.brokerOrderId.value right.brokerOrderId.value = .lt
  distinctOrderIds : (book.records.map (·.brokerOrderId)).Nodup
  distinctRequestIds : (book.records.map (·.originalRequestId)).Nodup
  distinctClientIds : (book.records.map (·.originalDurablePlaceClientId)).Nodup

def Follows (book post : Stage8bP1d3WorkingBookProjectionV1) : Prop :=
  post = book ∨
    (post.transitionOrdinal.toNat = book.transitionOrdinal.toNat + 1 ∧
      post.previousTransitionSha256 = book.latestTransitionSha256)

/-- A later book has allocated no less, and finds every ended order as it was. -/
structure Outlasts (book later : Stage8bP1d3WorkingBookProjectionV1) : Prop where
  frontier : book.totalSequenceFrontier ≤ later.totalSequenceFrontier
  ended : ∀ record ∈ book.records, record.lifecycle = .terminal → record ∈ later.records

section Invariant

variable {codec : WorkingLimitCodec} {book later : Stage8bP1d3WorkingBookProjectionV1}

theorem bookInvariant_of_validate (valid : book.validate codec = .ok ()) : BookInvariant codec book := by
  have facts := registry_of_validate valid
  exact {
    valid := valid
    oneActive := facts.oneActive
    ascending := facts.ascending
    distinctOrderIds := facts.distinctOrderIds
    distinctRequestIds := facts.distinctRequestIds
    distinctClientIds := facts.distinctClientIds }

theorem Outlasts.refl (book : Stage8bP1d3WorkingBookProjectionV1) : Outlasts book book :=
  { frontier := UInt64.le_refl _
    ended := fun _ member _ => member }

theorem Outlasts.trans {middle : Stage8bP1d3WorkingBookProjectionV1} (first : Outlasts book middle)
    (second : Outlasts middle later) : Outlasts book later :=
  { frontier := UInt64.le_trans first.frontier second.frontier
    ended := fun record member isEnded => second.ended record (first.ended record member isEnded) isEnded }

theorem migrateFromP1d2_valid {commitment identity : HexText} {generation : UInt64} {account : BrokerAccountId}
    {instrument : InstrumentId} {attribution : HybridRuntimeAttribution} {frontier : UInt64}
    (migrated : migrateFromP1d2 codec commitment identity generation account instrument attribution frontier =
      .ok book) : book.validate codec = .ok () := by
  unfold migrateFromP1d2 at migrated
  obtain ⟨_, migrated⟩ := check_bind_ok_iff.1 migrated
  obtain ⟨genesis, _, migrated⟩ := bind_ok_iff.1 migrated
  obtain ⟨valid, migrated⟩ := check_bind_ok_iff.1 migrated
  cases migrated
  exact valid

/-- A write that opens a fresh order or goes over the active one leaves the ended ones. -/
theorem RowOrigin.keeps_ended {call : BuilderCall} {row ended : Stage8bP1d3OrderRecordV1} {frontier : UInt64}
    {post : Stage8bP1d3WorkingBookProjectionV1} (origin : RowOrigin codec book call row)
    (fresh : call.NamesFreshOrder codec book) (facts : RegistryFacts codec book)
    (written : Written codec book row frontier post) (member : ended ∈ book.records)
    (isEnded : ended.lifecycle = .terminal) : ended ∈ post.records := by
  cases origin with
  | opened named =>
      refine written.keeps_other member ?_
      intro same
      have located := facts.record_of_mem member
      rw [same, named, fresh] at located
      cases located
  | active activeMember isActive same =>
      exact written.keeps_ended facts activeMember isActive same member isEnded

theorem step_follows {step : RunStep} (stepped : Steps codec book step later) :
    Follows step.book step.result.postBook := by
  obtain ⟨call, outcome, rfl, effect⟩ := stepped.effect
  cases effect with
  | unchanged => exact .inl rfl
  | evaluated noTarget origin written => exact .inr ⟨written.ordinal, written.previous⟩
  | changed origin written => exact .inr ⟨written.ordinal, written.previous⟩
  | recovered => exact .inl rfl

theorem step_keeps {step : RunStep} (stepped : Steps codec book step later)
    (fresh : step.NamesFreshOrder codec) (valid : book.validate codec = .ok ()) :
    later.validate codec = .ok () ∧ Outlasts book later := by
  obtain ⟨call, outcome, rfl, effect⟩ := stepped.effect
  have facts := registry_of_validate valid
  cases effect with
  | unchanged => exact ⟨valid, .refl _⟩
  | evaluated noTarget origin written =>
      refine ⟨written.valid, { frontier := ?_, ended := ?_ }⟩
      · rw [written.frontier]
        exact UInt64.le_refl _
      · exact fun record member isEnded => origin.keeps_ended fresh facts written member isEnded
  | changed origin written outcome kind allocates =>
      refine ⟨written.valid, { frontier := ?_, ended := ?_ }⟩
      · rw [written.frontier, UInt64.le_iff_toNat_le, allocates]
        omega
      · exact fun record member isEnded => origin.keeps_ended fresh facts written member isEnded
  | recovered => exact ⟨valid, .refl _⟩

theorem run_valid {steps : List RunStep} (run : BookRun codec book steps later)
    (fresh : ∀ step ∈ steps, step.NamesFreshOrder codec) (valid : book.validate codec = .ok ()) :
    later.validate codec = .ok () := by
  have next : ∀ first step last, Steps codec first step last → step.NamesFreshOrder codec →
      first.validate codec = .ok () → last.validate codec = .ok () :=
    fun _ _ _ stepped isFresh valid => (step_keeps stepped isFresh valid).1
  exact Run.keeps next run fresh valid

theorem run_outlasts {steps : List RunStep} (run : BookRun codec book steps later)
    (fresh : ∀ step ∈ steps, step.NamesFreshOrder codec) (valid : book.validate codec = .ok ()) :
    Outlasts book later := by
  have next : ∀ first step last, Steps codec first step last → step.NamesFreshOrder codec →
      first.validate codec = .ok () → last.validate codec = .ok () ∧ Outlasts first last :=
    fun _ _ _ => step_keeps
  exact Run.relates Outlasts.refl (fun _ _ _ => Outlasts.trans) next run fresh valid

theorem run_follows {steps : List RunStep} (run : BookRun codec book steps later) :
    ∀ step ∈ steps, Follows step.book step.result.postBook := by
  induction run with
  | nil => simp
  | cons stepped _ ih => exact List.forall_mem_cons.2 ⟨step_follows stepped, ih⟩

/-- While no request opens an order that the book already knows, every run from a
migrated book keeps the registry in order and the chain linked, and what a book of
the run says about an ended order every later book says too. -/
theorem ended_orders_stay {commitment identity : HexText} {generation : UInt64} {account : BrokerAccountId}
    {instrument : InstrumentId} {attribution : HybridRuntimeAttribution} {frontier : UInt64}
    {genesis : Stage8bP1d3WorkingBookProjectionV1} {steps continued : List RunStep}
    (migrated : migrateFromP1d2 codec commitment identity generation account instrument attribution frontier =
      .ok genesis)
    (run : BookRun codec genesis steps book) (goesOn : BookRun codec book continued later)
    (fresh : ∀ step ∈ steps ++ continued, step.NamesFreshOrder codec) :
    BookInvariant codec later ∧
      (∀ step ∈ steps ++ continued, Follows step.book step.result.postBook) ∧
      book.totalSequenceFrontier ≤ later.totalSequenceFrontier ∧
      ∀ record ∈ book.records, record.lifecycle = .terminal →
        later.record record.brokerOrderId = some record := by
  have freshBefore : ∀ step ∈ steps, step.NamesFreshOrder codec :=
    fun step member => fresh step (List.mem_append_left _ member)
  have freshAfter : ∀ step ∈ continued, step.NamesFreshOrder codec :=
    fun step member => fresh step (List.mem_append_right _ member)
  have valid := run_valid run freshBefore (migrateFromP1d2_valid migrated)
  have laterValid := run_valid goesOn freshAfter valid
  have outlasts := run_outlasts goesOn freshAfter valid
  refine ⟨bookInvariant_of_validate laterValid, run_follows (run.append goesOn), outlasts.frontier, ?_⟩
  intro record member isEnded
  exact (registry_of_validate laterValid).record_of_mem (outlasts.ended record member isEnded)

end Invariant

/-- Another order is opened behind the expired one. -/
theorem ended_orders_stay_expired :
    ∃ (attribution : HybridRuntimeAttribution) (run : SampleRun), sampleGenesis attribution = .ok run.genesis ∧
      BookRun (plainWorkingLimitCodec []) run.genesis run.steps run.book ∧
      BookRun (plainWorkingLimitCodec []) run.book run.continued run.later ∧
      (∀ step ∈ run.steps ++ run.continued, step.NamesFreshOrder (plainWorkingLimitCodec [])) ∧
      run.continued.length = 1 ∧ run.book.records.length = 1 ∧
      BookInvariant (plainWorkingLimitCodec []) run.later ∧
      (∀ step ∈ run.steps ++ run.continued, Follows step.book step.result.postBook) ∧
      run.book.totalSequenceFrontier ≤ run.later.totalSequenceFrontier ∧
      ∀ record ∈ run.book.records, record.lifecycle = .terminal →
        run.later.record record.brokerOrderId = some record := by
  obtain ⟨run, computed, holds⟩ := (Option.any_eq_true _ _).1 sampleRuns_computed.1
  obtain ⟨fresh, continues, opened⟩ := of_decide_eq_true holds
  obtain ⟨attribution, migrated, ran, goesOn⟩ := sampleRun_eq_some computed
  exact ⟨attribution, run, migrated, ran, goesOn, fresh, continues, opened, ended_orders_stay migrated ran goesOn fresh⟩

/-- The request of the expired order is presented again, and its record is active again. -/
theorem ended_order_is_reopened :
    ∃ (attribution : HybridRuntimeAttribution) (run : SampleRun), sampleGenesis attribution = .ok run.genesis ∧
      BookRun (plainWorkingLimitCodec []) run.genesis run.steps run.book ∧
      BookRun (plainWorkingLimitCodec []) run.book run.continued run.later ∧
      ∃ ended ∈ run.book.records, ended.lifecycle = .terminal ∧
        ∃ reopened, run.later.record ended.brokerOrderId = some reopened ∧ reopened.lifecycle = .active := by
  obtain ⟨run, computed, holds⟩ := (Option.any_eq_true _ _).1 sampleRuns_computed.2.1
  obtain ⟨ended, member, holds⟩ := List.any_eq_true.1 holds
  obtain ⟨isEnded, found⟩ := of_decide_eq_true holds
  obtain ⟨reopened, isFound, isActive⟩ := (Option.any_eq_true _ _).1 found
  obtain ⟨attribution, migrated, ran, goesOn⟩ := sampleRun_eq_some computed
  exact ⟨attribution, run, migrated, ran, goesOn, ended, member, isEnded, reopened, isFound,
    of_decide_eq_true isActive⟩

end TradingGateway.Stage8b.WorkingLimitRuns
