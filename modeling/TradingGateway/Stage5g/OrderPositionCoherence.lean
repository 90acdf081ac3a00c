import TradingGateway.Stage5g.OrderPositionReplay

/-! The order, the trades and the position of a slot stay coherent over every run
of packages that show its target order. -/

set_option autoImplicit false

namespace TradingGateway.Stage5g.OrderPosition

open BrokerCore.FixedPoint BrokerCore.Identifiers BrokerCore.OperationalSnapshot BrokerCore.Orders
open Foundation.ExceptRun Foundation.OrderedMap Foundation.Triples Foundation.Triples.Action

variable {codec : OrderPositionCodec}

/-- After every return of the action `returns` holds; nothing is said of its failures. -/
abbrev Returns {Result : Type} (pre : Stage5gOrderPositionSlot → Prop)
    (action : Action Stage5gOrderPositionSlot Stage5gHalt Result)
    (returns : Result → Stage5gOrderPositionSlot → Prop) : Prop :=
  Triple pre action returns fun _ _ => True

section Ledger

/-- The trades of the new ledger have distinct ids if the old ones had, and every
old trade is still there, at most with a later receipt. -/
structure LedgerGrows (before after : List BrokerTradeSnapshot) : Prop where
  distinct : (before.map fun trade => trade.brokerTradeId).Nodup → (after.map fun trade => trade.brokerTradeId).Nodup
  kept : ∀ trade ∈ before, ∃ later ∈ after,
    canonicalImmutableTradePayloadV1 later = canonicalImmutableTradePayloadV1 trade

theorem LedgerGrows.refl (trades : List BrokerTradeSnapshot) : LedgerGrows trades trades :=
  { distinct := id
    kept := fun trade member => ⟨trade, member, rfl⟩ }

theorem LedgerGrows.trans {first second third : List BrokerTradeSnapshot} (front : LedgerGrows first second)
    (back : LedgerGrows second third) : LedgerGrows first third :=
  { distinct := fun distinct => back.distinct (front.distinct distinct)
    kept := fun trade member => by
      obtain ⟨middle, inMiddle, same⟩ := front.kept trade member
      obtain ⟨later, inLater, sameLater⟩ := back.kept middle inMiddle
      exact ⟨later, inLater, sameLater.trans same⟩ }

theorem LedgerGrows.of_perm {before after : List BrokerTradeSnapshot} (sorted : after.Perm before) :
    LedgerGrows before after :=
  { distinct := fun distinct => (sorted.map _).nodup_iff.2 distinct
    kept := fun trade member => ⟨trade, sorted.mem_iff.2 member, rfl⟩ }

theorem payload_of_merge {existing incoming merged : BrokerTradeSnapshot}
    (success : mergeCanonicalTradeObservationV1 existing incoming = some merged) :
    canonicalImmutableTradePayloadV1 merged = canonicalImmutableTradePayloadV1 existing := by
  unfold mergeCanonicalTradeObservationV1 at success
  split at success
  · cases success
  · next matching =>
      have same : canonicalImmutableTradePayloadV1 existing = canonicalImmutableTradePayloadV1 incoming := by
        simpa [immutableTradePayloadMatches] using matching
      split at success
      · cases success
        exact same.symm
      · cases success
        rfl

theorem tradeId_of_payload {left right : BrokerTradeSnapshot}
    (same : canonicalImmutableTradePayloadV1 left = canonicalImmutableTradePayloadV1 right) :
    left.brokerTradeId = right.brokerTradeId :=
  congrArg Stage5gCanonicalImmutableTradePayloadV1.brokerTradeId same

/-- The ids of a merged ledger: the old ones, and the incoming one if it is new. -/
theorem mem_ids_of_merge {incoming : BrokerTradeSnapshot} {ledger merged : List BrokerTradeSnapshot}
    (success : mergeIntoLedger incoming ledger = .ok merged) {id : BrokerTradeId}
    (member : id ∈ merged.map fun trade => trade.brokerTradeId) :
    id = incoming.brokerTradeId ∨ id ∈ ledger.map fun trade => trade.brokerTradeId := by
  induction ledger generalizing merged with
  | nil =>
      cases success
      exact .inl (by simpa using member)
  | cons previous rest ih =>
      unfold mergeIntoLedger at success
      split at success
      · obtain ⟨updated, updates, success⟩ := bind_ok_iff.1 success
        cases success
        have same := tradeId_of_payload (payload_of_merge ((orReject_ok_iff ..).1 updates))
        rw [List.map_cons, same] at member
        exact .inr member
      · obtain ⟨others, merges, success⟩ := bind_ok_iff.1 success
        cases success
        rcases List.mem_cons.1 member with head | tail
        · exact .inr (head ▸ List.mem_cons_self)
        · rcases ih merges tail with new | old
          · exact .inl new
          · exact .inr (List.mem_cons_of_mem _ old)

theorem ledgerGrows_of_merge {incoming : BrokerTradeSnapshot} {ledger merged : List BrokerTradeSnapshot}
    (success : mergeIntoLedger incoming ledger = .ok merged) : LedgerGrows ledger merged := by
  induction ledger generalizing merged with
  | nil =>
      cases success
      exact { distinct := fun _ => by simp, kept := fun trade member => by simp at member }
  | cons previous rest ih =>
      unfold mergeIntoLedger at success
      split at success
      · obtain ⟨updated, updates, success⟩ := bind_ok_iff.1 success
        cases success
        have same := payload_of_merge ((orReject_ok_iff ..).1 updates)
        refine { distinct := fun distinct => ?_, kept := fun trade member => ?_ }
        · rw [List.map_cons, tradeId_of_payload same]
          exact distinct
        · rcases List.mem_cons.1 member with head | tail
          · exact ⟨updated, List.mem_cons_self, head ▸ same⟩
          · exact ⟨trade, List.mem_cons_of_mem _ tail, rfl⟩
      · next differs =>
          obtain ⟨others, merges, success⟩ := bind_ok_iff.1 success
          cases success
          have grows := ih merges
          refine { distinct := fun distinct => ?_, kept := fun trade member => ?_ }
          · rw [List.map_cons, List.nodup_cons] at distinct
            rw [List.map_cons, List.nodup_cons]
            refine ⟨fun member => ?_, grows.distinct distinct.2⟩
            rcases mem_ids_of_merge merges member with new | old
            · exact differs new
            · exact distinct.1 old
          · rcases List.mem_cons.1 member with head | tail
            · exact ⟨previous, List.mem_cons_self, head ▸ rfl⟩
            · obtain ⟨later, inOthers, same⟩ := grows.kept trade tail
              exact ⟨later, List.mem_cons_of_mem _ inOthers, same⟩

/-- The trades of the slot add up to the fill of the order, if anything is filled. -/
def SumsToFill (trades : List BrokerTradeSnapshot) (order : BrokerOrderSnapshot) : Prop :=
  Decimal.zero < order.filledQty →
    ∃ total, Decimal.checkedSum (trades.map fun trade => trade.qty) = some total ∧ total.Same order.filledQty

theorem validateTrades_spec (order : BrokerOrderSnapshot) (trades : List BrokerTradeSnapshot)
    (slot : Stage5gOrderPositionSlot) :
    Returns (fun state => state = slot) (validateTrades order trades) fun _ final =>
      ∃ ledger, final = { slot with trades := ledger } ∧ LedgerGrows slot.trades ledger ∧
        SumsToFill ledger order := by
  unfold validateTrades
  refine Triple.ofExcept_bind (fun _ _ _ _ => trivial) fun incomingById _ => ?_
  have merging : Returns (fun state => ∃ ledger, state = { slot with trades := ledger } ∧ LedgerGrows slot.trades ledger)
      ((intoValues incomingById).forM fun incoming => do
        let slot ← get
        let ledger ← Action.ofExcept (mergeIntoLedger incoming slot.trades)
        modify fun slot => { slot with trades := ledger })
      fun _ state => ∃ ledger, state = { slot with trades := ledger } ∧ LedgerGrows slot.trades ledger := by
    refine Triple.forM fun incoming _ => ?_
    refine Triple.get_bind fun current holds => ?_
    obtain ⟨ledger, rfl, grown⟩ := holds
    refine Triple.ofExcept_bind (fun _ _ _ _ => trivial) fun merged merges => ?_
    refine Triple.of_modify fun state same => ?_
    subst same
    exact ⟨merged, rfl, grown.trans (ledgerGrows_of_merge merges)⟩
  refine Triple.bind (merging.after fun state same => ⟨slot.trades, by rw [same], .refl _⟩) fun _ => ?_
  have sorting : Returns (fun state => ∃ ledger, state = { slot with trades := ledger } ∧ LedgerGrows slot.trades ledger)
      (modify fun slot => { slot with
        trades := slot.trades.mergeSort fun left right =>
          (compare left.brokerTradeId.value right.brokerTradeId.value).isLE })
      fun _ state => ∃ ledger, state = { slot with trades := ledger } ∧ LedgerGrows slot.trades ledger := by
    refine Triple.of_modify fun state holds => ?_
    obtain ⟨ledger, rfl, grown⟩ := holds
    exact ⟨_, rfl, grown.trans (.of_perm (List.mergeSort_perm ..))⟩
  refine sorting.bind fun _ => ?_
  refine Triple.get_bind fun current holds => ?_
  obtain ⟨ledger, rfl, grown⟩ := holds
  refine Triple.ofExcept_bind (fun _ _ _ _ => trivial) fun total summed => ?_
  intro state same
  subst same
  rw [outcome_ofExcept]
  cases checked : rejectIf (Decimal.zero < order.filledQty ∧ ¬ total.Same order.filledQty)
      (Stage5gHalt.blocked .tradeQuantityMismatch) with
  | error halt => trivial
  | ok _ =>
      refine ⟨ledger, rfl, grown, fun filled => ⟨total, (orReject_ok_iff ..).1 summed, ?_⟩⟩
      have agrees := (rejectIf_ok_iff ..).1 checked
      rw [not_and, not_not] at agrees
      exact agrees filled

end Ledger

section Slots

variable {accountId : BrokerAccountId} {instrument : InstrumentId} {evidence : Stage5gOrderPositionEvidence}

def MovedByFill (codec : OrderPositionCodec) (slot : Stage5gOrderPositionSlot) (order : BrokerOrderSnapshot)
    (position : BrokerPositionSnapshot) : Prop :=
  ∃ prePosition expected, codec.fromF64Retain slot.source.prePositionQty = some prePosition ∧
    prePosition.checkedAdd (signedFilledQty order) = some expected ∧ position.qty.Same expected

/-- The accounting of a position up to the precision of floating point. -/
def MovedByFillInF64 (codec : OrderPositionCodec) (slot : Stage5gOrderPositionSlot) (order : BrokerOrderSnapshot)
    (position : BrokerPositionSnapshot) : Prop :=
  ∃ filled actual, codec.toF64 order.filledQty = some filled ∧ codec.toF64 position.qty = some actual ∧
    ¬ epsilon < (actual - (slot.source.prePositionQty +
      match order.side with
      | .buy => filled
      | .sell => -filled)).abs

/-- The position that the source intent asks for: the whole signed target of an
entry, and no position after an exit or a repair. -/
def AtSourceTarget (codec : OrderPositionCodec) (slot : Stage5gOrderPositionSlot)
    (position : BrokerPositionSnapshot) : Prop :=
  ∃ qty target, codec.toF64 position.qty = some qty ∧ slot.source.targetQty = some target ∧
    match slot.source.intentClass with
    | .entry =>
        (slot.source.side = some .buy ∧ epsilon < qty ∨ slot.source.side = some .sell ∧ qty < -epsilon) ∧
          (qty.abs - target.abs).abs ≤ epsilon
    | .exit | .protectiveRepair => qty.abs ≤ epsilon
    | .cancelCleanup => False

def PositionSettled (codec : OrderPositionCodec) (slot : Stage5gOrderPositionSlot) (order : BrokerOrderSnapshot)
    (position : BrokerPositionSnapshot) : Prop :=
  if slot.ack.action = .place .market then MovedByFill codec slot order position
  else if order.status = .filled then AtSourceTarget codec slot position
  else MovedByFillInF64 codec slot order position

/-- The same request and the same ledgers; only watermarks may differ. -/
structure Frame (before after : Stage5gOrderPositionSlot) : Prop where
  ack : after.ack = before.ack
  source : after.source = before.source
  brokerOrderId : after.brokerOrderId = before.brokerOrderId
  orderEvents : after.orderEvents = before.orderEvents
  trades : after.trades = before.trades
  position : after.position = before.position
  terminal : after.terminal = before.terminal

theorem Frame.refl (slot : Stage5gOrderPositionSlot) : Frame slot slot :=
  { ack := rfl, source := rfl, brokerOrderId := rfl, orderEvents := rfl, trades := rfl, position := rfl
    terminal := rfl }

private theorem frame_ofExcept {Result : Type} (slot : Stage5gOrderPositionSlot) (source : Except Stage5gHalt Result) :
    Returns (Frame slot) (Action.ofExcept source) fun _ final => Frame slot final := by
  intro state holds
  rw [outcome_ofExcept]
  cases source with
  | error halt => trivial
  | ok result => exact holds

private theorem frame_modify (slot : Stage5gOrderPositionSlot)
    (change : Stage5gOrderPositionSlot → Stage5gOrderPositionSlot)
    (frames : ∀ state, Frame slot state → Frame slot (change state)) :
    Returns (Frame slot) (modify change) fun _ final => Frame slot final :=
  Triple.of_modify frames

theorem validateSnapshotChronology_spec (last : Option DateTimeUtc) (slot : Stage5gOrderPositionSlot) :
    Returns (fun state => state = slot) (validateSnapshotChronology last instrument evidence)
      fun _ final => Frame slot final := by
  unfold validateSnapshotChronology
  refine Triple.ofExcept_bind (fun _ _ _ _ => trivial) fun _ _ => ?_
  refine Triple.get_bind fun current same => ?_
  subst same
  refine Triple.after ?_ fun state same => (same ▸ Frame.refl current : Frame current state)
  refine (frame_ofExcept current _).bind fun _ => ?_
  refine (frame_modify current _ fun state frame => ?_).bind fun _ => ?_
  · exact { ack := frame.ack, source := frame.source, brokerOrderId := frame.brokerOrderId
            orderEvents := frame.orderEvents, trades := frame.trades, position := frame.position
            terminal := frame.terminal }
  refine (frame_ofExcept current _).bind fun _ => ?_
  refine (frame_modify current _ fun state frame => ?_).bind fun _ => ?_
  · exact { ack := frame.ack, source := frame.source, brokerOrderId := frame.brokerOrderId
            orderEvents := frame.orderEvents, trades := frame.trades, position := frame.position
            terminal := frame.terminal }
  exact frame_ofExcept current _

structure Observes (codec : OrderPositionCodec) (accountId : BrokerAccountId) (instrument : InstrumentId)
    (evidence : Stage5gOrderPositionEvidence) (order : BrokerOrderSnapshot)
    (slot final : Stage5gOrderPositionSlot) : Prop where
  ack : final.ack = slot.ack
  source : final.source = slot.source
  valid : validateOrder codec accountId instrument slot order = .ok ()
  orderEvents : final.orderEvents = (slot.orderEvents ++ [CanonicalOrderEvent.mk evidence.totalSequence order
    evidence.orderAttribution]).mergeSort fun left right =>
      left.totalSequence < right.totalSequence ∨ (left.totalSequence = right.totalSequence ∧
        ¬ left.order.receivedTs.After right.order.receivedTs)
  ledger : LedgerGrows slot.trades final.trades
  sums : SumsToFill final.trades order

/-- Updates of the position, the terminal flag and the terminal truth keep what was observed. -/
theorem Observes.keep {order : BrokerOrderSnapshot} {slot middle final : Stage5gOrderPositionSlot}
    (observes : Observes codec accountId instrument evidence order slot middle) (ack : final.ack = middle.ack)
    (source : final.source = middle.source) (orderEvents : final.orderEvents = middle.orderEvents)
    (trades : final.trades = middle.trades) : Observes codec accountId instrument evidence order slot final :=
  { ack := ack.trans observes.ack
    source := source.trans observes.source
    valid := observes.valid
    orderEvents := orderEvents.trans observes.orderEvents
    ledger := trades ▸ observes.ledger
    sums := trades ▸ observes.sums }

theorem observeOrder_spec (order : BrokerOrderSnapshot) (slot : Stage5gOrderPositionSlot) :
    Returns (fun state => state = slot) (observeOrder codec accountId instrument evidence order)
      fun _ final => Observes codec accountId instrument evidence order slot final ∧
        final.position = slot.position ∧ final.terminal = slot.terminal := by
  unfold observeOrder
  refine Triple.get_bind fun current same => ?_
  subst same
  refine Triple.ofExcept_bind (fun _ _ _ _ => trivial) fun _ valid => ?_
  refine Triple.ofExcept_bind (fun _ _ _ _ => trivial) fun _ _ => ?_
  refine Triple.bind (validateTrades_spec order evidence.brokerTruth.trades current) fun _ => ?_
  refine Triple.of_modify fun state holds => ?_
  obtain ⟨ledger, rfl, grown, sums⟩ := holds
  exact ⟨{ ack := rfl, source := rfl, valid := valid, orderEvents := rfl, ledger := grown, sums := sums }, rfl, rfl⟩

theorem movedByFill_of_coherent {order : BrokerOrderSnapshot} {slot : Stage5gOrderPositionSlot}
    {position : BrokerPositionSnapshot}
    (coherent : validateOrderPositionCoherence codec slot position order = .ok ()) :
    MovedByFill codec slot order position := by
  unfold validateOrderPositionCoherence at coherent
  obtain ⟨prePosition, converted, coherent⟩ := bind_ok_iff.1 coherent
  obtain ⟨expected, added, coherent⟩ := bind_ok_iff.1 coherent
  rw [rejectIf_ok_iff, not_not] at coherent
  exact ⟨prePosition, expected, (orReject_ok_iff ..).1 converted, (orReject_ok_iff ..).1 added, coherent⟩

theorem movedByFillInF64_of_valid {order : BrokerOrderSnapshot} {slot : Stage5gOrderPositionSlot}
    {position : BrokerPositionSnapshot}
    (valid : validatePartialTerminalPosition codec slot position order = .ok ()) :
    MovedByFillInF64 codec slot order position := by
  unfold validatePartialTerminalPosition at valid
  obtain ⟨filled, converted, valid⟩ := bind_ok_iff.1 valid
  rw [rejectIf_ok_iff] at valid
  unfold decimalF64Differs at valid
  cases actual : codec.toF64 position.qty with
  | none => simp [actual] at valid
  | some value =>
      simp only [actual, decide_eq_true_eq] at valid
      exact ⟨filled, value, (orReject_ok_iff ..).1 converted, actual, valid⟩

theorem atSourceTarget_of_confirmed {order : Option BrokerOrderSnapshot} {slot : Stage5gOrderPositionSlot}
    {position : BrokerPositionSnapshot}
    (confirmed : validateSourcePosition codec slot position order = .ok true) :
    AtSourceTarget codec slot position := by
  unfold validateSourcePosition at confirmed
  obtain ⟨qty, converted, confirmed⟩ := bind_ok_iff.1 confirmed
  obtain ⟨target, targeted, confirmed⟩ := bind_ok_iff.1 confirmed
  refine ⟨qty, target, (orReject_ok_iff ..).1 converted, (orReject_ok_iff ..).1 targeted, ?_⟩
  cases intent : slot.source.intentClass with
  | entry =>
      simp only [intent] at confirmed
      unfold validateEntryPosition at confirmed
      obtain ⟨side, sided, confirmed⟩ := bind_ok_iff.1 confirmed
      obtain ⟨signed, confirmed⟩ := check_bind_ok_iff.1 confirmed
      obtain ⟨_, confirmed⟩ := check_bind_ok_iff.1 confirmed
      obtain ⟨_, confirmed⟩ := check_bind_ok_iff.1 confirmed
      rw [orReject_ok_iff] at sided
      rw [rejectIf_ok_iff] at signed
      refine ⟨?_, of_decide_eq_true (Except.ok.inj confirmed)⟩
      cases side with
      | buy => exact .inl ⟨sided, by simpa using signed⟩
      | sell => exact .inr ⟨sided, by simpa using signed⟩
  | exit =>
      simp only [intent] at confirmed
      unfold validateExitPosition at confirmed
      obtain ⟨_, confirmed⟩ := check_bind_ok_iff.1 confirmed
      split at confirmed
      · assumption
      · unfold validateOpenExitPosition at confirmed
        obtain ⟨_, confirmed⟩ := check_bind_ok_iff.1 confirmed
        obtain ⟨_, confirmed⟩ := check_bind_ok_iff.1 confirmed
        cases confirmed
  | protectiveRepair =>
      simp only [intent] at confirmed
      split at confirmed
      · assumption
      · cases confirmed
  | cancelCleanup =>
      simp only [intent] at confirmed
      cases confirmed

structure Applies (codec : OrderPositionCodec) (accountId : BrokerAccountId) (instrument : InstrumentId)
    (evidence : Stage5gOrderPositionEvidence) (order : BrokerOrderSnapshot)
    (slot final : Stage5gOrderPositionSlot) : Prop extends
    Observes codec accountId instrument evidence order slot final where
  settled : final.terminal = true → ∀ stored, final.position = some stored →
    PositionSettled codec slot order stored.2 ∨ slot.ack.action ≠ .place .market ∧ slot.position = some stored
  open_position : final.terminal = false → slot.ack.action ≠ .place .market → final.position = slot.position

theorem storeCoherentPosition_spec (order : BrokerOrderSnapshot) (slot : Stage5gOrderPositionSlot) :
    Returns (fun state => state = slot) (storeCoherentPosition codec accountId instrument evidence order)
      fun _ final => ∃ position, final = storeCanonicalPosition slot evidence.totalSequence position ∧
        MovedByFill codec slot order position.snapshot := by
  unfold storeCoherentPosition
  refine Triple.ofExcept_bind (fun _ _ _ _ => trivial) fun position _ => ?_
  refine Triple.get_bind fun current same => ?_
  subst same
  refine Triple.ofExcept_bind (fun _ _ _ _ => trivial) fun _ coherent => ?_
  refine Triple.of_modify fun state same => ?_
  subst same
  exact ⟨position, rfl, movedByFill_of_coherent coherent⟩

theorem settleFilledMarket_spec (order : BrokerOrderSnapshot) (slot : Stage5gOrderPositionSlot) :
    Returns (fun state => state = slot) (settleFilledMarket codec accountId instrument evidence order)
      fun _ final => ∃ position,
        final = { storeCanonicalPosition slot evidence.totalSequence position with terminal := true } ∧
        MovedByFill codec slot order position.snapshot := by
  unfold settleFilledMarket
  refine Triple.ofExcept_bind (fun _ _ _ _ => trivial) fun position _ => ?_
  refine Triple.get_bind fun current same => ?_
  subst same
  refine Triple.ofExcept_bind (fun _ _ _ _ => trivial) fun _ coherent => ?_
  refine Triple.ofExcept_bind (fun _ _ _ _ => trivial) fun confirmed _ => ?_
  refine Triple.ofExcept_bind (fun _ _ _ _ => trivial) fun _ _ => ?_
  refine Triple.of_modify fun state same => ?_
  subst same
  exact ⟨position, rfl, movedByFill_of_coherent coherent⟩

theorem settleFilledLimit_spec (order : BrokerOrderSnapshot) (slot : Stage5gOrderPositionSlot) :
    Returns (fun state => state = slot) (settleFilledLimit codec accountId instrument evidence order)
      fun _ final => ∃ position,
        final = { storeCanonicalPosition slot evidence.totalSequence position with terminal := true } ∧
        AtSourceTarget codec slot position.snapshot := by
  unfold settleFilledLimit
  refine Triple.ofExcept_bind (fun _ _ _ _ => trivial) fun position _ => ?_
  refine Triple.get_bind fun current same => ?_
  subst same
  refine Triple.ofExcept_bind (fun _ _ _ _ => trivial) fun confirmed validated => ?_
  refine Triple.ofExcept_bind (fun _ _ _ _ => trivial) fun _ checked => ?_
  refine Triple.of_modify fun state same => ?_
  subst same
  rw [rejectIf_ok_iff, Bool.not_eq_false] at checked
  exact ⟨position, rfl, atSourceTarget_of_confirmed (checked ▸ validated)⟩

theorem settlePartialFill_spec (order : BrokerOrderSnapshot) (slot : Stage5gOrderPositionSlot) :
    Returns (fun state => state = slot) (settlePartialFill codec accountId instrument evidence order)
      fun _ final => ∃ position, final = storeCanonicalPosition slot evidence.totalSequence position ∧
        MovedByFillInF64 codec slot order position.snapshot := by
  unfold settlePartialFill
  refine Triple.ofExcept_bind (fun _ _ _ _ => trivial) fun position _ => ?_
  refine Triple.get_bind fun current same => ?_
  subst same
  refine Triple.ofExcept_bind (fun _ _ _ _ => trivial) fun _ valid => ?_
  refine Triple.of_modify fun state same => ?_
  subst same
  exact ⟨position, rfl, movedByFillInF64_of_valid valid⟩

theorem MovedByFill.of_source {order : BrokerOrderSnapshot} {slot middle : Stage5gOrderPositionSlot}
    {position : BrokerPositionSnapshot} (moved : MovedByFill codec middle order position)
    (source : middle.source = slot.source) : MovedByFill codec slot order position := by
  unfold MovedByFill at moved ⊢
  rwa [source] at moved

theorem MovedByFillInF64.of_source {order : BrokerOrderSnapshot} {slot middle : Stage5gOrderPositionSlot}
    {position : BrokerPositionSnapshot} (moved : MovedByFillInF64 codec middle order position)
    (source : middle.source = slot.source) : MovedByFillInF64 codec slot order position := by
  unfold MovedByFillInF64 at moved ⊢
  rwa [source] at moved

theorem AtSourceTarget.of_source {slot middle : Stage5gOrderPositionSlot} {position : BrokerPositionSnapshot}
    (confirmed : AtSourceTarget codec middle position) (source : middle.source = slot.source) :
    AtSourceTarget codec slot position := by
  unfold AtSourceTarget at confirmed ⊢
  rwa [source] at confirmed

/-- Run an action after the order was observed. -/
private theorem after_observing {Result : Type} {order : BrokerOrderSnapshot} {slot : Stage5gOrderPositionSlot}
    {next : PUnit → Action Stage5gOrderPositionSlot Stage5gHalt Result}
    {returns : Result → Stage5gOrderPositionSlot → Prop}
    (rest : ∀ observed, Observes codec accountId instrument evidence order slot observed →
      observed.position = slot.position → observed.terminal = slot.terminal →
        Returns (fun state => state = observed) (next ()) returns) :
    Returns (fun state => state = slot)
      (observeOrder codec accountId instrument evidence order >>= next) returns := by
  refine (observeOrder_spec order slot).bind fun _ => ?_
  intro state holds
  exact rest state holds.1 holds.2.1 holds.2.2 state rfl

/-- A market order whose position was stored by exact accounting, and the flags set after it. -/
private theorem market_applies {order : BrokerOrderSnapshot} {slot observed final : Stage5gOrderPositionSlot}
    {position : CanonicalTargetPosition} (market : slot.ack.action = .place .market)
    (observes : Observes codec accountId instrument evidence order slot observed)
    (moved : MovedByFill codec observed order position.snapshot)
    (ack : final.ack = observed.ack) (source : final.source = observed.source)
    (orderEvents : final.orderEvents = observed.orderEvents) (trades : final.trades = observed.trades)
    (stored : final.position = some (evidence.totalSequence, position.snapshot)) :
    Applies codec accountId instrument evidence order slot final :=
  { observes.keep ack source orderEvents trades with
    settled := fun _ found same => by
      rw [stored] at same
      cases same
      refine .inl ?_
      unfold PositionSettled
      rw [if_pos market]
      exact moved.of_source observes.source
    open_position := fun _ other => absurd market other }

theorem applyMarketOrder_spec {slot : Stage5gOrderPositionSlot} (market : slot.ack.action = .place .market)
    (order : BrokerOrderSnapshot) :
    Returns (fun state => state = slot) (applyMarketOrder codec accountId instrument evidence order)
      fun _ final => Applies codec accountId instrument evidence order slot final := by
  unfold applyMarketOrder
  refine after_observing fun observed observes _ _ => ?_
  have storing : ∀ {next : PUnit → Action Stage5gOrderPositionSlot Stage5gHalt PUnit}
      (change : Stage5gOrderPositionSlot → Stage5gOrderPositionSlot),
      (∀ done, next done = modify change) → (∀ state, (change state).ack = state.ack ∧
        (change state).source = state.source ∧ (change state).orderEvents = state.orderEvents ∧
        (change state).trades = state.trades ∧ (change state).position = state.position) →
      Returns (fun state => state = observed)
        (storeCoherentPosition codec accountId instrument evidence order >>= next)
        fun _ final => Applies codec accountId instrument evidence order slot final := by
    intro next change isChange keeps
    refine (storeCoherentPosition_spec order observed).bind fun done => ?_
    rw [isChange done]
    refine Triple.of_modify fun state holds => ?_
    obtain ⟨position, rfl, moved⟩ := holds
    obtain ⟨ack, source, orderEvents, trades, stored⟩ := keeps (storeCanonicalPosition observed evidence.totalSequence position)
    exact market_applies market observes moved ack source orderEvents trades stored
  cases order.status with
  | new => exact Triple.ofExcept_bind (fun _ _ _ _ => trivial) fun _ _ => storing _ (fun _ => rfl) fun _ => ⟨rfl, rfl, rfl, rfl, rfl⟩
  | working => exact Triple.ofExcept_bind (fun _ _ _ _ => trivial) fun _ _ => storing _ (fun _ => rfl) fun _ => ⟨rfl, rfl, rfl, rfl, rfl⟩
  | partiallyFilled =>
      exact Triple.ofExcept_bind (fun _ _ _ _ => trivial) fun _ _ => storing _ (fun _ => rfl) fun _ => ⟨rfl, rfl, rfl, rfl, rfl⟩
  | filled =>
      refine (settleFilledMarket_spec order observed).weaken (fun _ same => same) (fun _ final holds => ?_)
        fun _ _ _ => trivial
      obtain ⟨position, rfl, moved⟩ := holds
      exact market_applies market observes moved rfl rfl rfl rfl rfl
  | canceled => exact storing _ (fun _ => rfl) fun _ => ⟨rfl, rfl, rfl, rfl, rfl⟩
  | rejected => exact Triple.ofExcept_bind (fun _ _ _ _ => trivial) fun _ _ => storing _ (fun _ => rfl) fun _ => ⟨rfl, rfl, rfl, rfl, rfl⟩
  | expired => exact storing _ (fun _ => rfl) fun _ => ⟨rfl, rfl, rfl, rfl, rfl⟩
  | unknown text => exact Triple.of_throw fun _ _ => trivial

/-- A limit order that ended without storing a position. -/
private theorem limit_ends {order : BrokerOrderSnapshot} {slot observed : Stage5gOrderPositionSlot}
    (limit : slot.ack.action ≠ .place .market)
    (observes : Observes codec accountId instrument evidence order slot observed)
    (position : observed.position = slot.position) :
    Applies codec accountId instrument evidence order slot { observed with terminal := true } :=
  { observes.keep rfl rfl rfl rfl with
    settled := fun _ _ stored => .inr ⟨limit, position.symm.trans stored⟩
    open_position := fun ended => by cases ended }

/-- A limit order that ended with a stored position. -/
private theorem limit_settles {order : BrokerOrderSnapshot} {slot observed : Stage5gOrderPositionSlot}
    {position : CanonicalTargetPosition} (observes : Observes codec accountId instrument evidence order slot observed)
    (settled : PositionSettled codec slot order position.snapshot) :
    Applies codec accountId instrument evidence order slot
      { storeCanonicalPosition observed evidence.totalSequence position with terminal := true } :=
  { observes.keep rfl rfl rfl rfl with
    settled := fun _ _ stored => by
      cases stored
      exact .inl settled
    open_position := fun ended => by cases ended }

theorem applyLimitOrder_spec {slot : Stage5gOrderPositionSlot} (limit : slot.ack.action ≠ .place .market)
    (isOpen : slot.terminal = false) (order : BrokerOrderSnapshot) :
    Returns (fun state => state = slot) (applyLimitOrder codec accountId instrument evidence order)
      fun _ final => Applies codec accountId instrument evidence order slot final := by
  unfold applyLimitOrder
  refine after_observing fun observed observes position terminal => ?_
  have waiting : Applies codec accountId instrument evidence order slot observed :=
    { observes with
      settled := fun ended => by
        rw [terminal, isOpen] at ended
        cases ended
      open_position := fun _ _ => position }
  have ending : order.status ≠ .filled →
      Returns (fun state => state = observed) (do
        if Decimal.zero < order.filledQty then settlePartialFill codec accountId instrument evidence order
        modify fun slot => { slot with terminal := true })
        fun _ final => Applies codec accountId instrument evidence order slot final := by
    intro unfilled
    by_cases filled : Decimal.zero < order.filledQty
    · simp only [filled, ↓reduceIte]
      refine (settlePartialFill_spec order observed).bind fun _ => ?_
      refine Triple.of_modify fun state holds => ?_
      obtain ⟨stored, rfl, moved⟩ := holds
      refine limit_settles observes ?_
      unfold PositionSettled
      rw [if_neg limit, if_neg unfilled]
      exact moved.of_source observes.source
    · simp only [filled, ↓reduceIte]
      refine Triple.of_modify fun state same => ?_
      subst same
      exact limit_ends limit observes position
  cases status : order.status with
  | new => exact Triple.of_pure fun _ same => same ▸ waiting
  | working => exact Triple.of_pure fun _ same => same ▸ waiting
  | partiallyFilled => exact Triple.of_pure fun _ same => same ▸ waiting
  | filled =>
      refine (settleFilledLimit_spec order observed).weaken (fun _ same => same) (fun _ final holds => ?_)
        fun _ _ _ => trivial
      obtain ⟨stored, rfl, confirmed⟩ := holds
      refine limit_settles observes ?_
      unfold PositionSettled
      rw [if_neg limit, if_pos status]
      exact confirmed.of_source observes.source
  | canceled => exact ending (by simp [status])
  | rejected =>
      refine Triple.ofExcept_bind (fun _ _ _ _ => trivial) fun _ _ => ?_
      refine Triple.of_modify fun state same => ?_
      subst same
      exact limit_ends limit observes position
  | expired => exact ending (by simp [status])
  | unknown text => exact Triple.of_throw fun _ _ => trivial

theorem selectOptionalTargetOrder_of_present {slot : Stage5gOrderPositionSlot} {truth : BrokerTruthSnapshot}
    (present : hasTargetCorrelatedOrder slot truth = true) : selectOptionalTargetOrder slot truth ≠ .ok none := by
  obtain ⟨order, member, carries⟩ := List.any_eq_true.1 present
  unfold selectOptionalTargetOrder
  have inFilter : order ∈ truth.orders.filter fun order =>
      carriesTargetId slot order.brokerOrderId order.clientOrderId := List.mem_filter.2 ⟨member, carries⟩
  intro absent
  split at absent
  · next empty => simp [empty] at inFilter
  · cases absent
  · cases absent

/-- A package that shows the target order of an open slot is about one order row. -/
theorem applyAction_spec {slot : Stage5gOrderPositionSlot} (isOpen : slot.terminal = false)
    (present : hasTargetCorrelatedOrder slot evidence.brokerTruth = true) :
    Returns (fun state => state = slot) (applyAction codec accountId instrument evidence)
      fun _ final => ∃ order, Applies codec accountId instrument evidence order slot final := by
  unfold applyAction
  refine Triple.get_bind fun current same => ?_
  subst same
  have limited : current.ack.action ≠ .place .market →
      Returns (fun state => state = current) (do
        let order ← Action.ofExcept (selectTargetOrder current evidence.brokerTruth)
        applyLimitOrder codec accountId instrument evidence order)
        fun _ final => ∃ order, Applies codec accountId instrument evidence order current final := by
    intro limit
    refine Triple.ofExcept_bind (fun _ _ _ _ => trivial) fun order _ => ?_
    exact (applyLimitOrder_spec limit isOpen order).weaken (fun _ same => same) (fun _ _ applies => ⟨order, applies⟩)
      fun _ _ _ => trivial
  cases action : current.ack.action with
  | place kind =>
      cases kind with
      | market =>
          refine Triple.ofExcept_bind (fun _ _ _ _ => trivial) fun selected selects => ?_
          cases selected with
          | none => exact absurd selects (selectOptionalTargetOrder_of_present present)
          | some order =>
              exact (applyMarketOrder_spec action order).weaken (fun _ same => same)
                (fun _ _ applies => ⟨order, applies⟩) fun _ _ _ => trivial
      | limit => exact limited (by simp [action])
  | cancel target => exact limited (by simp [action])

/-- A terminal slot refuses a package that shows its target order. -/
theorem applyToTerminal_refuses {slot : Stage5gOrderPositionSlot}
    (present : hasTargetCorrelatedOrder slot evidence.brokerTruth = true) :
    Returns (fun state => state = slot) (applyToTerminal codec accountId instrument evidence .activeSession)
      fun _ _ => False := by
  unfold applyToTerminal
  refine Triple.get_bind fun current same => ?_
  subst same
  refine Triple.ofExcept_bind (fun _ _ _ _ => trivial) fun position _ => ?_
  refine Triple.ofExcept_bind (fun _ _ _ _ => trivial) fun _ allowed => ?_
  simp [present] at allowed

theorem applyToSlotWithMode_spec {slot : Stage5gOrderPositionSlot}
    (present : hasTargetCorrelatedOrder slot evidence.brokerTruth = true) :
    Returns (fun state => state = slot) (applyToSlotWithMode codec accountId instrument evidence .activeSession)
      fun _ final => slot.terminal = false ∧ ∃ order, Applies codec accountId instrument evidence order slot final := by
  have candidate : Returns (fun state => state = slot)
      (applyToSlotCandidate codec accountId instrument evidence .activeSession)
      fun _ final => slot.terminal = false ∧ ∃ order, Applies codec accountId instrument evidence order slot final := by
    unfold applyToSlotCandidate
    refine Triple.get_bind fun current same => ?_
    subst same
    cases terminal : current.terminal with
    | true =>
        exact (applyToTerminal_refuses present).weaken (fun _ same => same)
          (fun _ _ impossible => impossible.elim) fun _ _ _ => trivial
    | false =>
        exact (applyAction_spec terminal present).weaken (fun _ same => same) (fun _ _ applies => ⟨rfl, applies⟩)
          fun _ _ _ => trivial
  unfold applyToSlotWithMode
  refine Triple.get_bind fun current same => ?_
  subst same
  cases worked : (applyToSlotCandidate codec accountId instrument evidence .activeSession).outcome current with
  | mk result final =>
      cases result with
      | error halt => exact Triple.of_throw fun _ _ => trivial
      | ok _ => exact Triple.of_modify fun _ _ => candidate.returned rfl worked

/-- Watermarks play no part in what is observed of an order. -/
theorem Applies.of_frame {order : BrokerOrderSnapshot} {slot middle final : Stage5gOrderPositionSlot}
    (applies : Applies codec accountId instrument evidence order middle final) (frame : Frame slot middle) :
    Applies codec accountId instrument evidence order slot final := by
  cases slot
  cases middle
  obtain ⟨ack, source, brokerOrderId, orderEvents, trades, position, terminal⟩ := frame
  simp only at ack source brokerOrderId orderEvents trades position terminal
  subst ack source brokerOrderId orderEvents trades position terminal
  exact { ack := applies.ack, source := applies.source, valid := applies.valid
          orderEvents := applies.orderEvents, ledger := applies.ledger, sums := applies.sums
          settled := applies.settled, open_position := applies.open_position }

theorem Frame.hasTargetCorrelatedOrder_eq {slot middle : Stage5gOrderPositionSlot} (frame : Frame slot middle)
    (truth : BrokerTruthSnapshot) : hasTargetCorrelatedOrder middle truth = hasTargetCorrelatedOrder slot truth := by
  cases slot
  cases middle
  obtain ⟨ack, source, brokerOrderId, orderEvents, trades, position, terminal⟩ := frame
  simp only at ack source brokerOrderId orderEvents trades position terminal
  subst ack source brokerOrderId orderEvents trades position terminal
  rfl

theorem candidateWork_spec {state : Stage5gOrderPositionState} {slot : Stage5gOrderPositionSlot}
    (present : hasTargetCorrelatedOrder slot evidence.brokerTruth = true) :
    Returns (fun current => current = slot) (candidateWork codec state evidence .activeSession slot)
      fun _ final => slot.terminal = false ∧
        ∃ order, Applies codec state.accountId state.instrument evidence order slot final := by
  have applying : Returns (Frame slot) (applyToSlotWithMode codec state.accountId state.instrument evidence .activeSession)
      fun _ final => slot.terminal = false ∧
        ∃ order, Applies codec state.accountId state.instrument evidence order slot final := by
    intro middle frame
    have presentThere := (frame.hasTargetCorrelatedOrder_eq evidence.brokerTruth).trans present
    refine (applyToSlotWithMode_spec presentThere).weaken (fun _ same => same) (fun _ final holds => ?_)
      (fun _ _ _ => trivial) middle rfl
    obtain ⟨isOpen, order, applies⟩ := holds
    exact ⟨frame.terminal ▸ isOpen, order, applies.of_frame frame⟩
  have refreshing : Returns (fun final => slot.terminal = false ∧
        ∃ order, Applies codec state.accountId state.instrument evidence order slot final)
      (modify refreshTradeWatermarksFromCommittedLedger)
      fun _ final => slot.terminal = false ∧
        ∃ order, Applies codec state.accountId state.instrument evidence order slot final := by
    refine Triple.of_modify fun applied holds => ?_
    obtain ⟨isOpen, order, applies⟩ := holds
    exact ⟨isOpen, order,
      { applies.keep rfl rfl rfl rfl with settled := applies.settled, open_position := applies.open_position }⟩
  unfold candidateWork
  refine (validateSnapshotChronology_spec _ slot).bind fun _ => ?_
  refine applying.bind fun _ => ?_
  refine refreshing.bind fun _ => ?_
  refine Triple.get_bind fun current holds => ?_
  intro final same
  subst same
  rw [outcome_ofExcept]
  cases rejectIf (componentWatermarksAreMonotonic slot final = false) (Stage5gHalt.blocked .tradeTimeRegression) with
  | error halt => trivial
  | ok _ => exact holds

theorem candidateSlot_ok {state : Stage5gOrderPositionState} {slot next : Stage5gOrderPositionSlot}
    (present : hasTargetCorrelatedOrder slot evidence.brokerTruth = true)
    (worked : candidateSlot codec state evidence .activeSession slot = .ok next) :
    slot.terminal = false ∧ ∃ order, Applies codec state.accountId state.instrument evidence order slot next := by
  unfold candidateSlot at worked
  split at worked
  · next final ran =>
      cases worked
      exact (candidateWork_spec present).returned rfl ran
  · cases worked

end Slots

section Events

/-- A later observation of one order: the same immutable payload, at least as much
filled, and no other status once the order has ended. -/
structure Continues (earlier later : BrokerOrderSnapshot) : Prop where
  samePayload : canonicalImmutableOrderPayloadV1 later = canonicalImmutableOrderPayloadV1 earlier
  filled : earlier.filledQty ≤ later.filledQty
  ended : BrokerOrderSnapshot.lifecycleFor earlier.status = .terminal → later.status = earlier.status

theorem Continues.trans {first second third : BrokerOrderSnapshot} (front : Continues first second)
    (back : Continues second third) : Continues first third :=
  { samePayload := back.samePayload.trans front.samePayload
    filled := Int.le_trans front.filled back.filled
    ended := fun terminal => by
      have same := front.ended terminal
      rw [back.ended (same ▸ terminal), same] }

theorem continues_of_progress {slot : Stage5gOrderPositionSlot} {event : CanonicalOrderEvent}
    {order : BrokerOrderSnapshot} (last : slot.orderEvents.getLast? = some event)
    (lifecycle : event.order.lifecycle = BrokerOrderSnapshot.lifecycleFor event.order.status)
    (progress : validateProgress slot order = .ok ()) : Continues event.order order := by
  unfold validateProgress at progress
  rw [last] at progress
  obtain ⟨payload, progress⟩ := check_bind_ok_iff.1 progress
  obtain ⟨status, filled⟩ := check_bind_ok_iff.1 progress
  rw [rejectIf_ok_iff] at payload status filled
  refine { samePayload := ?_, filled := Int.not_lt.1 filled, ended := fun terminal => ?_ }
  · simpa [stage5gImmutableOrderPayloadMatches, eq_comm] using payload
  · rw [not_and, not_not] at status
    exact (status (lifecycle.trans terminal)).symm

theorem progress_of_valid {accountId : BrokerAccountId} {instrument : InstrumentId}
    {slot : Stage5gOrderPositionSlot} {order : BrokerOrderSnapshot}
    (valid : validateOrder codec accountId instrument slot order = .ok ()) :
    order.lifecycle = BrokerOrderSnapshot.lifecycleFor order.status ∧ validateProgress slot order = .ok () := by
  unfold validateOrder at valid
  obtain ⟨_, valid⟩ := check_bind_ok_iff.1 valid
  obtain ⟨_, valid⟩ := check_bind_ok_iff.1 valid
  obtain ⟨_, valid⟩ := check_bind_ok_iff.1 valid
  obtain ⟨_, valid⟩ := check_bind_ok_iff.1 valid
  obtain ⟨_, valid⟩ := check_bind_ok_iff.1 valid
  obtain ⟨lifecycle, valid⟩ := check_bind_ok_iff.1 valid
  obtain ⟨_, valid⟩ := check_bind_ok_iff.1 valid
  obtain ⟨_, valid⟩ := check_bind_ok_iff.1 valid
  obtain ⟨_, progress⟩ := check_bind_ok_iff.1 valid
  rw [rejectIf_ok_iff, not_not] at lifecycle
  exact ⟨lifecycle, progress⟩

/-- The history of one order: under growing sequences each event continues all before it. -/
def EventsCohere (events : List CanonicalOrderEvent) : Prop :=
  events.Pairwise fun earlier later =>
    earlier.totalSequence < later.totalSequence ∧ Continues earlier.order later.order

structure Coherent (lastTotalSequence : Option UInt64) (slot : Stage5gOrderPositionSlot) : Prop where
  events : EventsCohere slot.orderEvents
  lifecycles : ∀ event ∈ slot.orderEvents,
    event.order.lifecycle = BrokerOrderSnapshot.lifecycleFor event.order.status
  bounded : ∀ event ∈ slot.orderEvents, ∃ last, lastTotalSequence = some last ∧ event.totalSequence ≤ last
  distinct : (slot.trades.map fun trade => trade.brokerTradeId).Nodup
  unsettled : slot.ack.action ≠ .place .market → slot.terminal = false → slot.position = none

theorem Coherent.advance {last : Option UInt64} {slot : Stage5gOrderPositionSlot} (coherent : Coherent last slot)
    {next : UInt64} (fresh : ∀ known, last = some known → known < next) : Coherent (some next) slot :=
  { coherent with
    bounded := fun event member => by
      obtain ⟨known, isLast, below⟩ := coherent.bounded event member
      exact ⟨next, rfl, UInt64.le_trans below (UInt64.le_of_lt (fresh known isLast))⟩ }

/-- A new event comes behind all others, and continues them. -/
theorem eventsCohere_append {last : Option UInt64} {slot : Stage5gOrderPositionSlot} (coherent : Coherent last slot)
    {event : CanonicalOrderEvent} (fresh : ∀ known, last = some known → known < event.totalSequence)
    (progress : validateProgress slot event.order = .ok ()) : EventsCohere (slot.orderEvents ++ [event]) := by
  refine List.pairwise_append.2 ⟨coherent.events, List.pairwise_singleton .., ?_⟩
  intro earlier member later isNew
  obtain rfl := List.mem_singleton.1 isNew
  obtain ⟨known, isLast, below⟩ := coherent.bounded earlier member
  refine ⟨UInt64.lt_of_le_of_lt below (fresh known isLast), ?_⟩
  cases newest : slot.orderEvents.getLast? with
  | none =>
      rw [List.getLast?_eq_none_iff.1 newest] at member
      simp at member
  | some previous =>
      have inEvents := List.mem_of_getLast? newest
      have continues := continues_of_progress newest (coherent.lifecycles previous inEvents) progress
      obtain ⟨front, split⟩ := List.getLast?_eq_some_iff.1 newest
      rw [split] at member
      rcases List.mem_append.1 member with older | same
      · have pairs := coherent.events
        rw [EventsCohere, split] at pairs
        exact ((List.pairwise_append.1 pairs).2.2 earlier older previous (List.mem_singleton_self _)).2.trans continues
      · obtain rfl := List.mem_singleton.1 same
        exact continues

/-- Events under growing sequences are already sorted. -/
theorem mergeSort_events {events : List CanonicalOrderEvent} (cohere : EventsCohere events) :
    (events.mergeSort fun left right =>
      left.totalSequence < right.totalSequence ∨ (left.totalSequence = right.totalSequence ∧
        ¬ left.order.receivedTs.After right.order.receivedTs)) = events := by
  refine List.mergeSort_of_pairwise (cohere.imp fun {earlier later} pair => ?_)
  simp [pair.1]

theorem Applies.orderEvents_eq {accountId : BrokerAccountId} {instrument : InstrumentId}
    {evidence : Stage5gOrderPositionEvidence} {order : BrokerOrderSnapshot} {last : Option UInt64}
    {slot next : Stage5gOrderPositionSlot} (applies : Applies codec accountId instrument evidence order slot next)
    (coherent : Coherent last slot) (fresh : ∀ known, last = some known → known < evidence.totalSequence) :
    EventsCohere next.orderEvents ∧
      next.orderEvents = slot.orderEvents ++
        [CanonicalOrderEvent.mk evidence.totalSequence order evidence.orderAttribution] := by
  have progress := (progress_of_valid applies.valid).2
  have cohere : EventsCohere (slot.orderEvents ++
      [CanonicalOrderEvent.mk evidence.totalSequence order evidence.orderAttribution]) :=
    eventsCohere_append coherent fresh progress
  have sorted := applies.orderEvents.trans (mergeSort_events cohere)
  exact ⟨sorted ▸ cohere, sorted⟩

/-- One package keeps the slot coherent. -/
theorem Applies.coherent {accountId : BrokerAccountId} {instrument : InstrumentId}
    {evidence : Stage5gOrderPositionEvidence} {order : BrokerOrderSnapshot} {last : Option UInt64}
    {slot next : Stage5gOrderPositionSlot} (applies : Applies codec accountId instrument evidence order slot next)
    (coherent : Coherent last slot) (isOpen : slot.terminal = false)
    (fresh : ∀ known, last = some known → known < evidence.totalSequence) :
    Coherent (some evidence.totalSequence) next := by
  obtain ⟨cohere, events⟩ := applies.orderEvents_eq coherent fresh
  have advanced := coherent.advance fresh
  refine { events := cohere, lifecycles := ?_, bounded := ?_, distinct := applies.ledger.distinct coherent.distinct
           unsettled := ?_ }
  · intro event member
    rw [events] at member
    rcases List.mem_append.1 member with old | new
    · exact coherent.lifecycles event old
    · rw [List.mem_singleton.1 new]
      exact (progress_of_valid applies.valid).1
  · intro event member
    rw [events] at member
    rcases List.mem_append.1 member with old | new
    · exact advanced.bounded event old
    · rw [List.mem_singleton.1 new]
      exact ⟨_, rfl, UInt64.le_refl _⟩
  · intro other stillOpen
    rw [applies.ack] at other
    rw [applies.open_position stillOpen other]
    exact coherent.unsettled other isOpen

end Events

section Runs

variable {state final start middle : Stage5gOrderPositionState} {index : Nat} {slot : Stage5gOrderPositionSlot}
variable {canonical : Stage5gCanonicalOrderPositionEvidence codec} {verdict : PackageVerdict}

def TargetRowPresent (codec : OrderPositionCodec) (index : Nat) (state : Stage5gOrderPositionState)
    (canonical : Stage5gCanonicalOrderPositionEvidence codec) : Prop :=
  ∀ slot next, Commits state canonical index slot next →
    hasTargetCorrelatedOrder slot canonical.evidence.brokerTruth = true

/-- A slot as it is attached: nothing has been observed of it, but for a cancel
the last observation of its target. -/
structure Attached (state : Stage5gOrderPositionState) (slot : Stage5gOrderPositionSlot) : Prop where
  trades : slot.trades = []
  position : slot.position = none
  atMostOne : slot.orderEvents.length ≤ 1
  lifecycles : ∀ event ∈ slot.orderEvents,
    event.order.lifecycle = BrokerOrderSnapshot.lifecycleFor event.order.status
  bounded : ∀ event ∈ slot.orderEvents, ∃ last, state.lastTotalSequence = some last ∧ event.totalSequence ≤ last

theorem Attached.coherent (attached : Attached state slot) : Coherent state.lastTotalSequence slot :=
  { events := by
      have atMostOne := attached.atMostOne
      unfold EventsCohere
      cases events : slot.orderEvents with
      | nil => exact .nil
      | cons first rest =>
          rw [events] at atMostOne
          cases rest with
          | nil => exact List.pairwise_singleton ..
          | cons second others => simp at atMostOne
    lifecycles := attached.lifecycles
    bounded := attached.bounded
    distinct := by simp [attached.trades]
    unsettled := fun _ _ => attached.position }

structure Grows (state : Stage5gOrderPositionState) (slot next : Stage5gOrderPositionSlot) : Prop where
  coherent : Coherent state.lastTotalSequence next
  ledger : LedgerGrows slot.trades next.trades
  orderEvents : slot.orderEvents <+: next.orderEvents

/-- The step rule: a delivery keeps a coherent slot coherent. -/
theorem Delivery.grows (delivery : Delivery state canonical verdict final)
    (present : TargetRowPresent codec index state canonical) (found : state.slots[index]? = some slot)
    (coherent : Coherent state.lastTotalSequence slot) :
    ∃ next, final.slots[index]? = some next ∧ Grows final slot next := by
  cases delivery with
  | failed reason => exact ⟨slot, found, coherent, .refl _, List.prefix_refl _⟩
  | replayed known =>
      have fresh := (admission_ok_iff.1 known).1
      exact ⟨slot, found, coherent.advance fresh, .refl _, List.prefix_refl _⟩
  | @applied other before next isNew commits =>
      have fresh := (admission_ok_iff.1 isNew).1
      by_cases same : other = index
      · subst same
        have isSlot : before = slot := Option.some.inj (commits.found.symm.trans found)
        subst isSlot
        obtain ⟨isOpen, order, applies⟩ := candidateSlot_ok (present before next commits) commits.worked
        have inRange := (List.getElem?_eq_some_iff.1 found).1
        refine ⟨next, by simp [commitPackage, inRange], applies.coherent coherent isOpen fresh, applies.ledger, ?_⟩
        exact ⟨_, (applies.orderEvents_eq coherent fresh).2.symm⟩
      · refine ⟨slot, ?_, coherent.advance fresh, .refl _, List.prefix_refl _⟩
        simpa [commitPackage, List.getElem?_set_ne same] using found

/-- The run rule. -/
theorem Run.grows {history : List (Stage5gCanonicalOrderPositionEvidence codec × PackageVerdict)}
    (run : Run codec (TargetRowPresent codec index) start history final) (found : start.slots[index]? = some slot)
    (coherent : Coherent start.lastTotalSequence slot) :
    ∃ next, final.slots[index]? = some next ∧ Grows final slot next := by
  induction run with
  | refl => exact ⟨slot, found, coherent, .refl _, List.prefix_refl _⟩
  | step _ present delivered ih =>
      obtain ⟨between, foundBetween, grown⟩ := ih
      obtain ⟨next, foundNext, grownNext⟩ :=
        (delivery_of_deliver delivered).grows present foundBetween grown.coherent
      exact ⟨next, foundNext, grownNext.coherent, grown.ledger.trans grownNext.ledger,
        grown.orderEvents.trans grownNext.orderEvents⟩

/-- What an applied package leaves in its slot: its order as the last event, trades
that add up to a positive fill, and in a slot that it ended the settled position. -/
structure Settles (codec : OrderPositionCodec) (evidence : Stage5gOrderPositionEvidence)
    (slot next : Stage5gOrderPositionSlot) (order : BrokerOrderSnapshot) : Prop where
  wasOpen : slot.terminal = false
  lastEvent : next.orderEvents.getLast? =
    some { totalSequence := evidence.totalSequence, order := order, attribution := evidence.orderAttribution }
  sums : SumsToFill next.trades order
  settled : next.terminal = true → ∀ stored, next.position = some stored →
    PositionSettled codec slot order stored.2

theorem Commits.settles {next : Stage5gOrderPositionSlot} (commits : Commits state canonical index slot next)
    (present : TargetRowPresent codec index state canonical)
    (fresh : SequenceFresh state canonical.evidence)
    (coherent : Coherent state.lastTotalSequence slot) :
    ∃ order, Settles codec canonical.evidence slot next order := by
  obtain ⟨isOpen, order, applies⟩ := candidateSlot_ok (present slot next commits) commits.worked
  refine ⟨order, { wasOpen := isOpen, lastEvent := ?_, sums := applies.sums, settled := fun ended stored isStored => ?_ }⟩
  · rw [(applies.orderEvents_eq coherent fresh).2]
    simp
  · rcases applies.settled ended stored isStored with settled | ⟨other, kept⟩
    · exact settled
    · rw [coherent.unsettled other isOpen] at kept
      cases kept

/-- A slot's order, trades and position stay coherent. In every state of a run that
starts with the slot as it is attached, and whose packages for it show its target
order: the order events have one payload, fills that do not fall and no other status
after a terminal one; the trades have distinct ids, and every later state keeps each
of them. A package applied to the slot leaves trades that add up to the filled
quantity if that is positive, and in a slot that it ends with a stored position, one
that is settled. -/
theorem slot_stays_coherent (codec : OrderPositionCodec) {start middle : Stage5gOrderPositionState} {index : Nat}
    {slot : Stage5gOrderPositionSlot} {history : List (Stage5gCanonicalOrderPositionEvidence codec × PackageVerdict)}
    (found : start.slots[index]? = some slot) (attached : Attached start slot)
    (run : Run codec (TargetRowPresent codec index) start history middle) :
    ∃ current, middle.slots[index]? = some current ∧
      (current.orderEvents.Pairwise fun earlier later => Continues earlier.order later.order) ∧
      (current.trades.map fun trade => trade.brokerTradeId).Nodup ∧
      (∀ later final, Run codec (TargetRowPresent codec index) middle later final →
        ∃ next, final.slots[index]? = some next ∧
          (∀ trade ∈ current.trades, ∃ kept ∈ next.trades,
            canonicalImmutableTradePayloadV1 kept = canonicalImmutableTradePayloadV1 trade) ∧
          current.orderEvents <+: next.orderEvents) ∧
      (∀ canonical final, deliver codec middle canonical = some (.applied, final) →
        TargetRowPresent codec index middle canonical →
        stage5gOrderPositionNewPackagePreflightState middle canonical.evidence = .ok index →
        ∃ next order, final.slots[index]? = some next ∧ Settles codec canonical.evidence current next order) := by
  obtain ⟨current, foundCurrent, grown⟩ := run.grows found attached.coherent
  refine ⟨current, foundCurrent, grown.coherent.events.imp fun {_ _} pair => pair.2, grown.coherent.distinct, ?_, ?_⟩
  · intro later final further
    obtain ⟨next, foundNext, grownNext⟩ := further.grows foundCurrent grown.coherent
    exact ⟨next, foundNext, grownNext.ledger.kept, grownNext.orderEvents⟩
  · intro canonical final delivered present addressed
    cases delivery_of_deliver delivered with
    | @applied other before next isNew commits =>
        have same : other = index := Except.ok.inj (commits.addressed.symm.trans addressed)
        subst same
        have isSlot : before = current := Option.some.inj (commits.found.symm.trans foundCurrent)
        subst isSlot
        obtain ⟨order, settles⟩ := commits.settles present (admission_ok_iff.1 isNew).1 grown.coherent
        have inRange := (List.getElem?_eq_some_iff.1 foundCurrent).1
        exact ⟨next, order, by simp [commitPackage, inRange], settles⟩

open SampleSession in
theorem sampleSlot_attached (action : Stage5gMockIntentAction) (prePositionQty : Float) :
    Attached (sampleState (sampleSlot action prePositionQty)) (sampleSlot action prePositionQty) :=
  { trades := rfl
    position := rfl
    atMostOne := Nat.zero_le 1
    lifecycles := fun _ member => nomatch member
    bounded := fun _ member => nomatch member }

open SampleSession in
/-- The sample packages show the order of the sample slot. -/
theorem sampleState_targetRow {slot : Stage5gOrderPositionSlot}
    {canonical : Stage5gCanonicalOrderPositionEvidence sessionCodec}
    (present : hasTargetCorrelatedOrder slot canonical.evidence.brokerTruth = true) :
    TargetRowPresent sessionCodec 0 (sampleState slot) canonical := by
  intro found next commits
  have same : found = slot := (Option.some.inj commits.found).symm
  rwa [same]

open SampleSession in
theorem slot_stays_coherent_filled :
    ∃ final next order,
      deliver sessionCodec (sampleState (sampleSlot (.place .limit) 0)) filledPackage = some (.applied, final) ∧
      final.slots[0]? = some next ∧
      Settles sessionCodec filledPackage.evidence (sampleSlot (.place .limit) 0) next order := by
  have applied : (deliver sessionCodec (sampleState (sampleSlot (.place .limit) 0)) filledPackage).map Prod.fst =
      some .applied := by decide +kernel
  obtain ⟨⟨verdict, final⟩, delivered, isApplied⟩ := Option.map_eq_some_iff.1 applied
  cases isApplied
  have present : TargetRowPresent sessionCodec 0 (sampleState (sampleSlot (.place .limit) 0)) filledPackage :=
    sampleState_targetRow (by decide)
  obtain ⟨current, found, _, _, _, settling⟩ := slot_stays_coherent sessionCodec
    (rfl : (sampleState (sampleSlot (.place .limit) 0)).slots[0]? = some (sampleSlot (.place .limit) 0))
    (sampleSlot_attached (.place .limit) 0) .refl
  cases found
  obtain ⟨next, order, foundNext, settles⟩ := settling filledPackage final delivered present (by decide)
  exact ⟨final, next, order, delivered, foundNext, settles⟩

open SampleSession in
/-- The order still works unfilled, and its trade is already there. -/
def earlyTradePackage : Stage5gCanonicalOrderPositionEvidence sessionCodec :=
  samplePackage (sampleEvidence 1 10 (sampleOrder .working Decimal.zero 10) [sampleTrade 10] [])
    (by decide +kernel)

/-- The trade quantities of a slot, the filled quantities of its events, whether it
has ended, and the position it stores. -/
structure SlotAccounting where
  trades : List Decimal
  fills : List Decimal
  terminal : Bool
  position : Option Decimal
deriving DecidableEq

def accountingOf (state : Stage5gOrderPositionState) : Option SlotAccounting :=
  state.slots[0]?.map fun slot =>
    { trades := slot.trades.map fun trade => trade.qty
      fills := slot.orderEvents.map fun event => event.order.filledQty
      terminal := slot.terminal
      position := slot.position.map fun stored => stored.2.qty }

open SampleSession in
/-- On the sample limit order: an applied package leaves a trade of one lot behind an
event without fill; and with one lot held before the buy, the filled order ends the
slot with a stored position of one lot, not of two. -/
theorem sums_and_position_may_differ :
    (Attached (sampleState (sampleSlot (.place .limit) 0)) (sampleSlot (.place .limit) 0) ∧
      TargetRowPresent sessionCodec 0 (sampleState (sampleSlot (.place .limit) 0)) earlyTradePackage ∧
      ∃ final, deliver sessionCodec (sampleState (sampleSlot (.place .limit) 0)) earlyTradePackage =
          some (.applied, final) ∧
        accountingOf final = some ⟨[one], [Decimal.zero], false, none⟩ ∧
        Decimal.checkedSum [one] = some one ∧ ¬ one.Same Decimal.zero) ∧
    (Attached (sampleState (sampleSlot (.place .limit) 1)) (sampleSlot (.place .limit) 1) ∧
      TargetRowPresent sessionCodec 0 (sampleState (sampleSlot (.place .limit) 1)) filledPackage ∧
      ∃ final, deliver sessionCodec (sampleState (sampleSlot (.place .limit) 1)) filledPackage =
          some (.applied, final) ∧
        accountingOf final = some ⟨[one], [one], true, some one⟩ ∧
        ∃ expected, one.checkedAdd one = some expected ∧ ¬ one.Same expected) := by
  refine ⟨⟨sampleSlot_attached _ _, sampleState_targetRow (by decide), ?_⟩,
    sampleSlot_attached _ _, sampleState_targetRow (by decide), ?_⟩
  · have shown : (deliver sessionCodec (sampleState (sampleSlot (.place .limit) 0)) earlyTradePackage).map
        (fun result => (result.1, accountingOf result.2)) =
        some (.applied, some ⟨[one], [Decimal.zero], false, none⟩) := by decide +kernel
    obtain ⟨⟨verdict, final⟩, delivered, shows⟩ := Option.map_eq_some_iff.1 shown
    obtain ⟨rfl, accounting⟩ := Prod.mk.inj shows
    exact ⟨final, delivered, accounting, by decide, by decide⟩
  · have shown : (deliver sessionCodec (sampleState (sampleSlot (.place .limit) 1)) filledPackage).map
        (fun result => (result.1, accountingOf result.2)) =
        some (.applied, some ⟨[one], [one], true, some one⟩) := by decide +kernel
    obtain ⟨⟨verdict, final⟩, delivered, shows⟩ := Option.map_eq_some_iff.1 shown
    obtain ⟨rfl, accounting⟩ := Prod.mk.inj shows
    refine ⟨final, delivered, accounting, Decimal.ofNat 2 (by decide), by decide, by decide⟩

end Runs

end TradingGateway.Stage5g.OrderPosition
