import Mathlib.Algebra.BigOperators.Group.List.Basic
import TradingGateway.BrokerCore.PaperLedger
import TradingGateway.Foundation.Runs

/-! Runs of the paper adapter: when a call leaves nothing half done, and what the ledger
and the published plans have in common then. -/

set_option autoImplicit false

namespace TradingGateway.BrokerCore.PaperLedgerProperties

open Orders PaperLedger
open Foundation.ExceptRun Foundation.Triples.Action

/-- What stands in exactly one of the plans, where the plans taken together hold distinct values. -/
theorem one_plan {Record Value : Type} [DecidableEq Value] {read : Record → Option Value}
    {plans : List (List Record)} {value : Value} (distinct : (plans.flatten.filterMap read).Nodup)
    (member : value ∈ plans.flatten.filterMap read) :
    (plans.filter fun plan => plan.any fun record => read record = some value).length = 1 := by
  induction plans with
  | nil => simp at member
  | cons plan plans ih =>
      rw [List.flatten_cons, List.filterMap_append] at distinct member
      obtain ⟨_, rest, disjoint⟩ := List.nodup_append.1 distinct
      have reads : ∀ records : List Record,
          (records.any fun record => read record = some value) = true ↔ value ∈ records.filterMap read := by
        intro records
        simp
      by_cases here : value ∈ plan.filterMap read
      · have nowhere : (plans.filter fun plan => plan.any fun record => read record = some value) = [] := by
          apply List.filter_eq_nil_iff.2
          intro other among found
          have elsewhere : value ∈ plans.flatten.filterMap read := by
            obtain ⟨record, inOther, isRead⟩ := List.mem_filterMap.1 ((reads other).1 found)
            exact List.mem_filterMap.2 ⟨record, List.mem_flatten.2 ⟨other, among, inOther⟩, isRead⟩
          exact disjoint value here value elsewhere rfl
        rw [List.filter_cons, if_pos ((reads plan).2 here), nowhere, List.length_singleton]
      · rw [List.filter_cons, if_neg (fun found => here ((reads plan).1 found))]
        exact ih rest ((List.mem_append.1 member).resolve_left here)

def orderOf (record : PaperRuntimePublishRecord) : Option PaperOrder :=
  match record.payload with
  | .order order => some order
  | _ => none

def tradeOf (record : PaperRuntimePublishRecord) : Option PaperTrade :=
  match record.payload with
  | .trade trade => some trade
  | _ => none

section Ledger

variable {ledger : PaperLedgerSnapshot} {config : PaperLedgerExecutorConfig} {intent : PaperIntent}
variable {input : RuntimeBarInput} {side : OrderSide}

/-- The three checks of an intent, which ask for nothing but the terms of the ledger. -/
def Checked (ledger : PaperLedgerSnapshot) (config : PaperLedgerExecutorConfig) (input : RuntimeBarInput)
    (intent : PaperIntent) : Prop :=
  ledger.validateExecutorConfig config = .ok () ∧ ledger.validateIntentForNextBarOpen intent = .ok () ∧
    ledger.validateFillBar config intent input = .ok ()

instance : Decidable (Checked ledger config input intent) :=
  inferInstanceAs (Decidable (_ ∧ _ ∧ _))

def Marketable (intent : PaperIntent) : Prop :=
  intent.side ≠ none ∧ intent.orderType = some .market

instance : Decidable (Marketable intent) :=
  inferInstanceAs (Decidable (_ ∧ _))

def knownIds (ledger : PaperLedgerSnapshot) : List RuntimeDecisionId :=
  ledger.intents.map (·.intentId)

def WrittenApart (known : List RuntimeDecisionId) (intentId : RuntimeDecisionId) : Prop :=
  ∀ other ∈ known, stableIdSuffix other.value ≠ stableIdSuffix intentId.value

instance (known : List RuntimeDecisionId) (intentId : RuntimeDecisionId) : Decidable (WrittenApart known intentId) :=
  inferInstanceAs (Decidable (∀ other ∈ known, _))

structure Sound (ledger : PaperLedgerSnapshot) : Prop where
  closed : ledger.safetyBoundary.isClosed = true
  apart : ((knownIds ledger).map fun intentId => stableIdSuffix intentId.value).Nodup
  orderIds : ledger.orders.map (·.intentId) = knownIds ledger
  tradeIds : ledger.trades.map (·.intentId) = knownIds ledger
  orders : ∀ order ∈ ledger.orders, order.paperOrderId = paperOrderIdFor order.intentId ∧
    order.instrument = ledger.instrument ∧ order.strategyId = ledger.strategyId ∧
    order.filledQty = order.qty ∧ order.remainingQty = 0
  trades : ∀ trade ∈ ledger.trades, trade.paperTradeId = paperTradeIdFor trade.intentId ∧
    trade.paperOrderId = paperOrderIdFor trade.intentId ∧ trade.instrument = ledger.instrument ∧
    trade.strategyId = ledger.strategyId
  positions : ∀ position ∈ ledger.positions, position.instrument = ledger.instrument ∧
    position.strategyId = ledger.strategyId
  acks : ∀ ack ∈ ledger.acks, ack.intentId ∈ knownIds ledger ∧
    ack.paperOrderId = some (paperOrderIdFor ack.intentId)
  position : ledger.targetPositionQty = (ledger.trades.map fun trade => signedQty trade.side trade.qty).sum

theorem paperOrderIdFor_eq_iff {left right : RuntimeDecisionId} :
    paperOrderIdFor left = paperOrderIdFor right ↔ stableIdSuffix left.value = stableIdSuffix right.value := by
  simp [paperOrderIdFor]

theorem paperTradeIdFor_eq_iff {left right : RuntimeDecisionId} :
    paperTradeIdFor left = paperTradeIdFor right ↔ stableIdSuffix left.value = stableIdSuffix right.value := by
  simp [paperTradeIdFor]

theorem Sound.idsNodup (sound : Sound ledger) : (knownIds ledger).Nodup :=
  List.Nodup.of_map _ sound.apart

theorem Sound.paperOrderIds (sound : Sound ledger) :
    ledger.orders.map (·.paperOrderId) = (knownIds ledger).map paperOrderIdFor := by
  rw [← sound.orderIds, List.map_map]
  exact List.map_congr_left fun order member => (sound.orders order member).1

theorem Sound.paperTradeIds (sound : Sound ledger) :
    ledger.trades.map (·.paperTradeId) = (knownIds ledger).map paperTradeIdFor := by
  rw [← sound.tradeIds, List.map_map]
  exact List.map_congr_left fun trade member => (sound.trades trade member).1

theorem nodup_map_of_suffix {Id : Type} {derive : RuntimeDecisionId → Id} {ids : List RuntimeDecisionId}
    (same : ∀ left right, derive left = derive right → stableIdSuffix left.value = stableIdSuffix right.value)
    (apart : (ids.map fun intentId => stableIdSuffix intentId.value).Nodup) : (ids.map derive).Nodup := by
  apply List.Nodup.map_on
  · intro left leftMember right rightMember derived
    exact List.inj_on_of_nodup_map apart leftMember rightMember (same left right derived)
  · exact List.Nodup.of_map _ apart

theorem Sound.validates (sound : Sound ledger) : ledger.validate = .ok () := by
  have orderKnown : ∀ intentId ∈ knownIds ledger, paperOrderIdFor intentId ∈ ledger.orders.map (·.paperOrderId) := by
    intro intentId member
    rw [sound.paperOrderIds]
    exact List.mem_map_of_mem member
  unfold PaperLedgerSnapshot.validate
  simp only [bind_ok_iff, rejectIf_ok_iff, not_not]
  refine ⟨(), by simp [sound.closed], (), sound.idsNodup, (), ?_, (), ?_, (), forM_ok_iff.2 ?_, (), forM_ok_iff.2 ?_,
    (), forM_ok_iff.2 ?_, forM_ok_iff.2 ?_⟩
  · rw [sound.paperOrderIds]
    exact nodup_map_of_suffix (fun _ _ => paperOrderIdFor_eq_iff.1) sound.apart
  · rw [sound.paperTradeIds]
    exact nodup_map_of_suffix (fun _ _ => paperTradeIdFor_eq_iff.1) sound.apart
  · intro order member
    obtain ⟨_, instrument, strategy, filled, remaining⟩ := sound.orders order member
    have known : order.intentId ∈ knownIds ledger := sound.orderIds ▸ List.mem_map_of_mem member
    unfold PaperLedgerSnapshot.validateOrder
    simp only [bind_ok_iff, rejectIf_ok_iff, not_not]
    exact ⟨(), instrument, (), strategy, (), known, (), by simp [filled], by simp [filled, remaining]⟩
  · intro trade member
    obtain ⟨_, orderId, instrument, strategy⟩ := sound.trades trade member
    have known : trade.intentId ∈ knownIds ledger := sound.tradeIds ▸ List.mem_map_of_mem member
    unfold PaperLedgerSnapshot.validateTrade
    simp only [bind_ok_iff, rejectIf_ok_iff, not_not]
    exact ⟨(), instrument, (), strategy, (), orderId ▸ orderKnown _ known, known⟩
  · intro position member
    obtain ⟨instrument, strategy⟩ := sound.positions position member
    unfold PaperLedgerSnapshot.validatePosition
    simp only [bind_ok_iff, rejectIf_ok_iff, not_not]
    exact ⟨(), instrument, strategy⟩
  · intro ack member
    obtain ⟨known, orderId⟩ := sound.acks ack member
    unfold PaperLedgerSnapshot.validateAck
    simp only [bind_ok_iff, rejectIf_ok_iff, not_not]
    refine ⟨(), known, ?_⟩
    simpa [orderId] using orderKnown _ known

theorem knownIds_recordFill (orderType : BrokerCore.Orders.OrderType) :
    knownIds (ledger.recordFill intent input side orderType) = knownIds ledger ++ [intent.intentId] := by
  simp [knownIds, PaperLedgerSnapshot.recordFill]

theorem targetPositionQty_recordFill (orderType : BrokerCore.Orders.OrderType) :
    (ledger.recordFill intent input side orderType).targetPositionQty =
      ledger.targetPositionQty + signedQty side intent.qty := by
  simp [PaperLedgerSnapshot.targetPositionQty, PaperLedgerSnapshot.recordFill,
    PaperLedgerSnapshot.nextPositionAfterFill]

theorem Checked.terms (checked : Checked ledger config input intent) :
    intent.instrument = ledger.instrument ∧ intent.strategyId = ledger.strategyId := by
  have passed := checked.2.1
  unfold PaperLedgerSnapshot.validateIntentForNextBarOpen at passed
  simp only [bind_ok_iff, rejectIf_ok_iff, not_not] at passed
  obtain ⟨_, strategy, _, instrument, _⟩ := passed
  exact ⟨instrument, strategy⟩

/-- A fill under an identifier written apart from all others keeps the ledger sound. -/
theorem Sound.recordFill (sound : Sound ledger) (checked : Checked ledger config input intent)
    (apart : WrittenApart (knownIds ledger) intent.intentId) (side : OrderSide) (orderType : BrokerCore.Orders.OrderType) :
    Sound (ledger.recordFill intent input side orderType) := by
  obtain ⟨instrument, strategy⟩ := checked.terms
  constructor
  · exact sound.closed
  · rw [knownIds_recordFill, List.map_append, List.map_singleton]
    refine List.Nodup.append sound.apart (List.nodup_singleton _) ?_
    rw [List.disjoint_singleton]
    intro member
    obtain ⟨other, known, same⟩ := List.mem_map.1 member
    exact apart other known same
  · rw [knownIds_recordFill, ← sound.orderIds]
    simp [PaperLedgerSnapshot.recordFill, PaperLedgerSnapshot.paperOrder]
  · rw [knownIds_recordFill, ← sound.tradeIds]
    simp [PaperLedgerSnapshot.recordFill, PaperLedgerSnapshot.paperTrade]
  · intro order member
    rcases List.mem_append.1 member with old | new
    · exact sound.orders order old
    · rw [List.mem_singleton.1 new]
      exact ⟨rfl, instrument, strategy, rfl, rfl⟩
  · intro trade member
    rcases List.mem_append.1 member with old | new
    · exact sound.trades trade old
    · rw [List.mem_singleton.1 new]
      exact ⟨rfl, rfl, instrument, strategy⟩
  · intro position member
    rcases List.mem_append.1 member with old | new
    · exact sound.positions position old
    · rw [List.mem_singleton.1 new]
      exact ⟨rfl, rfl⟩
  · intro ack member
    rw [knownIds_recordFill]
    rcases List.mem_append.1 member with old | new
    · exact ⟨List.mem_append_left _ (sound.acks ack old).1, (sound.acks ack old).2⟩
    · rw [List.mem_singleton.1 new]
      exact ⟨List.mem_append_right _ (List.mem_singleton.2 rfl), rfl⟩
  · rw [targetPositionQty_recordFill, sound.position]
    simp [PaperLedgerSnapshot.recordFill, PaperLedgerSnapshot.paperTrade]

/-- A fill under an identifier written like another one is recorded, and fails the check behind it. -/
theorem Sound.recordFill_fails (sound : Sound ledger) (alike : ¬ WrittenApart (knownIds ledger) intent.intentId)
    (orderType : BrokerCore.Orders.OrderType) : (ledger.recordFill intent input side orderType).validate ≠ .ok () := by
  intro passed
  unfold PaperLedgerSnapshot.validate at passed
  simp only [bind_ok_iff, rejectIf_ok_iff, not_not] at passed
  obtain ⟨_, _, _, _, _, distinct, _⟩ := passed
  have ids : (ledger.recordFill intent input side orderType).orders.map (·.paperOrderId) =
      (knownIds ledger).map paperOrderIdFor ++ [paperOrderIdFor intent.intentId] := by
    rw [← sound.paperOrderIds]
    simp [PaperLedgerSnapshot.recordFill, PaperLedgerSnapshot.paperOrder]
  rw [ids] at distinct
  unfold WrittenApart at alike
  push Not at alike
  obtain ⟨other, known, same⟩ := alike
  exact (List.nodup_append.1 distinct).2.2 _ (List.mem_map_of_mem known) _ (List.mem_singleton.2 rfl)
    (paperOrderIdFor_eq_iff.2 same)

section Apply

open PaperLedgerSnapshot

inductive Applied (ledger : PaperLedgerSnapshot) (config : PaperLedgerExecutorConfig) (input : RuntimeBarInput)
    (intent : PaperIntent) : Except PaperLedgerExecutorError PaperLedgerExecutionOutcome × PaperLedgerSnapshot → Prop where
  | rejected (error : PaperLedgerExecutorError)
      (refused : ¬ (Checked ledger config input intent ∧ (intent.intentId ∈ knownIds ledger ∨ Marketable intent))) :
      Applied ledger config input intent (.error error, ledger)
  | duplicate (checked : Checked ledger config input intent) (known : intent.intentId ∈ knownIds ledger) :
      Applied ledger config input intent (.ok (.duplicateIgnored (duplicateAck intent input)), ledger)
  | filled (checked : Checked ledger config input intent) (unknown : intent.intentId ∉ knownIds ledger)
      (marketable : Marketable intent) (side : OrderSide)
      (valid : (ledger.recordFill intent input side .market).validate = .ok ()) :
      Applied ledger config input intent
        (.ok (.filled (paperOrder intent input side .market) (paperTrade intent input side)
          (ledger.nextPositionAfterFill intent input side) (filledAck intent input)),
          ledger.recordFill intent input side .market)
  | broken (checked : Checked ledger config input intent) (unknown : intent.intentId ∉ knownIds ledger)
      (marketable : Marketable intent) (side : OrderSide) (error : PaperLedgerExecutorError)
      (invalid : (ledger.recordFill intent input side .market).validate ≠ .ok ()) :
      Applied ledger config input intent (.error error, ledger.recordFill intent input side .market)

theorem applied (ledger : PaperLedgerSnapshot) (config : PaperLedgerExecutorConfig) (input : RuntimeBarInput)
    (intent : PaperIntent) :
    Applied ledger config input intent ((applyNextBarOpenMarketIntent config intent input).outcome ledger) := by
  unfold applyNextBarOpenMarketIntent
  rw [outcome_bind, outcome_get]
  dsimp only
  rw [outcome_bind, outcome_ofExcept]
  cases isConfig : ledger.validateExecutorConfig config with
  | error error => exact .rejected error fun accepted => by simp [Checked, isConfig] at accepted
  | ok _ =>
      dsimp only
      rw [outcome_bind, outcome_ofExcept]
      cases isIntent : ledger.validateIntentForNextBarOpen intent with
      | error error => exact .rejected error fun accepted => by simp [Checked, isIntent] at accepted
      | ok _ =>
          dsimp only
          rw [outcome_bind, outcome_ofExcept]
          cases isBar : ledger.validateFillBar config intent input with
          | error error => exact .rejected error fun accepted => by simp [Checked, isBar] at accepted
          | ok _ =>
              have checked : Checked ledger config input intent := ⟨isConfig, isIntent, isBar⟩
              dsimp only
              by_cases known : intent.intentId ∈ ledger.intents.map (·.intentId)
              · rw [if_pos known]
                exact .duplicate checked known
              · rw [if_neg known, outcome_bind, outcome_ofExcept]
                cases isSide : intent.side with
                | none =>
                    refine .rejected _ ?_
                    rintro ⟨_, found | marketable⟩
                    · exact known found
                    · exact marketable.1 isSide
                | some side =>
                    dsimp only [orReject]
                    rw [outcome_bind, outcome_ofExcept]
                    cases isType : intent.orderType with
                    | none =>
                        refine .rejected _ ?_
                        rintro ⟨_, found | marketable⟩
                        · exact known found
                        · simp [Marketable, isType] at marketable
                    | some orderType =>
                        dsimp only [orReject]
                        rw [outcome_bind, outcome_ofExcept]
                        by_cases isMarket : orderType = .market
                        · subst isMarket
                          have marketable : Marketable intent := ⟨by simp [isSide], isType⟩
                          rw [rejectIf_of_not _ (by simp)]
                          dsimp only
                          rw [outcome_bind, outcome_modify]
                          dsimp only
                          rw [outcome_bind, outcome_ofExcept]
                          cases valid : (ledger.recordFill intent input side .market).validate with
                          | ok _ => exact .filled checked known marketable side valid
                          | error error => exact .broken checked known marketable side _ (by simp [valid])
                        · have stops : rejectIf (orderType ≠ .market)
                              (PaperLedgerExecutorError.unsupportedOrderType orderType) =
                                .error (.unsupportedOrderType orderType) :=
                            rejectIf_error_iff.2 ⟨isMarket, rfl⟩
                          rw [stops]
                          refine .rejected _ ?_
                          rintro ⟨_, found | marketable⟩
                          · exact known found
                          · exact isMarket (by simpa [isType] using marketable.2)

end Apply

end Ledger

def TakesAll (checked : PaperIntent → Prop) : List RuntimeDecisionId → List PaperIntent → Prop
  | _, [] => True
  | known, intent :: rest =>
      checked intent ∧
        if intent.intentId ∈ known then TakesAll checked known rest
        else Marketable intent ∧ WrittenApart known intent.intentId ∧
          TakesAll checked (known ++ [intent.intentId]) rest

instance decidableTakesAll (checked : PaperIntent → Prop) [DecidablePred checked] :
    (known : List RuntimeDecisionId) → (intents : List PaperIntent) → Decidable (TakesAll checked known intents)
  | _, [] => .isTrue trivial
  | known, intent :: rest =>
      have := decidableTakesAll checked known rest
      have := decidableTakesAll checked (known ++ [intent.intentId]) rest
      inferInstanceAs (Decidable (checked intent ∧
        if intent.intentId ∈ known then TakesAll checked known rest
        else Marketable intent ∧ WrittenApart known intent.intentId ∧
          TakesAll checked (known ++ [intent.intentId]) rest))

def RefusesFirst (checked : PaperIntent → Prop) (known : List RuntimeDecisionId) (intents : List PaperIntent) : Prop :=
  ∃ taken refused rest, intents = taken ++ refused :: rest ∧
    (∀ intent ∈ taken, checked intent ∧ intent.intentId ∈ known) ∧
    ¬ (checked refused ∧ (refused.intentId ∈ known ∨ Marketable refused))

structure Grows (ledger after : PaperLedgerSnapshot) (plan : List PaperRuntimePublishRecord) : Prop where
  orders : after.orders = ledger.orders ++ plan.filterMap orderOf
  trades : after.trades = ledger.trades ++ plan.filterMap tradeOf
  known : ∀ intentId ∈ knownIds ledger, intentId ∈ knownIds after

namespace Grows

variable {first middle last : PaperLedgerSnapshot} {front back : List PaperRuntimePublishRecord}

theorem refl (ledger : PaperLedgerSnapshot) : Grows ledger ledger [] :=
  ⟨by simp, by simp, fun _ member => member⟩

theorem trans (start : Grows first middle front) (finish : Grows middle last back) :
    Grows first last (front ++ back) := by
  constructor
  · rw [finish.orders, start.orders, List.filterMap_append, List.append_assoc]
  · rw [finish.trades, start.trades, List.filterMap_append, List.append_assoc]
  · exact fun intentId member => finish.known intentId (start.known intentId member)

end Grows

section Intents

open PaperLedgerSnapshot

variable {ledger : PaperLedgerSnapshot} {config : PaperRuntimeAdapterConfig} {input : RuntimeBarInput}
variable {intents : List PaperIntent} {observed : ObservedIntents}

/-- The plan of one intent, behind the plan so far. -/
theorem observeIntent_outcome {intent : PaperIntent}
    {result : Except PaperLedgerExecutorError PaperLedgerExecutionOutcome × PaperLedgerSnapshot}
    (ran : (applyNextBarOpenMarketIntent config.ledger intent input).outcome ledger = result) :
    match result with
    | (.ok outcome, after) => ∃ next, (observeIntent config input observed intent).outcome ledger = (.ok next, after) ∧
        next.publishPlan = observed.publishPlan ++ publishedOutcome config.streams intent outcome
    | (.error error, after) =>
        (observeIntent config input observed intent).outcome ledger = (.error (.executor error), after) := by
  obtain ⟨outcome, after⟩ := result
  unfold observeIntent
  cases outcome with
  | error error =>
      dsimp only
      rw [outcome_bind, outcome_mapError, ran]
      rfl
  | ok outcome =>
      dsimp only
      rw [outcome_bind, outcome_mapError, ran]
      exact ⟨_, rfl, rfl⟩

theorem observeIntents_takes (sound : Sound ledger)
    (takes : TakesAll (Checked ledger config.ledger input) (knownIds ledger) intents) :
    ∃ final after plan, (observeIntents config input intents observed).outcome ledger = (.ok final, after) ∧
      final.publishPlan = observed.publishPlan ++ plan ∧ Sound after ∧ Grows ledger after plan ∧
      ∀ intent ∈ intents, intent.intentId ∈ knownIds after := by
  induction intents generalizing ledger observed with
  | nil => exact ⟨observed, ledger, [], rfl, by simp, sound, .refl ledger, by simp⟩
  | cons intent rest ih =>
      obtain ⟨checked, takes⟩ := takes
      unfold observeIntents
      rw [outcome_bind]
      have spec := applied ledger config.ledger input intent
      generalize ran : (applyNextBarOpenMarketIntent config.ledger intent input).outcome ledger = result at spec
      have steps := @observeIntent_outcome ledger config input observed intent result ran
      cases spec with
      | rejected error refused =>
          split at takes
          case isTrue known => exact absurd ⟨checked, .inl known⟩ refused
          case isFalse => exact absurd ⟨checked, .inr takes.1⟩ refused
      | duplicate _ known =>
          rw [if_pos known] at takes
          obtain ⟨next, stepped, extended⟩ := steps
          obtain ⟨final, after, plan, finished, published, kept, grows, all⟩ := @ih ledger next sound takes
          rw [stepped]
          refine ⟨final, after, publishedOutcome config.streams intent (.duplicateIgnored (duplicateAck intent input)) ++ plan,
            finished, by rw [published, extended, List.append_assoc], kept,
            Grows.trans ⟨(List.append_nil _).symm, (List.append_nil _).symm, fun _ member => member⟩ grows, ?_⟩
          intro other member
          rcases List.mem_cons.1 member with rfl | later
          · exact grows.known _ known
          · exact all other later
      | filled _ unknown marketable side valid =>
          rw [if_neg unknown] at takes
          obtain ⟨_, apart, takes⟩ := takes
          obtain ⟨next, stepped, extended⟩ := steps
          have recorded := sound.recordFill checked apart side .market
          rw [← @knownIds_recordFill ledger intent input side .market] at takes
          obtain ⟨final, after, plan, finished, published, kept, grows, all⟩ := @ih _ next recorded takes
          rw [stepped]
          refine ⟨final, after, publishedOutcome config.streams intent (.filled (paperOrder intent input side .market)
            (paperTrade intent input side) (ledger.nextPositionAfterFill intent input side) (filledAck intent input)) ++ plan,
            finished, by rw [published, extended, List.append_assoc], kept,
            Grows.trans ⟨rfl, rfl, ?_⟩ grows, ?_⟩
          · intro intentId member
            rw [knownIds_recordFill]
            exact List.mem_append_left _ member
          · intro other member
            rcases List.mem_cons.1 member with rfl | later
            · apply grows.known
              rw [knownIds_recordFill]
              exact List.mem_append_right _ (List.mem_singleton.2 rfl)
            · exact all other later
      | broken _ unknown marketable side error invalid =>
          rw [if_neg unknown] at takes
          exact absurd (sound.recordFill checked takes.2.1 side .market).validates invalid

theorem observeIntents_refuses (refuses : RefusesFirst (Checked ledger config.ledger input) (knownIds ledger) intents) :
    ∃ error, (observeIntents config input intents observed).outcome ledger = (.error error, ledger) := by
  obtain ⟨taken, refused, rest, rfl, known, rejected⟩ := refuses
  induction taken generalizing observed with
  | nil =>
      rw [List.nil_append]
      unfold observeIntents
      rw [outcome_bind]
      have spec := applied ledger config.ledger input refused
      generalize ran : (applyNextBarOpenMarketIntent config.ledger refused input).outcome ledger = result at spec
      have steps := @observeIntent_outcome ledger config input observed refused result ran
      cases spec with
      | rejected error _ => exact ⟨_, by rw [steps]⟩
      | duplicate checked known => exact absurd ⟨checked, .inl known⟩ rejected
      | filled checked _ marketable _ _ => exact absurd ⟨checked, .inr marketable⟩ rejected
      | broken checked _ marketable _ _ _ => exact absurd ⟨checked, .inr marketable⟩ rejected
  | cons intent taken ih =>
      obtain ⟨checked, isKnown⟩ := known intent List.mem_cons_self
      rw [List.cons_append]
      unfold observeIntents
      rw [outcome_bind]
      have spec := applied ledger config.ledger input intent
      generalize ran : (applyNextBarOpenMarketIntent config.ledger intent input).outcome ledger = result at spec
      have steps := @observeIntent_outcome ledger config input observed intent result ran
      cases spec with
      | rejected error refused => exact absurd ⟨checked, .inl isKnown⟩ refused
      | duplicate _ _ =>
          obtain ⟨next, stepped, _⟩ := steps
          rw [stepped]
          exact @ih next fun other member => known other (List.mem_cons_of_mem _ member)
      | filled _ unknown _ _ _ => exact absurd isKnown unknown
      | broken _ unknown _ _ _ _ => exact absurd isKnown unknown

/-- A list that is not taken as a whole fails, and only a refused first intent leaves nothing behind. -/
theorem observeIntents_fails (sound : Sound ledger)
    (stops : ¬ TakesAll (Checked ledger config.ledger input) (knownIds ledger) intents) :
    ∃ error after, (observeIntents config input intents observed).outcome ledger = (.error error, after) ∧
      ledger.intents.length ≤ after.intents.length ∧
      (after.intents.length = ledger.intents.length →
        RefusesFirst (Checked ledger config.ledger input) (knownIds ledger) intents) := by
  induction intents generalizing ledger observed with
  | nil => exact absurd trivial stops
  | cons intent rest ih =>
      unfold observeIntents
      rw [outcome_bind]
      have spec := applied ledger config.ledger input intent
      generalize ran : (applyNextBarOpenMarketIntent config.ledger intent input).outcome ledger = result at spec
      have steps := @observeIntent_outcome ledger config input observed intent result ran
      have longer : ∀ side, (ledger.recordFill intent input side .market).intents.length = ledger.intents.length + 1 := by
        intro side
        simp [PaperLedgerSnapshot.recordFill]
      cases spec with
      | rejected error refused =>
          rw [steps]
          exact ⟨_, _, rfl, Nat.le_refl _, fun _ => ⟨[], intent, rest, rfl, by simp, refused⟩⟩
      | duplicate checked known =>
          obtain ⟨next, stepped, _⟩ := steps
          rw [stepped]
          have restStops : ¬ TakesAll (Checked ledger config.ledger input) (knownIds ledger) rest := by
            intro takes
            exact stops ⟨checked, by rw [if_pos known]; exact takes⟩
          obtain ⟨error, after, failed, grown, first⟩ := @ih ledger next sound restStops
          refine ⟨error, after, failed, grown, fun same => ?_⟩
          obtain ⟨taken, refused, behind, split, areKnown, isRefused⟩ := first same
          refine ⟨intent :: taken, refused, behind, by rw [split, List.cons_append], ?_, isRefused⟩
          intro other member
          rcases List.mem_cons.1 member with rfl | later
          · exact ⟨checked, known⟩
          · exact areKnown other later
      | filled checked unknown marketable side valid =>
          obtain ⟨next, stepped, _⟩ := steps
          rw [stepped]
          have apart : WrittenApart (knownIds ledger) intent.intentId := by
            by_contra alike
            exact sound.recordFill_fails alike .market valid
          have restStops : ¬ TakesAll (Checked ledger config.ledger input)
              (knownIds (ledger.recordFill intent input side .market)) rest := by
            rw [knownIds_recordFill]
            intro takes
            exact stops ⟨checked, by rw [if_neg unknown]; exact ⟨marketable, apart, takes⟩⟩
          obtain ⟨error, after, failed, grown, _⟩ := @ih _ next (sound.recordFill checked apart side .market) restStops
          rw [longer] at grown
          exact ⟨error, after, failed, by omega, fun same => by omega⟩
      | broken _ _ _ side error _ =>
          rw [steps]
          exact ⟨_, _, rfl, by rw [longer]; omega, fun same => by rw [longer] at same; omega⟩

end Intents

end TradingGateway.BrokerCore.PaperLedgerProperties
