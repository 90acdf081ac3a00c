import TradingGateway.BrokerCore.AccountSummary
import TradingGateway.BrokerCore.DecimalArithmetic

/-! What a snapshot is asked for in sums and products of its decimals, and where these abort. -/

set_option autoImplicit false

namespace TradingGateway.BrokerCore.OperationalSnapshot

open FixedPoint Orders Foundation.ExceptRun

inductive BrokerMarginSufficiency where
  | sufficient
  | insufficient
  | missingCashSnapshot
  | missingFreeCash
deriving DecidableEq

inductive BrokerRequiredMarginFailure where
  | missingInstrumentSpec
  | missingInitialMargin
  | invalidQuantity
  | invalidReferencePrice
deriving DecidableEq

inductive BrokerRequiredMargin where
  | derived (amount : Decimal)
  | missing (failure : BrokerRequiredMarginFailure)
deriving DecidableEq

inductive BrokerOrderMarginSufficiency where
  | sufficient (requiredMargin : Decimal)
  | insufficient (requiredMargin : Decimal)
  | missingCashSnapshot
  | missingFreeCash
  | missingInstrumentSpec
  | missingInitialMargin
  | invalidQuantity
  | invalidReferencePrice
deriving DecidableEq

def BrokerCashSnapshot.marginSufficiencyForRequiredMargin (cash : BrokerCashSnapshot) (requiredMargin : Decimal) :
    BrokerMarginSufficiency :=
  match cash.freeCash with
  | some freeCash => if requiredMargin ≤ freeCash then .sufficient else .insufficient
  | none => .missingFreeCash

def BrokerInstrumentSpec.initialMargin (spec : BrokerInstrumentSpec) : OrderSide → Option Decimal
  | .buy => spec.longInitialMargin
  | .sell => spec.shortInitialMargin

namespace BrokerTruthSnapshot

variable (truth : BrokerTruthSnapshot)

def positionQuantities (instrument : InstrumentId) : List Quantity :=
  (truth.positions.filter (·.matchesInstrument instrument)).map (·.qty)

/-- The position in an instrument; `none` is the overflow abort, here and below. -/
def targetPositionQty (instrument : InstrumentId) : Option Quantity :=
  Decimal.checkedSum (truth.positionQuantities instrument)

def accountOrphanOrders : Option (List BrokerOrderSnapshot) := do
  let judged ← truth.orders.mapM fun order =>
    (truth.orphanReasonsForOrder order).map fun reasons => (order, reasons)
  some ((judged.filter (·.2 ≠ [])).map (·.1))

def marginSufficiencyForOrder (requiredMargin : Decimal) : BrokerMarginSufficiency :=
  match truth.cash with
  | some cash => cash.marginSufficiencyForRequiredMargin requiredMargin
  | none => .missingCashSnapshot

def requiredMarginForOrder (instrument : InstrumentId) (side : OrderSide) (qty : Quantity) (referencePrice : Price) :
    Option BrokerRequiredMargin :=
  if qty ≤ Decimal.zero then some (.missing .invalidQuantity)
  else if referencePrice ≤ Decimal.zero then some (.missing .invalidReferencePrice)
  else
    match truth.instruments.find? (·.matchesInstrumentId instrument) with
    | none => some (.missing .missingInstrumentSpec)
    | some spec =>
        match spec.initialMargin side with
        | none => some (.missing .missingInitialMargin)
        | some initialMargin => do
            let _referenceNotional ← referencePrice.checkedMul qty
            let amount ← initialMargin.checkedMul qty
            some (.derived amount)

def marginSufficiencyForInstrumentOrder (instrument : InstrumentId) (side : OrderSide) (qty : Quantity)
    (referencePrice : Price) : Option BrokerOrderMarginSufficiency := do
  match ← truth.requiredMarginForOrder instrument side qty referencePrice with
  | .missing .missingInstrumentSpec => some .missingInstrumentSpec
  | .missing .missingInitialMargin => some .missingInitialMargin
  | .missing .invalidQuantity => some .invalidQuantity
  | .missing .invalidReferencePrice => some .invalidReferencePrice
  | .derived requiredMargin =>
      match truth.marginSufficiencyForOrder requiredMargin with
      | .sufficient => some (.sufficient requiredMargin)
      | .insufficient => some (.insufficient requiredMargin)
      | .missingCashSnapshot => some .missingCashSnapshot
      | .missingFreeCash => some .missingFreeCash

end BrokerTruthSnapshot

section Returns

variable {truth : BrokerTruthSnapshot}

/-- The trades that account for a filled order never run out of range. -/
def FillWithin (truth : BrokerTruthSnapshot) (order : BrokerOrderSnapshot) : Prop :=
  Decimal.zero < order.filledQty → RunsWithin ((truth.consistentTrades order).map (·.qty))

def MarginWithin (truth : BrokerTruthSnapshot) (instrument : InstrumentId) (side : OrderSide) (qty : Quantity)
    (referencePrice : Price) : Prop :=
  Decimal.zero < qty → Decimal.zero < referencePrice →
    ∀ initialMargin ∈ (truth.instruments.find? (·.matchesInstrumentId instrument)).bind (·.initialMargin side),
      WithinRange (referencePrice.units * qty.units) 56 ∧ WithinRange (initialMargin.units * qty.units) 56

theorem matchingTradeReasons_isSome_iff (order : BrokerOrderSnapshot) :
    (truth.matchingTradeReasons order).isSome = true ↔
      RunsWithin ((truth.consistentTrades order).map (·.qty)) := by
  rw [← Decimal.checkedSum_isSome_iff]
  unfold BrokerTruthSnapshot.matchingTradeReasons Decimal.checkedSum BrokerTruthSnapshot.consistentTrades
  dsimp only
  by_cases unmatched : truth.tradesMatchingOrderIdentity order = []
  · simp [unmatched]
  · rw [if_neg unmatched, bind_some_isSome]

theorem orphanReasonsForOrder_isSome_iff (order : BrokerOrderSnapshot) :
    (truth.orphanReasonsForOrder order).isSome = true ↔ FillWithin truth order := by
  unfold BrokerTruthSnapshot.orphanReasonsForOrder FillWithin
  rw [← matchingTradeReasons_isSome_iff]
  dsimp only
  by_cases filled : Decimal.zero < order.filledQty
  · rw [if_pos filled, bind_some_isSome]
    exact ⟨fun found _ => found, fun found => found filled⟩
  · rw [if_neg filled]
    exact iff_of_true rfl fun impossible => absurd impossible filled

theorem accountOrphanOrders_isSome_iff :
    truth.accountOrphanOrders.isSome = true ↔ ∀ order ∈ truth.orders, FillWithin truth order := by
  unfold BrokerTruthSnapshot.accountOrphanOrders
  rw [bind_some_isSome, mapM_isSome_iff]
  simp only [Option.isSome_map, orphanReasonsForOrder_isSome_iff]

/-- The orphans are counted as they are listed. -/
theorem accountOrphanOrderCount_eq :
    truth.accountOrphanOrderCount = truth.accountOrphanOrders.map List.length := by
  unfold BrokerTruthSnapshot.accountOrphanOrderCount BrokerTruthSnapshot.accountOrphanOrders
  rw [mapM_pairs]
  cases truth.orders.mapM fun order =>
      (truth.orphanReasonsForOrder order).map fun reasons => (order, reasons) with
  | none => rfl
  | some judged => simp [List.filter_map, Function.comp_def]

theorem summarizeForInstrument_isSome_iff (instrument : InstrumentId) :
    (truth.summarizeForInstrument instrument).isSome = true ↔
      ∀ order ∈ truth.orders, FillWithin truth order := by
  unfold BrokerTruthSnapshot.summarizeForInstrument
  rw [bind_some_isSome, accountOrphanOrderCount_eq, Option.isSome_map, accountOrphanOrders_isSome_iff]

theorem requiredMarginForOrder_isSome_iff (instrument : InstrumentId) (side : OrderSide) (qty : Quantity)
    (referencePrice : Price) :
    (truth.requiredMarginForOrder instrument side qty referencePrice).isSome = true ↔
      MarginWithin truth instrument side qty referencePrice := by
  unfold BrokerTruthSnapshot.requiredMarginForOrder MarginWithin
  by_cases noQty : qty ≤ Decimal.zero
  · rw [if_pos noQty]
    refine iff_of_true rfl fun positive => ?_
    simp only [Decimal.le_iff, Decimal.lt_iff] at noQty positive
    omega
  by_cases noPrice : referencePrice ≤ Decimal.zero
  · rw [if_neg noQty, if_pos noPrice]
    refine iff_of_true rfl fun _ positive => ?_
    simp only [Decimal.le_iff, Decimal.lt_iff] at noPrice positive
    omega
  have positiveQty : Decimal.zero < qty := by simpa using noQty
  have positivePrice : Decimal.zero < referencePrice := by simpa using noPrice
  rw [if_neg noQty, if_neg noPrice]
  simp only [positiveQty, positivePrice, forall_const]
  cases truth.instruments.find? (·.matchesInstrumentId instrument) with
  | none => simp
  | some spec =>
      rw [Option.bind_some]
      dsimp only
      cases spec.initialMargin side with
      | none => simp
      | some initialMargin =>
          simp only [Option.mem_some_iff, forall_eq', ← Decimal.checkedMul_isSome_iff]
          cases referencePrice.checkedMul qty with
          | none => simp
          | some notional => cases initialMargin.checkedMul qty <;> simp

theorem marginSufficiencyForInstrumentOrder_isSome_iff (instrument : InstrumentId) (side : OrderSide)
    (qty : Quantity) (referencePrice : Price) :
    (truth.marginSufficiencyForInstrumentOrder instrument side qty referencePrice).isSome = true ↔
      MarginWithin truth instrument side qty referencePrice := by
  rw [← requiredMarginForOrder_isSome_iff]
  unfold BrokerTruthSnapshot.marginSufficiencyForInstrumentOrder
  cases truth.requiredMarginForOrder instrument side qty referencePrice with
  | none => rfl
  | some required =>
      cases required with
      | missing failure => cases failure <;> rfl
      | derived requiredMargin =>
          refine iff_of_true ?_ rfl
          rw [Option.bind_eq_bind, Option.bind_some]
          dsimp only
          cases truth.marginSufficiencyForOrder requiredMargin <;> rfl

structure Answers (truth : BrokerTruthSnapshot) (instrument : InstrumentId) (side : OrderSide) (qty : Quantity)
    (referencePrice : Price) : Prop where
  position : (truth.targetPositionQty instrument).isSome = true
  orphans : truth.accountOrphanOrders.isSome = true
  summary : (truth.summarizeForInstrument instrument).isSome = true
  margin : (truth.marginSufficiencyForInstrumentOrder instrument side qty referencePrice).isSome = true

structure AnswersWithin (truth : BrokerTruthSnapshot) (instrument : InstrumentId) (side : OrderSide)
    (qty : Quantity) (referencePrice : Price) : Prop where
  positions : RunsWithin (truth.positionQuantities instrument)
  fills : ∀ order ∈ truth.orders, FillWithin truth order
  margin : MarginWithin truth instrument side qty referencePrice

theorem answers_iff (instrument : InstrumentId) (side : OrderSide) (qty : Quantity) (referencePrice : Price) :
    Answers truth instrument side qty referencePrice ↔ AnswersWithin truth instrument side qty referencePrice := by
  constructor
  · intro answers
    exact {
      positions := Decimal.checkedSum_isSome_iff.1 answers.position
      fills := accountOrphanOrders_isSome_iff.1 answers.orphans
      margin := (marginSufficiencyForInstrumentOrder_isSome_iff ..).1 answers.margin }
  · intro within
    exact {
      position := Decimal.checkedSum_isSome_iff.2 within.positions
      orphans := accountOrphanOrders_isSome_iff.2 within.fills
      summary := (summarizeForInstrument_isSome_iff instrument).2 within.fills
      margin := (marginSufficiencyForInstrumentOrder_isSome_iff ..).2 within.margin }

end Returns

end TradingGateway.BrokerCore.OperationalSnapshot
