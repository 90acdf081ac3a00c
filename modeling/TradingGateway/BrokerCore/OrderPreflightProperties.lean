import TradingGateway.BrokerCore.OrderPreflight

/-! Which place orders the preflight check answers: those for which every product
and sum that it reaches stays in the range of a decimal. Its differences and
remainders always do. -/

set_option autoImplicit false

namespace TradingGateway.BrokerCore.OrderPreflight

open FixedPoint Orders Foundation.ExceptRun

theorem computed_avoids_iff {result : Option Decimal} :
    Avoids .panicked (computed result) ↔ result.isSome = true :=
  avoids_orReject_iff

theorem computed_ok_iff {result : Option Decimal} {value : Decimal} :
    computed result = .ok value ↔ result = some value :=
  orReject_ok_iff ..

theorem rejectIf_avoids {condition : Prop} [Decidable condition] {error : OrderPreflightError} :
    Avoids .panicked (rejectIf condition (OrderPreflightHalt.rejected error)) :=
  avoids_rejectIf nofun

theorem mapError_rejected_avoids {Value : Type} {source : Except OrderPreflightError Value} :
    Avoids .panicked (source.mapError OrderPreflightHalt.rejected) :=
  avoids_mapError fun _ => nofun

/-- The step is positive where a remainder is taken. -/
theorem isDecimalMultiple_avoids (value step : Decimal) : Avoids .panicked (isDecimalMultiple value step) := by
  unfold isDecimalMultiple
  split
  next positive => exact avoids_bind_iff.2 ⟨computed_avoids_iff.2 (Decimal.checkedRem_isSome positive), fun _ _ => avoids_ok _⟩
  next => exact avoids_ok false

theorem priceDistance_isSome {limitPrice referencePrice : Price} (limitSign : Decimal.zero < limitPrice)
    (referenceSign : Decimal.zero < referencePrice) : (priceDistance limitPrice referencePrice).isSome = true := by
  have limitAtLeast : Decimal.zero ≤ limitPrice := Int.le_of_lt limitSign
  have referenceAtLeast : Decimal.zero ≤ referencePrice := Int.le_of_lt referenceSign
  unfold priceDistance
  split
  · exact Decimal.checkedSub_isSome limitAtLeast referenceAtLeast
  · exact Decimal.checkedSub_isSome referenceAtLeast limitAtLeast

namespace OrderPreflightPolicy

variable {policy : OrderPreflightPolicy} {order : PlaceOrder} {now : DateTimeUtc} {context : OrderPreflightContext}

theorem requireFreshReference_positive {reference : OrderReferencePrice}
    (fresh : policy.requireFreshReference context now = .ok reference) : Decimal.zero < reference.price := by
  obtain ⟨found, _, fresh⟩ := bind_ok_iff.1 fresh
  obtain ⟨positive, fresh⟩ := check_bind_ok_iff.1 fresh
  obtain ⟨_, same⟩ := check_bind_ok_iff.1 fresh
  cases same
  simpa using positive

/-- An order notional within the limit of one order does not take that of the run out of range. -/
def RunNotionalInRange (policy : OrderPreflightPolicy) (orderNotional currentRunNotional : Decimal) : Prop :=
  (∀ max ∈ policy.maxNotionalPerOrder, orderNotional ≤ max) → policy.maxNotionalPerRun.isSome = true →
    WithinRange (currentRunNotional.units + orderNotional.units) 28

def NotionalInRange (policy : OrderPreflightPolicy) (order : PlaceOrder) (context : OrderPreflightContext)
    (price : Price) : Prop :=
  WithinRange (order.qty.units * price.units) 56 ∧
    ∀ orderNotional ∈ order.qty.checkedMul price, policy.RunNotionalInRange orderNotional context.currentRunNotional

/-- The two products that compare a distance in prices with one in basis points are in range. -/
def DeviationInRange (policy : OrderPreflightPolicy) (limitPrice referencePrice : Price) : Prop :=
  ∀ maxBps ∈ policy.maxLimitDeviationBps, ∀ diff ∈ priceDistance limitPrice referencePrice,
    WithinRange (diff.units * tenThousand.units) 56 ∧
      WithinRange (referencePrice.units * (decimalOfBps maxBps).units) 56

/-- What the checks of a market order reach: its notional at a fresh reference price. -/
def MarketInRange (policy : OrderPreflightPolicy) (order : PlaceOrder) (now : DateTimeUtc)
    (context : OrderPreflightContext) : Prop :=
  order.limitPrice = none → order.qty ≤ policy.maxMarketQty →
    ∀ reference, policy.requireFreshReference context now = .ok reference →
      policy.NotionalInRange order context reference.price

/-- What the checks of a limit order reach: with a band its deviation from a fresh reference price,
and within the band its notional at its own price. -/
def LimitInRange (policy : OrderPreflightPolicy) (order : PlaceOrder) (now : DateTimeUtc)
    (context : OrderPreflightContext) : Prop :=
  ∀ price ∈ order.limitPrice, Decimal.zero < price → ∀ step ∈ policy.priceStep,
    isDecimalMultiple price step = .ok true →
      (∀ reference, policy.requireFreshReference context now = .ok reference →
        policy.DeviationInRange price reference.price) ∧
      (policy.checkBand price now context = .ok () → policy.NotionalInRange order context price)

def ArithmeticInRange (policy : OrderPreflightPolicy) (order : PlaceOrder) (now : DateTimeUtc)
    (context : OrderPreflightContext) : Prop :=
  policy.checkAllowed order now = .ok () → isDecimalMultiple order.qty policy.qtyStep = .ok true →
    match order.orderType with
    | .market => policy.MarketInRange order now context
    | .limit => policy.LimitInRange order now context
    | _ => True

/-- The part of `checkNotional` that is about the whole run. -/
def checkRunNotional (policy : OrderPreflightPolicy) (orderNotional currentRunNotional : Decimal) :
    Except OrderPreflightHalt Unit :=
  match policy.maxNotionalPerRun with
  | none => .ok ()
  | some max => do
      let runNotional ← computed (currentRunNotional.checkedAdd orderNotional)
      rejectIf (max < runNotional) (.rejected .runNotionalOutOfBounds)

theorem checkNotional_avoids_iff (orderNotional currentRunNotional : Decimal) :
    Avoids .panicked (policy.checkNotional orderNotional currentRunNotional) ↔
      policy.RunNotionalInRange orderNotional currentRunNotional := by
  have runPart : Avoids .panicked (policy.checkRunNotional orderNotional currentRunNotional) ↔
      (policy.maxNotionalPerRun.isSome = true →
        WithinRange (currentRunNotional.units + orderNotional.units) 28) := by
    unfold checkRunNotional
    cases policy.maxNotionalPerRun with
    | none => exact iff_of_true (avoids_ok ()) nofun
    | some max =>
        dsimp only
        rw [avoids_bind_iff, computed_avoids_iff, Decimal.checkedAdd_isSome_iff]
        exact (and_iff_left fun _ _ => rejectIf_avoids).trans (by simp)
  unfold checkNotional RunNotionalInRange
  cases policy.maxNotionalPerOrder with
  | none =>
      refine Iff.trans runPart ?_
      simp
  | some max =>
      dsimp only
      rw [avoids_check_bind_iff rejectIf_avoids]
      constructor
      · intro answers bounded
        have below : ¬ max < orderNotional := by simpa using bounded max rfl
        exact runPart.1 (answers () (rejectIf_of_not _ below))
      · intro inRange _ passed
        refine runPart.2 (inRange fun other same => ?_)
        rw [rejectIf_ok_iff] at passed
        cases same
        simpa using passed

/-- The notional of an order, and what it makes of that of the run. -/
theorem notional_avoids_iff (price : Price) :
    Avoids .panicked (computed (order.qty.checkedMul price) >>= fun orderNotional =>
      policy.checkNotional orderNotional context.currentRunNotional) ↔ policy.NotionalInRange order context price := by
  unfold NotionalInRange
  rw [avoids_bind_iff, computed_avoids_iff, Decimal.checkedMul_isSome_iff]
  refine and_congr_right fun _ => forall_congr' fun orderNotional => ?_
  rw [computed_ok_iff, checkNotional_avoids_iff]
  exact Iff.rfl

theorem checkLimitDeviation_avoids_iff {limitPrice referencePrice : Price}
    (limitSign : Decimal.zero < limitPrice) (referenceSign : Decimal.zero < referencePrice) :
    Avoids .panicked (policy.checkLimitDeviation limitPrice referencePrice) ↔
      policy.DeviationInRange limitPrice referencePrice := by
  have distance := priceDistance_isSome limitSign referenceSign
  unfold checkLimitDeviation DeviationInRange
  cases policy.maxLimitDeviationBps with
  | none => exact iff_of_true (avoids_ok ()) nofun
  | some maxBps =>
      dsimp only
      rw [avoids_check_bind_iff (computed_avoids_iff.2 distance)]
      constructor
      · intro answers _ same diff found
        cases same
        have products := answers diff (computed_ok_iff.2 found)
        rw [avoids_bind_iff, computed_avoids_iff, Decimal.checkedMul_isSome_iff] at products
        obtain ⟨scaled, rest⟩ := products
        obtain ⟨value, multiplied⟩ := Option.isSome_iff_exists.1 ((Decimal.checkedMul_isSome_iff _ _).2 scaled)
        have allowed := rest value (computed_ok_iff.2 multiplied)
        rw [avoids_bind_iff, computed_avoids_iff, Decimal.checkedMul_isSome_iff] at allowed
        exact ⟨scaled, allowed.1⟩
      · intro inRange diff found
        obtain ⟨scaled, allowed⟩ := inRange maxBps rfl diff (computed_ok_iff.1 found)
        rw [← Decimal.checkedMul_isSome_iff] at scaled allowed
        refine avoids_bind_iff.2 ⟨computed_avoids_iff.2 scaled, fun _ _ => ?_⟩
        exact avoids_bind_iff.2 ⟨computed_avoids_iff.2 allowed, fun _ _ => rejectIf_avoids⟩

theorem checkMarket_avoids_iff :
    Avoids .panicked (policy.checkMarket order now context) ↔ policy.MarketInRange order now context := by
  unfold checkMarket MarketInRange
  rw [avoids_check_bind_iff rejectIf_avoids]
  constructor
  · intro answers noLimit bounded reference fresh
    have continued := answers () (rejectIf_of_not _ (by simp [noLimit]))
    rw [avoids_check_bind_iff rejectIf_avoids] at continued
    have priced := continued () (rejectIf_of_not _ (by simpa using bounded))
    rw [avoids_check_bind_iff mapError_rejected_avoids] at priced
    exact (notional_avoids_iff reference.price).1 (priced reference ((mapError_ok_iff ..).2 fresh))
  · intro inRange _ noLimit
    refine (avoids_check_bind_iff rejectIf_avoids).2 fun _ bounded => ?_
    refine (avoids_check_bind_iff mapError_rejected_avoids).2 fun reference fresh => ?_
    rw [rejectIf_ok_iff] at noLimit bounded
    exact (notional_avoids_iff reference.price).2 (inRange (by simpa using noLimit) (by simpa using bounded) reference
      ((mapError_ok_iff ..).1 fresh))

/-- Without a band nothing is computed, and nothing has to be in range. -/
theorem checkBand_avoids_iff {price : Price} (positive : Decimal.zero < price) :
    Avoids .panicked (policy.checkBand price now context) ↔
      ∀ reference, policy.requireFreshReference context now = .ok reference →
        policy.DeviationInRange price reference.price := by
  unfold checkBand
  split
  next banded =>
    rw [avoids_check_bind_iff mapError_rejected_avoids]
    refine forall_congr' fun reference => ?_
    rw [mapError_ok_iff]
    refine forall_congr' fun fresh => ?_
    exact checkLimitDeviation_avoids_iff positive (requireFreshReference_positive fresh)
  next unbanded =>
    refine iff_of_true (avoids_ok ()) fun reference _ maxBps found => ?_
    rw [Option.mem_def.1 found] at unbanded
    exact absurd rfl unbanded

theorem checkLimit_avoids_iff :
    Avoids .panicked (policy.checkLimit order now context) ↔ policy.LimitInRange order now context := by
  unfold checkLimit LimitInRange
  have priced : Avoids .panicked (orReject order.limitPrice (OrderPreflightHalt.rejected .limitPriceMissing)) :=
    avoids_orReject nofun
  have stepped : Avoids .panicked (orReject policy.priceStep (OrderPreflightHalt.rejected .referenceDataNotLoaded)) :=
    avoids_orReject nofun
  rw [avoids_check_bind_iff priced]
  refine forall_congr' fun price => ?_
  rw [orReject_ok_iff, avoids_check_bind_iff rejectIf_avoids]
  refine forall_congr' fun _ => ?_
  constructor
  · intro answers positive step found onStep
    have continued := answers () (rejectIf_of_not _ (by simpa using positive))
    rw [avoids_check_bind_iff stepped] at continued
    have aligned := continued step ((orReject_ok_iff ..).2 found)
    rw [avoids_check_bind_iff (isDecimalMultiple_avoids price step)] at aligned
    have banded := aligned true onStep
    rw [avoids_check_bind_iff rejectIf_avoids] at banded
    have both := avoids_bind_iff.1 (banded () (rejectIf_of_not _ (by simp)))
    exact ⟨(checkBand_avoids_iff positive).1 both.1, fun within => (notional_avoids_iff price).1 (both.2 () within)⟩
  · intro inRange _ positive
    refine (avoids_check_bind_iff stepped).2 fun step found => ?_
    refine (avoids_check_bind_iff (isDecimalMultiple_avoids price step)).2 fun onStep multiple => ?_
    refine (avoids_check_bind_iff rejectIf_avoids).2 fun _ passed => ?_
    rw [rejectIf_ok_iff] at positive passed
    have sign : Decimal.zero < price := by simpa using positive
    have holds : onStep = true := by simpa using passed
    rw [holds] at multiple
    obtain ⟨deviation, notional⟩ := inRange sign step ((orReject_ok_iff ..).1 found) multiple
    exact avoids_bind_iff.2 ⟨(checkBand_avoids_iff sign).2 deviation,
      fun _ within => (notional_avoids_iff price).2 (notional within)⟩

theorem validatePlaceOrderWithContext_avoids_iff :
    Avoids .panicked (policy.validatePlaceOrderWithContext order now context) ↔
      policy.ArithmeticInRange order now context := by
  have byType : Avoids .panicked (match order.orderType with
      | .market => policy.checkMarket order now context
      | .limit => policy.checkLimit order now context
      | _ => .error (.rejected .unsupportedOrderType)) ↔
      (match order.orderType with
      | .market => policy.MarketInRange order now context
      | .limit => policy.LimitInRange order now context
      | _ => True) := by
    cases order.orderType with
    | market => exact checkMarket_avoids_iff
    | limit => exact checkLimit_avoids_iff
    | stop | stopLimit | takeProfit | takeProfitLimit => exact iff_of_true (avoids_error_iff.2 nofun) trivial
  unfold validatePlaceOrderWithContext ArithmeticInRange
  rw [avoids_check_bind_iff mapError_rejected_avoids]
  constructor
  · intro answers allowed multiple
    have continued := answers () ((mapError_ok_iff ..).2 allowed)
    rw [avoids_check_bind_iff (isDecimalMultiple_avoids order.qty policy.qtyStep)] at continued
    have typed := continued true multiple
    rw [avoids_check_bind_iff rejectIf_avoids] at typed
    exact byType.1 (typed () (rejectIf_of_not _ (by simp)))
  · intro inRange _ allowed
    refine (avoids_check_bind_iff (isDecimalMultiple_avoids order.qty policy.qtyStep)).2 fun onStep multiple => ?_
    refine (avoids_check_bind_iff rejectIf_avoids).2 fun _ passed => ?_
    rw [rejectIf_ok_iff] at passed
    have holds : onStep = true := by simpa using passed
    rw [holds] at multiple
    exact byType.2 (inRange ((mapError_ok_iff ..).1 allowed) multiple)

/-- The preflight check answers exactly when every product and sum that it reaches stays in range. -/
theorem preflight_answers_iff (policy : OrderPreflightPolicy) (order : PlaceOrder) (now : DateTimeUtc)
    (context : OrderPreflightContext) :
    (policy.validatePlaceOrderWithContext order now context = .ok () ∨
      ∃ error, policy.validatePlaceOrderWithContext order now context = .error (.rejected error)) ↔
        policy.ArithmeticInRange order now context := by
  rw [← validatePlaceOrderWithContext_avoids_iff]
  cases policy.validatePlaceOrderWithContext order now context with
  | ok result => exact iff_of_true (.inl rfl) (avoids_ok ())
  | error halt =>
      cases halt with
      | rejected error => exact iff_of_true (.inr ⟨error, rfl⟩) (avoids_error_iff.2 nofun)
      | panicked =>
          refine iff_of_false ?_ (fun avoids => avoids rfl)
          rintro (impossible | ⟨_, impossible⟩)
          · cases impossible
          · cases impossible

def sampleArm : OperatorArm :=
  { sessionId := "S-1"
    armedUntil := { seconds := 60, nanos := 0 }
    endpointCallsEnabled := true
    oneShot := false
    endpointAttempted := false
    preflightDigest := "D-1" }

/-- One symbol, market orders of one to ten lots, and no limit on notional. -/
def samplePolicy : OrderPreflightPolicy :=
  { allowedAccounts := [{ value := "A-1" }]
    allowedVenueSymbols := ["IMOEXF@RTSX"]
    allowedOrderTypes := [.market]
    allowedTimeInForce := [.day]
    minQty := .ofNat 1 Decimal.one_fits
    qtyStep := .ofNat 1 Decimal.one_fits
    maxQty := .ofNat 10 (by decide)
    priceStep := none
    maxMarketQty := .ofNat 10 (by decide)
    maxNotionalPerOrder := none
    maxNotionalPerRun := none
    maxLimitDeviationBps := none
    maxReferenceAgeMs := 1000
    operatorArm := sampleArm }

def sampleOrder : PlaceOrder :=
  { requestId := { uuid := Vector.replicate 16 0 }
    createdTs := { seconds := 0, nanos := 0 }
    ttlMs := none
    accountId := { value := "A-1" }
    clientOrderId := { value := "C-1" }
    instrument := { symbol := "IMOEXF", venueSymbol := some "IMOEXF@RTSX", exchange := .moex, market := .futures }
    side := .buy
    orderType := .market
    qty := .ofNat 2 Decimal.two_fits
    limitPrice := none
    timeInForce := .day
    comment := none }

/-- Two lots at the largest price there is. -/
theorem largest_price_aborts :
    samplePolicy.validatePlaceOrderWithContext sampleOrder { seconds := 0, nanos := 0 }
      { referencePrice := some { price := .ofNat (2 ^ 96 - 1) (by decide), receivedTs := { seconds := 0, nanos := 0 } }
        currentRunNotional := Decimal.zero } = .error .panicked := by
  decide

end OrderPreflightPolicy

end TradingGateway.BrokerCore.OrderPreflight
