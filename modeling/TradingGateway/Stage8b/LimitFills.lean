import TradingGateway.Stage8b.WorkingLimitRuns

/-! Bars offered to a working LIMIT order, one after another: which of them fills it, and at what price. -/

set_option autoImplicit false

namespace TradingGateway.Stage8b.LimitFills

open BrokerCore.FixedPoint BrokerCore.Identifiers BrokerCore.OperationalSnapshot BrokerCore.Orders
open Stage6.JournalRecord
open WorkingLimitBook WorkingLimitBook.Stage8bP1d3WorkingBookProjectionV1 WorkingLimitBuilders
open WorkingLimitEvidence WorkingLimitInputs WorkingLimitProjections WorkingLimitRuns
open PlainWorkingLimitCodec
open Foundation.ExceptRun Foundation.Runs

def Reaches (side : OrderSide) (limit : Decimal) (bar : Stage8bP1d3CanonicalM10Evidence) : Prop :=
  match side with
  | .buy => bar.low ≤ limit
  | .sell => limit ≤ bar.high

def NoWorse (side : OrderSide) (limit price : Decimal) : Prop :=
  match side with
  | .buy => price ≤ limit
  | .sell => limit ≤ price

section Decision

variable {side : OrderSide} {limit : Decimal} {bar : Stage8bP1d3CanonicalM10Evidence}

theorem validateBar_range (checked : validateBar bar = .ok ()) :
    bar.low ≤ bar.opened ∧ bar.opened ≤ bar.high := by
  unfold validateBar at checked
  obtain ⟨_, checked⟩ := check_bind_ok_iff.1 checked
  simp only [rejectIf_ok_iff, not_or, Decimal.lt_iff, Int.not_lt] at checked
  obtain ⟨_, _, _, _, _, above, below, _⟩ := checked
  unfold decimalMax at above
  unfold decimalMin at below
  rw [Decimal.le_iff, Decimal.le_iff]
  split at above
  · rename_i order
    rw [if_pos order] at below
    rw [Decimal.le_iff] at order
    omega
  · rename_i order
    rw [if_neg order] at below
    rw [Decimal.le_iff] at order
    omega

/-- A bar that reaches the limit fills it within the bar, and not worse than the limit. -/
theorem decideLimit_ok {decision : Stage8bP1d3LimitDecision} {fill : Option Decimal}
    (decided : decideLimit side limit bar = .ok (decision, fill)) :
    (decision = .working ∧ ¬ Reaches side limit bar) ∨
      (decision = .filled ∧ Reaches side limit bar ∧
        ∃ price, fill = some price ∧ bar.low ≤ price ∧ price ≤ bar.high ∧ NoWorse side limit price) := by
  unfold decideLimit at decided
  obtain ⟨checked, decided⟩ := check_bind_ok_iff.1 decided
  obtain ⟨_, decided⟩ := check_bind_ok_iff.1 decided
  obtain ⟨low, high⟩ := validateBar_range checked
  simp only [Decimal.le_iff] at low high
  cases side with
  | buy =>
      dsimp only at decided
      unfold Reaches NoWorse
      simp only [Decimal.le_iff]
      split at decided
      · rename_i unreached
        cases decided
        exact .inl ⟨rfl, Int.not_le.2 unreached⟩
      · rename_i reached
        cases decided
        rw [Decimal.lt_iff, Int.not_lt] at reached
        refine .inr ⟨rfl, reached, _, rfl, ?_⟩
        split
        · rename_i gap
          exact ⟨low, high, Int.le_of_lt gap⟩
        · rename_i gap
          rw [Decimal.lt_iff, Int.not_lt] at gap
          exact ⟨reached, Int.le_trans gap high, Int.le_refl _⟩
  | sell =>
      dsimp only at decided
      unfold Reaches NoWorse
      simp only [Decimal.le_iff]
      split at decided
      · rename_i unreached
        cases decided
        exact .inl ⟨rfl, Int.not_le.2 unreached⟩
      · rename_i reached
        cases decided
        rw [Decimal.lt_iff, Int.not_lt] at reached
        refine .inr ⟨rfl, reached, _, rfl, ?_⟩
        split
        · rename_i gap
          exact ⟨low, high, Int.le_of_lt gap⟩
        · rename_i gap
          rw [Decimal.lt_iff, Int.not_lt] at gap
          exact ⟨Int.le_trans low gap, reached, Int.le_refl _⟩

end Decision

structure Offer where
  input : Stage8bP1d3AutonomousInput
  bar : Stage8bP1d3CanonicalM10Evidence
  step : Stage8bP1d3ScheduleStepAuthority
  plan : Stage8bP1d3LaterEvaluationPlan

def Offers (codec : WorkingLimitCodec) (book : Stage8bP1d3WorkingBookProjectionV1) (offer : Offer)
    (post : Stage8bP1d3WorkingBookProjectionV1) : Prop :=
  buildLaterLimitTransition codec book offer.input (some offer.bar) (some offer.step) none = .ok offer.plan ∧
    (StepResult.ofLater offer.plan).postBook = post

structure SameOrder (record next : Stage8bP1d3OrderRecordV1) : Prop where
  active : next.lifecycle = .active
  working : next.status = .working
  brokerOrderId : next.brokerOrderId = record.brokerOrderId
  side : next.side = record.side
  qty : next.qtyDecimalBytes = record.qtyDecimalBytes
  limit : next.limitPriceDecimalBytes = record.limitPriceDecimalBytes

/-- Behind the bar the order works on, and the bar is the one it was last evaluated on: offered
again, it changes nothing. -/
structure WorksOn (codec : WorkingLimitCodec) (record : Stage8bP1d3OrderRecordV1)
    (bar : Stage8bP1d3CanonicalM10Evidence) (post : Stage8bP1d3WorkingBookProjectionV1) : Prop where
  works : ∃ next, post.activeRecord = some next ∧ SameOrder record next ∧
    next.lastEvaluatedM10RedisId = some bar.redisId
  again : ∀ input step, validateAutonomousInput post input = .ok () →
    buildLaterLimitTransition codec post input (some bar) (some step) none = .ok (.alreadyEvaluated post)

/-- The bar fills the whole order within its prices and not worse than the limit, and that ends the order. -/
structure FilledBy (codec : WorkingLimitCodec) (record : Stage8bP1d3OrderRecordV1)
    (bar : Stage8bP1d3CanonicalM10Evidence) (limit qty price : Decimal) (plan : Stage8bP1d3TransitionPlan) :
    Prop where
  kind : plan.evidence.outcomeKind = .laterFilled
  order : plan.evidence.brokerOrderId = record.brokerOrderId
  priced : plan.evidence.fillPriceDecimalBytes = some (codec.decimalSerialize price)
  within : bar.low ≤ price ∧ price ≤ bar.high
  noWorse : NoWorse record.side limit price
  traded : ∃ truth order trade, plan.truth = some truth ∧ truth.orders = [order] ∧ order.status = .filled ∧
    order.filledQty = qty ∧ truth.trades = [trade] ∧ trade.qty = qty ∧ trade.price = price
  row : ∃ row, plan.postBook.record record.brokerOrderId = some row ∧ row.status = .filled ∧
    row.lifecycle = .terminal ∧ row.filledQtyDecimalBytes = codec.decimalSerialize qty ∧
    row.remainingQtyDecimalBytes = codec.decimalSerialize Decimal.zero
  ends : plan.postBook.activeRecord = none

section Offer

variable {codec : WorkingLimitCodec} {book post : Stage8bP1d3WorkingBookProjectionV1}
  {record : Stage8bP1d3OrderRecordV1} {bar : Stage8bP1d3CanonicalM10Evidence}
  {step : Stage8bP1d3ScheduleStepAuthority}

/-- An active record of a valid book can be read, and works. -/
theorem exists_terms (facts : RegistryFacts codec book) (member : record ∈ book.records)
    (isActive : record.lifecycle = .active) :
    record.status = .working ∧
      ∃ limit qty, record.limitPrice codec = .ok limit ∧ record.qty codec = .ok qty := by
  have valid := facts.valid record member
  unfold Stage8bP1d3OrderRecordV1.validate at valid
  obtain ⟨qty, quantity, valid⟩ := bind_ok_iff.1 valid
  obtain ⟨limit, price, valid⟩ := bind_ok_iff.1 valid
  obtain ⟨filled, _, valid⟩ := bind_ok_iff.1 valid
  obtain ⟨remaining, _, valid⟩ := bind_ok_iff.1 valid
  obtain ⟨_, valid⟩ := check_bind_ok_iff.1 valid
  obtain ⟨_, valid⟩ := check_bind_ok_iff.1 valid
  obtain ⟨_, valid⟩ := check_bind_ok_iff.1 valid
  obtain ⟨_, valid⟩ := check_bind_ok_iff.1 valid
  simp only [rejectIf_ok_iff, not_not] at valid
  refine ⟨?_, limit, qty, price, quantity⟩
  rcases valid with ⟨working, _⟩ | ⟨_, ended, _⟩ | ⟨_, ended, _⟩
  · exact working
  · rw [isActive] at ended
    cases ended
  · rw [isActive] at ended
    cases ended

theorem exactTruthFromRecord_filled {order : BrokerOrderSnapshot} {tradeId : BrokerTradeId}
    {price prePositionQty qty : Decimal} {prePositionAvgPrice : Option Decimal} {timestamp : DateTimeUtc}
    {truth : BrokerTruthSnapshot} (quantity : record.qty codec = .ok qty)
    (projects : exactTruthFromRecord codec record order (some tradeId) (some price) prePositionQty
      prePositionAvgPrice timestamp = .ok truth) :
    truth.orders = [order] ∧ ∃ trade, truth.trades = [trade] ∧ trade.qty = qty ∧ trade.price = price := by
  unfold exactTruthFromRecord at projects
  obtain ⟨fill, filled, projects⟩ := bind_ok_iff.1 projects
  simp only [zip, Option.mapM_some, quantity, map_ok_iff] at filled
  obtain ⟨fillTruth, made, rfl⟩ := filled
  cases made
  unfold truthOf at projects
  obtain ⟨positions, _, projects⟩ := bind_ok_iff.1 projects
  cases projects
  exact ⟨rfl, FillTruth.trade _, rfl, rfl, rfl⟩

/-- A fill at a price of the bar that is not worse than the limit fills the order. -/
theorem filledBy_of_built {input : Stage8bP1d3AutonomousInput} {limit qty price : Decimal}
    {plan : Stage8bP1d3TransitionPlan} (facts : RegistryFacts codec book) (member : record ∈ book.records)
    (isActive : record.lifecycle = .active) (quantity : record.qty codec = .ok qty)
    (within : bar.low ≤ price ∧ price ≤ bar.high) (noWorse : NoWorse record.side limit price)
    (built : buildAutonomousOutcome codec book input record (.filled bar step (some price)) = .ok plan) :
    FilledBy codec record bar limit qty price plan := by
  have inactive : plan.postBook.activeRecord = none :=
    Option.eq_none_iff_forall_ne_some.2 fun _ => outcome_inactive facts member isActive built
  obtain ⟨ended, seqTruth, timestamp, receipt, qty', limit', truth, inserted, preBookSha256, made⟩ :=
    buildAutonomousOutcome_ok built
  have ends := made.ends
  unfold autonomousEnd at ends
  obtain ⟨fill, _, ends⟩ := bind_ok_iff.1 ends
  obtain ⟨_, ends⟩ := check_bind_ok_iff.1 ends
  obtain ⟨whole, isWhole, ends⟩ := bind_ok_iff.1 ends
  rw [quantity] at isWhole
  cases isWhole
  cases ends
  have written := written_of_advance made.inserts made.isSealed.advances
  have located := (registry_of_validate written.valid).record_of_mem written.mem_record
  obtain ⟨orders, trade, trades, sameQty, samePrice⟩ := exactTruthFromRecord_filled quantity made.projects
  exact {
    kind := by rw [made.isSealed.evidenceIs]; rfl
    order := by rw [made.isSealed.evidenceIs]; rfl
    priced := by rw [made.isSealed.evidenceIs]; rfl
    within := within
    noWorse := noWorse
    traded := ⟨truth, _, trade, made.isSealed.truthIs, orders, rfl, rfl, trades, sameQty, samePrice⟩
    row := ⟨_, located, rfl, rfl, rfl, rfl⟩
    ends := inactive }

/-- A bar that was the last one evaluated changes nothing. -/
theorem evaluated_again {input : Stage8bP1d3AutonomousInput} (valid : book.validate codec = .ok ())
    (checked : validateAutonomousInput book input = .ok ()) (active : book.activeRecord = some record)
    (barScoped : validateScopedBar book bar = .ok ()) (last : record.lastEvaluatedM10RedisId = some bar.redisId)
    (semantic : record.lastEvaluatedM10SemanticIdSha256 = some bar.semanticIdSha256)
    (payload : record.lastEvaluatedM10PayloadSha256 = some bar.payloadSha256)
    (close : record.lastEvaluatedCloseTsUtcMs = some bar.closeTsUtcMs) :
    buildLaterLimitTransition codec book input (some bar) (some step) none = .ok (.alreadyEvaluated book) := by
  unfold buildLaterLimitTransition
  rw [valid, checked, active]
  refine check_bind_ok_iff.2 ⟨rfl, check_bind_ok_iff.2 ⟨rfl, bind_ok_iff.2 ⟨record, rfl, ?_⟩⟩⟩
  refine check_bind_ok_iff.2 ⟨barScoped, ?_⟩
  rw [if_pos last]
  unfold alreadyEvaluated
  refine check_bind_ok_iff.2 ⟨?_, rfl⟩
  simp [semantic, payload, close]

/-- An evaluation that leaves the order alone makes the bar its last one. -/
theorem worksOn_of_built {input : Stage8bP1d3AutonomousInput} {plan : Stage8bP1d3LaterEvaluationPlan}
    (facts : RegistryFacts codec book) (member : record ∈ book.records) (isActive : record.lifecycle = .active)
    (barScoped : validateScopedBar book bar = .ok ())
    (built : buildUntouchedEvaluation codec book record bar step input.sequenceAllocationFrontier
      input.previousOutcomeEvidenceSha256 = .ok plan) :
    ∃ evidence bytes post, plan = .untouched evidence bytes post ∧ WorksOn codec record bar post := by
  obtain ⟨ordinal, inserted, evidence, bytes, post, rfl, insertion, advanced⟩ := buildUntouchedEvaluation_ok built
  have written : Written codec book _ _ post := written_of_advance insertion advanced
  have postScoped : validateScopedBar post bar = .ok () := by
    obtain ⟨_, _, _, rfl⟩ := advance_ok advanced
    unfold insertOrReplace at insertion
    obtain ⟨_, insertion⟩ := check_bind_ok_iff.1 insertion
    cases insertion
    exact barScoped
  have active := (registry_of_validate written.valid).activeRecord_of_mem written.mem_record isActive
  have working := (exists_terms facts member isActive).1
  refine ⟨evidence, bytes, post, rfl, ⟨_, active, ?_, rfl⟩, ?_⟩
  · exact {
      active := isActive
      working := working
      brokerOrderId := rfl
      side := rfl
      qty := rfl
      limit := rfl }
  · intro input step checked
    exact evaluated_again written.valid checked active postScoped rfl rfl rfl rfl

end Offer

/-- What comes of an offer to a working order: the bar is the one it was last evaluated on, or a new bar
that does not reach the limit, or a new bar that does. -/
inductive Answered (codec : WorkingLimitCodec) (book : Stage8bP1d3WorkingBookProjectionV1)
    (record : Stage8bP1d3OrderRecordV1) (limit qty : Decimal) (offer : Offer)
    (post : Stage8bP1d3WorkingBookProjectionV1) : Prop where
  | again (same : record.lastEvaluatedM10RedisId = some offer.bar.redisId)
      (plan : offer.plan = .alreadyEvaluated book) (unchanged : post = book)
  | untouched {evidence : Stage8bP1d3EvaluationEvidenceV1} {bytes : List UInt8}
      (isNew : record.lastEvaluatedM10RedisId ≠ some offer.bar.redisId)
      (behind : record.lastEvaluatedM10RedisId = some offer.step.predecessorRedisId)
      (unreached : ¬ Reaches record.side limit offer.bar) (plan : offer.plan = .untouched evidence bytes post)
      (worksOn : WorksOn codec record offer.bar post)
  | filled {plan : Stage8bP1d3TransitionPlan} {price : Decimal}
      (isNew : record.lastEvaluatedM10RedisId ≠ some offer.bar.redisId)
      (behind : record.lastEvaluatedM10RedisId = some offer.step.predecessorRedisId)
      (reached : Reaches record.side limit offer.bar) (outcome : offer.plan = .outcome plan)
      (postBook : post = plan.postBook) (fill : FilledBy codec record offer.bar limit qty price plan)

section Offered

variable {codec : WorkingLimitCodec} {book post : Stage8bP1d3WorkingBookProjectionV1}
  {record : Stage8bP1d3OrderRecordV1} {offer : Offer}

theorem Offers.valid (offered : Offers codec book offer post) :
    book.validate codec = .ok () ∧ ∃ record, book.activeRecord = some record := by
  obtain ⟨built, _⟩ := offered
  obtain ⟨record, valid, _, active, _⟩ := buildLaterLimitTransition_ok built
  exact ⟨valid, record, active⟩

theorem Offers.answered (offered : Offers codec book offer post) (active : book.activeRecord = some record) :
    ∃ limit qty, record.limitPrice codec = .ok limit ∧ record.qty codec = .ok qty ∧
      Answered codec book record limit qty offer post := by
  obtain ⟨valid, _⟩ := offered.valid
  have facts := registry_of_validate valid
  obtain ⟨member, isActive⟩ := facts.activeRecord active
  obtain ⟨_, limit, qty, price, quantity⟩ := exists_terms facts member isActive
  refine ⟨limit, qty, price, quantity, ?_⟩
  obtain ⟨built, rfl⟩ := offered
  unfold buildLaterLimitTransition at built
  obtain ⟨_, built⟩ := check_bind_ok_iff.1 built
  obtain ⟨checked, built⟩ := check_bind_ok_iff.1 built
  obtain ⟨found, isFound, built⟩ := bind_ok_iff.1 built
  rw [orReject_ok_iff, active] at isFound
  cases isFound
  dsimp only at built
  obtain ⟨barScoped, built⟩ := check_bind_ok_iff.1 built
  split at built
  · rename_i same
    unfold alreadyEvaluated at built
    obtain ⟨_, built⟩ := check_bind_ok_iff.1 built
    have plan : offer.plan = .alreadyEvaluated book := (Except.ok.inj built).symm
    rw [plan]
    exact .again same plan rfl
  · rename_i isNew
    unfold evaluateCandidate at built
    obtain ⟨predecessor, last, built⟩ := bind_ok_iff.1 built
    obtain ⟨stepped, built⟩ := check_bind_ok_iff.1 built
    obtain ⟨limit', price', built⟩ := bind_ok_iff.1 built
    rw [price] at price'
    cases price'
    obtain ⟨⟨decision, fill⟩, decided, built⟩ := bind_ok_iff.1 built
    have behind : record.lastEvaluatedM10RedisId = some offer.step.predecessorRedisId := by
      unfold validateWorkingStep validateStepOn at stepped
      obtain ⟨_, stepped⟩ := check_bind_ok_iff.1 stepped
      unfold validateStepIdentity at stepped
      obtain ⟨identity, _⟩ := check_bind_ok_iff.1 stepped
      simp only [rejectIf_ok_iff, not_or, not_not] at identity
      rw [(orReject_ok_iff ..).1 last, identity.2.1]
    rcases decideLimit_ok decided with ⟨rfl, unreached⟩ | ⟨rfl, reached, fillPrice, rfl, low, high, noWorse⟩
    · obtain ⟨evidence, bytes, next, plan, worksOn⟩ := worksOn_of_built facts member isActive barScoped built
      rw [plan]
      exact .untouched isNew behind unreached plan worksOn
    · obtain ⟨plan, outcome, isPlan⟩ := (map_ok_iff ..).1 built
      rw [← isPlan]
      exact .filled isNew behind reached isPlan.symm rfl
        (filledBy_of_built facts member isActive quantity ⟨low, high⟩ noWorse outcome)

/-- Behind a fill no bar is accepted. -/
theorem not_offers_of_ended (ended : book.activeRecord = none) : ¬ Offers codec book offer post := by
  intro offered
  obtain ⟨_, record, active⟩ := offered.valid
  rw [ended] at active
  cases active

end Offered

/-- The bar a working order was last evaluated on, behind the bars that were offered to it. -/
def lastOffered (record : Stage8bP1d3OrderRecordV1) (offers : List Offer) : Option String :=
  match offers.getLast? with
  | some offer => some offer.bar.redisId
  | none => record.lastEvaluatedM10RedisId

def subject : Stage8bP1d3LaterEvaluationPlan → Option BrokerOrderId
  | .alreadyEvaluated book => book.activeBrokerOrderId
  | .untouched evidence _ _ => some evidence.brokerOrderId
  | .outcome plan => some plan.evidence.brokerOrderId

/-- Every offer of a run finds the order working, and is answered; a fill is the last of them. Of an
ended order there is no later plan. -/
structure FillsOnce (codec : WorkingLimitCodec) (book : Stage8bP1d3WorkingBookProjectionV1)
    (record : Stage8bP1d3OrderRecordV1) (offers : List Offer) : Prop where
  answers : ∀ before offer after, offers = before ++ offer :: after →
    ∃ middle post working limit qty, Run (Offers codec) book before middle ∧ Offers codec middle offer post ∧
      middle.activeRecord = some working ∧ SameOrder record working ∧
      working.lastEvaluatedM10RedisId = lastOffered record before ∧
      record.limitPrice codec = .ok limit ∧ record.qty codec = .ok qty ∧
      Answered codec middle working limit qty offer post ∧ ∀ plan, offer.plan = .outcome plan → after = []
  ended : ∀ (later : Stage8bP1d3WorkingBookProjectionV1) (row : Stage8bP1d3OrderRecordV1),
    later.record record.brokerOrderId = some row → row.lifecycle = .terminal →
      ∀ input candidate step expiry plan,
        buildLaterLimitTransition codec later input candidate step expiry = .ok plan →
          subject plan ≠ some record.brokerOrderId

section Run

variable {codec : WorkingLimitCodec} {book last : Stage8bP1d3WorkingBookProjectionV1}
  {record next : Stage8bP1d3OrderRecordV1} {offers : List Offer}

theorem SameOrder.trans {later : Stage8bP1d3OrderRecordV1} (first : SameOrder record next)
    (second : SameOrder next later) : SameOrder record later :=
  { active := second.active
    working := second.working
    brokerOrderId := second.brokerOrderId.trans first.brokerOrderId
    side := second.side.trans first.side
    qty := second.qty.trans first.qty
    limit := second.limit.trans first.limit }

theorem lastOffered_cons {offer : Offer} (same : next.lastEvaluatedM10RedisId = some offer.bar.redisId) :
    lastOffered record (offer :: offers) = lastOffered next offers := by
  unfold lastOffered
  cases offers with
  | nil => exact same.symm
  | cons second offers =>
      rw [List.getLast?_cons_cons, List.getLast?_eq_some_getLast (List.cons_ne_nil second offers)]

/-- An order that is still offered bars has worked on through all the ones before. -/
theorem worksOn_run (run : Run (Offers codec) book offers last) (active : book.activeRecord = some record)
    {offer : Offer} {post : Stage8bP1d3WorkingBookProjectionV1} (goesOn : Offers codec last offer post) :
    ∃ working, last.activeRecord = some working ∧ SameOrder record working ∧
      working.lastEvaluatedM10RedisId = lastOffered record offers := by
  induction run generalizing record with
  | nil book =>
      have facts := registry_of_validate goesOn.valid.1
      obtain ⟨member, isActive⟩ := facts.activeRecord active
      exact ⟨record, active, {
        active := isActive
        working := (exists_terms facts member isActive).1
        brokerOrderId := rfl
        side := rfl
        qty := rfl
        limit := rfl }, rfl⟩
  | cons offered rest ih =>
      obtain ⟨limit, qty, _, _, answered⟩ := offered.answered active
      cases answered with
      | again same plan unchanged =>
          subst unchanged
          rw [lastOffered_cons same]
          exact ih active goesOn
      | untouched isNew behind unreached plan worksOn =>
          obtain ⟨next, nextActive, sameOrder, evaluated⟩ := worksOn.works
          obtain ⟨working, isWorking, later, lastId⟩ := ih nextActive goesOn
          rw [lastOffered_cons evaluated]
          exact ⟨working, isWorking, sameOrder.trans later, lastId⟩
      | filled isNew behind reached outcome postBook fill =>
          have ended := fill.ends
          rw [← postBook] at ended
          cases rest with
          | nil => exact absurd goesOn (not_offers_of_ended ended)
          | cons offered _ => exact absurd offered (not_offers_of_ended ended)

theorem untouched_order {candidate : Stage8bP1d3CanonicalM10Evidence} {step : Stage8bP1d3ScheduleStepAuthority}
    {frontier : UInt64} {previous : HexText} {plan : Stage8bP1d3LaterEvaluationPlan}
    (built : buildUntouchedEvaluation codec book record candidate step frontier previous = .ok plan) :
    subject plan = some record.brokerOrderId := by
  unfold buildUntouchedEvaluation at built
  obtain ⟨_, _, built⟩ := bind_ok_iff.1 built
  obtain ⟨_, _, built⟩ := bind_ok_iff.1 built
  obtain ⟨_, _, built⟩ := bind_ok_iff.1 built
  obtain ⟨_, _, built⟩ := bind_ok_iff.1 built
  obtain ⟨_, _, built⟩ := bind_ok_iff.1 built
  cases built
  rfl

/-- A later plan is about the active order of its book. -/
theorem later_subject {input : Stage8bP1d3AutonomousInput} {candidate : Option Stage8bP1d3CanonicalM10Evidence}
    {step : Option Stage8bP1d3ScheduleStepAuthority} {expiry : Option Stage8bP1d3DayExpiryAuthority}
    {plan : Stage8bP1d3LaterEvaluationPlan}
    (built : buildLaterLimitTransition codec book input candidate step expiry = .ok plan) :
    ∃ record ∈ book.records, record.lifecycle = .active ∧ subject plan = some record.brokerOrderId := by
  obtain ⟨record, valid, _, active, laterBuilt⟩ := buildLaterLimitTransition_ok built
  have facts := registry_of_validate valid
  obtain ⟨member, isActive⟩ := facts.activeRecord active
  refine ⟨record, member, isActive, ?_⟩
  cases laterBuilt with
  | alreadyEvaluated => exact facts.active record member isActive
  | untouched built => exact untouched_order built
  | @outcome cause plan expires ended =>
      obtain ⟨_, _, _, _, _, _, _, _, _, made⟩ := buildAutonomousOutcome_ok ended
      dsimp only [subject]
      rw [made.isSealed.evidenceIs]
      cases cause <;> rfl

/-- Of an ended order there is no later plan. -/
theorem later_not_of_ended {row : Stage8bP1d3OrderRecordV1} (located : book.record row.brokerOrderId = some row)
    (ended : row.lifecycle = .terminal) {input : Stage8bP1d3AutonomousInput}
    {candidate : Option Stage8bP1d3CanonicalM10Evidence} {step : Option Stage8bP1d3ScheduleStepAuthority}
    {expiry : Option Stage8bP1d3DayExpiryAuthority} {plan : Stage8bP1d3LaterEvaluationPlan}
    (built : buildLaterLimitTransition codec book input candidate step expiry = .ok plan) :
    subject plan ≠ some row.brokerOrderId := by
  obtain ⟨record, member, isActive, isSubject⟩ := later_subject built
  obtain ⟨_, valid, _⟩ := buildLaterLimitTransition_ok built
  intro same
  rw [isSubject, Option.some.injEq] at same
  have found := (registry_of_validate valid).record_of_mem member
  rw [same, located] at found
  cases found
  rw [isActive] at ended
  cases ended

/-- A working LIMIT order works on through every bar that does not reach it, and the first new bar that
does fills it, whole, within the bar and not worse than its price. -/
theorem limit_fills_once (active : book.activeRecord = some record)
    (run : Run (Offers codec) book offers last) : FillsOnce codec book record offers := by
  constructor
  · rintro before offer after rfl
    obtain ⟨middle, front, back⟩ := run.split
    cases back with
    | @cons _ post _ _ _ offered rest =>
        obtain ⟨working, isWorking, sameOrder, lastId⟩ := worksOn_run front active offered
        obtain ⟨limit, qty, price, quantity, answered⟩ := offered.answered isWorking
        have sameLimit : working.limitPrice codec = record.limitPrice codec := by
          unfold Stage8bP1d3OrderRecordV1.limitPrice
          rw [sameOrder.limit]
        have sameQty : working.qty codec = record.qty codec := by
          unfold Stage8bP1d3OrderRecordV1.qty
          rw [sameOrder.qty]
        refine ⟨middle, post, working, limit, qty, front, offered, isWorking, sameOrder, lastId,
          sameLimit ▸ price, sameQty ▸ quantity, answered, ?_⟩
        intro plan outcome
        cases answered with
        | again same plan' unchanged =>
            rw [plan'] at outcome
            cases outcome
        | untouched isNew behind unreached plan' worksOn =>
            rw [plan'] at outcome
            cases outcome
        | filled isNew behind reached outcome' postBook fill =>
            have ended := fill.ends
            rw [← postBook] at ended
            cases rest with
            | nil => rfl
            | cons offered _ => exact absurd offered (not_offers_of_ended ended)
  · intro later row located ended input candidate step expiry plan built
    have named := (mem_of_record located).2
    rw [← named] at located ⊢
    exact later_not_of_ended located ended built

end Run

def offerBars (codec : WorkingLimitCodec) (book : Stage8bP1d3WorkingBookProjectionV1) :
    List (Stage8bP1d3CanonicalM10Evidence × Stage8bP1d3ScheduleStepAuthority) →
      Except Stage8bP1d3Error (List Offer × Stage8bP1d3WorkingBookProjectionV1)
  | [] => .ok ([], book)
  | (bar, step) :: bars => do
      let input : Stage8bP1d3AutonomousInput := {
        operationalIdentitySha256 := book.operationalIdentitySha256
        packageGeneration := book.packageGeneration
        accountId := book.accountId
        instrument := book.instrument
        attribution := book.attribution
        prePositionQty := Decimal.zero
        prePositionAvgPrice := none
        sequenceAllocationFrontier := book.totalSequenceFrontier
        stage6PredecessorFrontierSha256 := sampleHex 0
        stage6ReservedCheckpointSha256 := sampleHex 0
        previousOutcomeEvidenceSha256 := sampleHex 0 }
      let plan ← buildLaterLimitTransition codec book input (some bar) (some step) none
      let (offers, last) ← offerBars codec (StepResult.ofLater plan).postBook bars
      .ok ({ input := input, bar := bar, step := step, plan := plan } :: offers, last)

theorem run_of_offerBars {codec : WorkingLimitCodec} {book last : Stage8bP1d3WorkingBookProjectionV1}
    {bars : List (Stage8bP1d3CanonicalM10Evidence × Stage8bP1d3ScheduleStepAuthority)} {offers : List Offer}
    (offered : offerBars codec book bars = .ok (offers, last)) : Run (Offers codec) book offers last := by
  induction bars generalizing book offers with
  | nil =>
      cases offered
      exact .nil _
  | cons head bars ih =>
      obtain ⟨plan, built, offered⟩ := bind_ok_iff.1 offered
      obtain ⟨⟨rest, end_⟩, continued, offered⟩ := bind_ok_iff.1 offered
      cases offered
      exact .cons ⟨built, rfl⟩ (ih continued)

/-- The order at a hundred, with two bars above it, of which one is offered twice, and one that crosses it. -/
def crossedSample : Option (Stage8bP1d3WorkingBookProjectionV1 × Stage8bP1d3OrderRecordV1 × List Offer ×
    Stage8bP1d3WorkingBookProjectionV1) := do
  let run ← sampleRun (untouchedNext 1) fun _ _ => []
  let record ← run.book.activeRecord
  let (offers, last) ← (offerBars (plainWorkingLimitCodec []) run.book
    [(sampleBar 2 (Decimal.ofNat 101 priceAbove_fits), sampleStep 1 2),
      (sampleBar 2 (Decimal.ofNat 101 priceAbove_fits), sampleStep 1 2),
      (sampleBar 3 (Decimal.ofNat 99 priceBelow_fits), sampleStep 2 3)]).toOption
  some (run.book, record, offers, last)

theorem limit_fills_once_crossed :
    ∃ book record offers last, book.activeRecord = some record ∧
      Run (Offers (plainWorkingLimitCodec [])) book offers last ∧
      offers.length = 3 ∧ last.activeRecord = none ∧ FillsOnce (plainWorkingLimitCodec []) book record offers := by
  have computed : crossedSample.any (fun (_, _, offers, last) =>
      offers.length = 3 ∧ last.activeRecord.isNone = true) = true := by
    decide +kernel
  obtain ⟨⟨book, record, offers, last⟩, found, holds⟩ := (Option.any_eq_true _ _).1 computed
  obtain ⟨three, ended⟩ := of_decide_eq_true holds
  simp only [crossedSample, Option.bind_eq_bind, Option.bind_eq_some_iff, toOption_eq_some_iff, Prod.exists] at found
  obtain ⟨run, _, active, isActive, allOffers, lastBook, offered, found⟩ := found
  cases found
  have accepted := run_of_offerBars offered
  exact ⟨_, _, _, _, isActive, accepted, three, Option.isNone_iff_eq_none.1 ended,
    limit_fills_once isActive accepted⟩

end TradingGateway.Stage8b.LimitFills
