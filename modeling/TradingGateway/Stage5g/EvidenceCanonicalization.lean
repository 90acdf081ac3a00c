import TradingGateway.Foundation.LatestByKey
import TradingGateway.Stage5g.SampleSession

/-! Canonical packages: the order of rows and further copies of trades make no difference,
and two different trades of one id are refused wherever they stand. -/

set_option autoImplicit false

namespace TradingGateway.Stage5g.OrderPosition

open BrokerCore.FixedPoint BrokerCore.Identifiers BrokerCore.OperationalSnapshot BrokerCore.Orders
open Foundation.ExceptRun Foundation.LatestByKey

section Trades

theorem DateTimeUtc.not_after_trans {left middle right : DateTimeUtc} (first : ¬ left.After middle)
    (second : ¬ middle.After right) : ¬ left.After right := by
  simp only [DateTimeUtc.After, not_or, not_and, UInt32.lt_iff_toNat_lt] at *
  omega

theorem DateTimeUtc.eq_of_not_after {left right : DateTimeUtc} (first : ¬ left.After right)
    (second : ¬ right.After left) : left = right := by
  obtain ⟨seconds, nanos⟩ := left
  obtain ⟨otherSeconds, otherNanos⟩ := right
  simp only [DateTimeUtc.After, not_or, not_and, UInt32.lt_iff_toNat_lt] at first second
  obtain rfl : seconds = otherSeconds := by omega
  obtain rfl : nanos = otherNanos := UInt32.toNat_inj.1 (by omega)
  rfl

/-- Trades are observed under their id, fixed in everything but the receipt of the observation. -/
def tradeObservations : Observed BrokerTradeSnapshot String Stage5gCanonicalImmutableTradePayloadV1 where
  key := fun trade => trade.brokerTradeId.value
  payload := canonicalImmutableTradePayloadV1
  later := fun left right => left.receivedTs.After right.receivedTs
  decidesPayload := inferInstance
  decidesLater := fun _ _ => inferInstance
  key_of_payload := by
    intro left right same
    exact congrArg (fun payload => payload.brokerTradeId.value) same
  irrefl := by
    intro trade after
    simp [DateTimeUtc.After] at after
  asymm := by
    intro left right after before
    simp only [DateTimeUtc.After, UInt32.lt_iff_toNat_lt] at after before
    omega
  notLater_trans := fun _ _ _ => DateTimeUtc.not_after_trans
  eq_of_tie := by
    intro left right same notAfter notBefore
    have received := DateTimeUtc.eq_of_not_after notAfter notBefore
    obtain ⟨⟩ := left
    obtain ⟨⟩ := right
    simp only [canonicalImmutableTradePayloadV1, Stage5gCanonicalImmutableTradePayloadV1.mk.injEq] at same
    simp_all

theorem collectTrade_eq : collectTrade = tradeObservations.collect := by
  funext tradesById trade
  unfold collectTrade Observed.collect mergeCanonicalTradeObservationV1 immutableTradePayloadMatches
  cases stored : tradesById[trade.brokerTradeId.value]? with
  | none => simp [tradeObservations, stored]
  | some existing =>
      simp only [tradeObservations, stored]
      by_cases same : canonicalImmutableTradePayloadV1 existing = canonicalImmutableTradePayloadV1 trade
      · by_cases after : trade.receivedTs.After existing.receivedTs <;> simp [same, after]
      · simp [same]

end Trades

section Rows

variable {Value : Type} {toVec : Value → List UInt8}

def ToldApart (toVec : Value → List UInt8) (values : List Value) : Prop :=
  ∀ left ∈ values, ∀ right ∈ values, toVec left = toVec right → left = right

/-- Sorting rows that are told apart forgets their order. -/
theorem canonicalJsonSort_perm {values others : List Value} (apart : ToldApart toVec values)
    (permuted : others.Perm values) : canonicalJsonSort toVec others = canonicalJsonSort toVec values := by
  have trans : ∀ left middle right : Value, (compare (toVec left) (toVec middle)).isLE = true →
      (compare (toVec middle) (toVec right)).isLE = true → (compare (toVec left) (toVec right)).isLE = true :=
    fun _ _ _ first second => Std.TransOrd.isLE_trans first second
  have total : ∀ left right : Value, ((compare (toVec left) (toVec right)).isLE ||
      (compare (toVec right) (toVec left)).isLE) = true := by
    intro left right
    cases compared : compare (toVec left) (toVec right) with
    | lt => rfl
    | eq => rfl
    | gt =>
        have swapped := Std.OrientedOrd.eq_swap (a := toVec right) (b := toVec left)
        rw [swapped, compared]
        rfl
  unfold canonicalJsonSort
  apply List.Perm.eq_of_pairwise _ (List.pairwise_mergeSort trans total others)
    (List.pairwise_mergeSort trans total values)
    (((List.mergeSort_perm others _).trans permuted).trans (List.mergeSort_perm values _).symm)
  intro left right leftMember rightMember first second
  apply apart left (permuted.mem_iff.1 (List.mem_mergeSort.1 leftMember)) right (List.mem_mergeSort.1 rightMember)
  exact Std.LawfulEqOrd.eq_of_compare (Std.OrientedCmp.isLE_antisymm first second)

end Rows

section Packages

variable {codec : OrderPositionCodec}

structure RowsToldApart (codec : OrderPositionCodec) (truth : BrokerTruthSnapshot) : Prop where
  orders : ToldApart codec.orderToVec truth.orders
  positions : ToldApart codec.positionToVec truth.positions
  instruments : ToldApart codec.instrumentToVec truth.instruments
  cash : ∀ cash ∈ truth.cash, ToldApart codec.cashToVec cash.cash

inductive SameCash : Option BrokerCashSnapshot → Option BrokerCashSnapshot → Prop where
  | none : SameCash none none
  | some {cash : BrokerCashSnapshot} {rows : List CashPosition} (permuted : rows.Perm cash.cash) :
      SameCash (some cash) (some { cash with cash := rows })

structure Rearranged (truth other : BrokerTruthSnapshot) : Prop where
  account : other.accountId = truth.accountId
  received : other.receivedTs = truth.receivedTs
  orders : other.orders.Perm truth.orders
  positions : other.positions.Perm truth.positions
  instruments : other.instruments.Perm truth.instruments
  cash : SameCash truth.cash other.cash
  trades : ∃ copies, other.trades.Perm (truth.trades ++ copies) ∧
    ∀ copy ∈ copies, ∃ trade ∈ truth.trades,
      canonicalImmutableTradePayloadV1 copy = canonicalImmutableTradePayloadV1 trade ∧
        ¬ copy.receivedTs.After trade.receivedTs

theorem canonicalizeBrokerTruthSnapshot_rearranged {truth other : BrokerTruthSnapshot}
    (apart : RowsToldApart codec truth) (rearranged : Rearranged truth other) :
    canonicalizeBrokerTruthSnapshot codec other = canonicalizeBrokerTruthSnapshot codec truth := by
  obtain ⟨copies, permuted, isCopy⟩ := rearranged.trades
  have trades : other.trades.foldlM collectTrade ∅ = truth.trades.foldlM collectTrade ∅ := by
    rw [collectTrade_eq]
    exact Observed.foldlM_collect_rearranged permuted isCopy
  have cash : (other.cash.map fun cash => { cash with cash := canonicalJsonSort codec.cashToVec cash.cash }) =
      truth.cash.map fun cash => { cash with cash := canonicalJsonSort codec.cashToVec cash.cash } := by
    have rows := apart.cash
    have same := rearranged.cash
    revert rows same
    generalize truth.cash = left
    generalize other.cash = right
    intro rows same
    cases same with
    | none => rfl
    | some permuted => simp [canonicalJsonSort_perm (rows _ rfl) permuted]
  unfold canonicalizeBrokerTruthSnapshot
  rw [trades, cash, canonicalJsonSort_perm apart.orders rearranged.orders,
    canonicalJsonSort_perm apart.positions rearranged.positions,
    canonicalJsonSort_perm apart.instruments rearranged.instruments]
  obtain ⟨account, orders, positions, cashReport, trades, instruments, received⟩ := truth
  obtain ⟨otherAccount, otherOrders, otherPositions, otherCash, otherTrades, otherInstruments, otherReceived⟩ := other
  obtain rfl := rearranged.account
  obtain rfl := rearranged.received
  rfl

def SamePackage (evidence other : Stage5gOrderPositionEvidence) : Prop :=
  other.totalSequence = evidence.totalSequence ∧ other.requestId = evidence.requestId ∧
    other.orderAttribution = evidence.orderAttribution ∧ Rearranged evidence.brokerTruth other.brokerTruth

theorem canonicalParts_rearranged {evidence other : Stage5gOrderPositionEvidence}
    (apart : RowsToldApart codec evidence.brokerTruth) (same : SamePackage evidence other) :
    canonicalParts codec other = canonicalParts codec evidence := by
  obtain ⟨sequence, request, attribution, rearranged⟩ := same
  have truth := canonicalizeBrokerTruthSnapshot_rearranged apart rearranged
  obtain ⟨totalSequence, requestId, brokerTruth, orderAttribution⟩ := evidence
  obtain ⟨otherSequence, otherRequest, otherTruth, otherAttribution⟩ := other
  obtain rfl := sequence
  obtain rfl := request
  obtain rfl := attribution
  unfold canonicalParts
  rw [truth, rearranged.account]

theorem canonicalize_of_parts {evidence other : Stage5gOrderPositionEvidence}
    (same : canonicalParts codec other = canonicalParts codec evidence) :
    canonicalizeStage5gOrderPositionEvidence codec other = canonicalizeStage5gOrderPositionEvidence codec evidence := by
  unfold canonicalizeStage5gOrderPositionEvidence
  split
  · rename_i error parted
    split
    · rename_i otherError otherParted
      rw [same, otherParted] at parted
      cases parted
      rfl
    · rename_i parts otherParted
      rw [same, otherParted] at parted
      cases parted
  · rename_i parts parted
    split
    · rename_i otherError otherParted
      rw [same, otherParted] at parted
      cases parted
    · rename_i otherParts otherParted
      rw [same, otherParted] at parted
      cases parted
      rfl

def AccountSpelled (accountId : BrokerAccountId) : Prop :=
  accountId.value ≠ "" ∧ ':' ∉ accountId.value.toList

theorem canonicalParts_conflict {evidence : Stage5gOrderPositionEvidence}
    (spelled : AccountSpelled evidence.brokerTruth.accountId) {left right : BrokerTradeSnapshot}
    (leftMember : left ∈ evidence.brokerTruth.trades) (rightMember : right ∈ evidence.brokerTruth.trades)
    (sameId : left.brokerTradeId = right.brokerTradeId)
    (differ : canonicalImmutableTradePayloadV1 left ≠ canonicalImmutableTradePayloadV1 right) :
    canonicalParts codec evidence = .error .tradeIdentityConflict := by
  have conflict : evidence.brokerTruth.trades.foldlM collectTrade ∅ = none := by
    rw [collectTrade_eq]
    apply Option.eq_none_iff_forall_ne_some.2
    intro latest success
    have consistent := (Observed.foldlM_collect_holds success).consistent
    exact differ (consistent left leftMember right rightMember (congrArg BrokerTradeId.value sameId))
  have grammar : ¬ (evidence.brokerTruth.accountId.value = "" ∨ ':' ∈ evidence.brokerTruth.accountId.value.toList) := by
    rintro (empty | colon)
    · exact spelled.1 empty
    · exact spelled.2 colon
  unfold canonicalParts canonicalizeBrokerTruthSnapshot
  dsimp only
  rw [rejectIf_of_not _ grammar, ok_bind, conflict]
  rfl

theorem canonicalize_error {evidence : Stage5gOrderPositionEvidence} {error : Stage5gEvidenceCanonicalizationError}
    (parted : canonicalParts codec evidence = .error error) :
    canonicalizeStage5gOrderPositionEvidence codec evidence = .error error := by
  unfold canonicalizeStage5gOrderPositionEvidence
  split
  · rename_i other otherParted
    rw [parted] at otherParted
    cases otherParted
    rfl
  · rename_i parts otherParted
    rw [parted] at otherParted
    cases otherParted

/-- A package is canonical up to the order of its rows and to copies of its trades, so that it does the
same to every state; and two different trades of one id are refused in every order. -/
theorem evidence_is_canonical (codec : OrderPositionCodec) :
    (∀ evidence other, RowsToldApart codec evidence.brokerTruth → SamePackage evidence other →
      canonicalizeStage5gOrderPositionEvidence codec other = canonicalizeStage5gOrderPositionEvidence codec evidence ∧
        ∀ state mode, applyStage5gOrderPositionEvidence codec state other mode =
          applyStage5gOrderPositionEvidence codec state evidence mode) ∧
    (∀ evidence, AccountSpelled evidence.brokerTruth.accountId →
      ∀ left ∈ evidence.brokerTruth.trades, ∀ right ∈ evidence.brokerTruth.trades,
        left.brokerTradeId = right.brokerTradeId →
          canonicalImmutableTradePayloadV1 left ≠ canonicalImmutableTradePayloadV1 right →
            canonicalizeStage5gOrderPositionEvidence codec evidence = .error .tradeIdentityConflict) := by
  constructor
  · intro evidence other apart same
    have canonical := canonicalize_of_parts (canonicalParts_rearranged apart same)
    refine ⟨canonical, ?_⟩
    intro state mode
    unfold applyStage5gOrderPositionEvidence
    rw [canonical]
  · intro evidence spelled left leftMember right rightMember sameId differ
    exact canonicalize_error (canonicalParts_conflict spelled leftMember rightMember sameId differ)

section Sample

open SampleSession

def observedPackage : Stage5gOrderPositionEvidence :=
  sampleEvidence 1 5 (sampleOrder .filled one 5) [sampleTrade 5] [samplePosition 5, { samplePosition 5 with qty := Decimal.zero }]

/-- The same with the positions the other way round, and with an earlier observation of the trade. -/
def repeatedPackage : Stage5gOrderPositionEvidence :=
  sampleEvidence 1 5 (sampleOrder .filled one 5) [{ sampleTrade 5 with receivedTs := atSecond 4 }, sampleTrade 5]
    [{ samplePosition 5 with qty := Decimal.zero }, samplePosition 5]

theorem toldApart_single {Value : Type} (toVec : Value → List UInt8) (value : Value) : ToldApart toVec [value] := by
  intro left leftMember right rightMember _
  rw [List.mem_singleton.1 leftMember, List.mem_singleton.1 rightMember]

theorem observedPackage_apart : RowsToldApart sessionCodec observedPackage.brokerTruth := by
  refine ⟨toldApart_single _ _, ?_, ?_, ?_⟩
  · unfold ToldApart
    with_unfolding_all decide
  · intro left leftMember
    cases leftMember
  · intro cash present
    cases present

theorem repeatedPackage_same : SamePackage observedPackage repeatedPackage := by
  refine ⟨rfl, rfl, rfl, rfl, rfl, .refl _, .swap _ _ _, .refl _, .none, [{ sampleTrade 5 with receivedTs := atSecond 4 }], ?_, ?_⟩
  · exact .swap _ _ _
  · intro copy member
    rw [List.mem_singleton.1 member]
    exact ⟨sampleTrade 5, List.mem_singleton_self _, rfl, by decide⟩

/-- Two trades of one id and different quantities, in a package of the given account. -/
def conflictingPackage (accountId : BrokerAccountId) : Stage5gOrderPositionEvidence :=
  let evidence := sampleEvidence 1 5 (sampleOrder .filled one 5)
    [sampleTrade 5, { sampleTrade 5 with qty := Decimal.zero }] []
  { evidence with brokerTruth := { evidence.brokerTruth with accountId := accountId } }

theorem evidence_is_canonical_repeated :
    canonicalizeStage5gOrderPositionEvidence sessionCodec repeatedPackage =
        canonicalizeStage5gOrderPositionEvidence sessionCodec observedPackage ∧
      canonicalizeStage5gOrderPositionEvidence sessionCodec (conflictingPackage sampleAccount) =
        .error .tradeIdentityConflict := by
  obtain ⟨rearranged, conflicting⟩ := evidence_is_canonical sessionCodec
  refine ⟨(rearranged observedPackage repeatedPackage observedPackage_apart repeatedPackage_same).1, ?_⟩
  exact conflicting (conflictingPackage sampleAccount) ⟨by decide, by decide⟩ (sampleTrade 5) (.head _)
    { sampleTrade 5 with qty := Decimal.zero } (.tail _ (.head _)) rfl (by decide)

/-- Where the account id has a colon, the conflict is not what the package is refused for. -/
theorem conflict_is_not_reported : ∃ left ∈ (conflictingPackage { value := "A:1" }).brokerTruth.trades,
    ∃ right ∈ (conflictingPackage { value := "A:1" }).brokerTruth.trades,
      left.brokerTradeId = right.brokerTradeId ∧
        canonicalImmutableTradePayloadV1 left ≠ canonicalImmutableTradePayloadV1 right ∧
        canonicalizeStage5gOrderPositionEvidence sessionCodec (conflictingPackage { value := "A:1" }) ≠
          .error .tradeIdentityConflict := by
  refine ⟨sampleTrade 5, by simp [conflictingPackage, sampleEvidence],
    { sampleTrade 5 with qty := Decimal.zero }, by simp [conflictingPackage, sampleEvidence], rfl, by decide, ?_⟩
  have refused : canonicalParts sessionCodec (conflictingPackage { value := "A:1" }) =
      .error .evidenceIdentityGrammarViolation := by decide
  rw [canonicalize_error refused]
  intro same
  cases same

end Sample

end Packages

end TradingGateway.Stage5g.OrderPosition
