import TradingGateway.HybridIntraday.RiskGateLedger

/-! Runs of the risk gate over its ledger: a seed is imported, sessions are appended, and every restart
decides as the last record does. -/

set_option autoImplicit false

namespace TradingGateway.HybridIntraday.RiskGateLedger

open BrokerCore.Orders Foundation.ExceptRun Foundation.KeyedSort

variable {Value : Type}

section Validation

variable {rows : List (RiskGateSessionRow Value)} {row : RiskGateSessionRow Value}

def day (row : RiskGateSessionRow Value) : Int :=
  row.sessionDate.day

structure Regular (rows : List (RiskGateSessionRow Value)) : Prop where
  working : ∀ row ∈ rows, isWeekend row.sessionDate = false
  increasing : Increasing day rows

theorem regular_cons_iff {rest : List (RiskGateSessionRow Value)} :
    Regular (row :: rest) ↔
      isWeekend row.sessionDate = false ∧ (∀ later ∈ rest, day row < day later) ∧ Regular rest := by
  constructor
  · rintro ⟨working, increasing⟩
    obtain ⟨first, increasing⟩ := List.pairwise_cons.1 increasing
    exact ⟨working row List.mem_cons_self, first,
      ⟨fun other member => working other (List.mem_cons_of_mem _ member), increasing⟩⟩
  · rintro ⟨first, below, ⟨working, increasing⟩⟩
    exact ⟨List.forall_mem_cons.2 ⟨first, working⟩, List.pairwise_cons.2 ⟨below, increasing⟩⟩

theorem validateSessionDate_ok_iff {previous : Option NaiveDate} {date : NaiveDate} :
    validateSessionDate previous date = .ok () ↔
      isWeekend date = false ∧ ∀ before ∈ previous, before.day < date.day := by
  unfold validateSessionDate
  rw [check_bind_ok_iff, rejectIf_ok_iff, Bool.not_eq_true]
  refine and_congr_right fun _ => ?_
  cases previous <;> simp

theorem validateRowsAfter_ok_iff {previous : Option NaiveDate} :
    validateRowsAfter previous rows = .ok () ↔
      Regular rows ∧ ∀ before ∈ previous, ∀ row ∈ rows, before.day < day row := by
  induction rows generalizing previous with
  | nil => exact iff_of_true rfl ⟨⟨by simp, List.Pairwise.nil⟩, by simp⟩
  | cons row rest ih =>
      unfold validateRowsAfter
      rw [check_bind_ok_iff, validateSessionDate_ok_iff, ih, regular_cons_iff]
      constructor
      · rintro ⟨⟨working, behind⟩, regular, later⟩
        refine ⟨⟨working, later row.sessionDate rfl, regular⟩, fun before isPrevious => ?_⟩
        refine List.forall_mem_cons.2 ⟨behind before isPrevious, fun other member => ?_⟩
        exact (behind before isPrevious).trans (later row.sessionDate rfl other member)
      · rintro ⟨⟨working, later, regular⟩, behind⟩
        refine ⟨⟨working, fun before isPrevious => behind before isPrevious row List.mem_cons_self⟩, regular, ?_⟩
        intro before isRow other member
        obtain rfl := Option.mem_some_iff.1 isRow
        exact later other member

theorem validate_ok_iff : validateRegularSessionLedger rows = .ok () ↔ Regular rows := by
  unfold validateRegularSessionLedger
  rw [validateRowsAfter_ok_iff]
  simp

/-- A row behind the last one continues a regular ledger. -/
theorem Regular.concat (regular : Regular rows) (working : isWeekend row.sessionDate = false)
    (behind : ∀ last ∈ rows.getLast?, day last < day row) : Regular (rows ++ [row]) where
  working := by
    intro other member
    obtain before | same := List.mem_append.1 member
    · exact regular.working other before
    · exact (List.mem_singleton.1 same) ▸ working
  increasing := regular.increasing.concat behind

theorem reconcile_bootstrap_ok {existingRows seed : List (RiskGateSessionRow Value)} {decision : RiskGateStartupDecision}
    (reconciled : reconcileSeedWithLedger .bootstrapFromSeed existingRows seed = .ok decision) :
    decision = .importSeed ∧ seed ≠ [] := by
  unfold reconcileSeedWithLedger at reconciled
  obtain ⟨_, reconciled⟩ := check_bind_ok_iff.1 reconciled
  obtain ⟨_, reconciled⟩ := check_bind_ok_iff.1 reconciled
  cases tail : lastDate existingRows with
  | some last =>
      rw [tail] at reconciled
      cases reconciled
  | none =>
      rw [tail] at reconciled
      cases seedTail : lastDate seed with
      | none =>
          rw [seedTail] at reconciled
          cases reconciled
      | some last =>
          rw [seedTail] at reconciled
          refine ⟨(Except.ok.inj reconciled).symm, ?_⟩
          rintro rfl
          cases seedTail

/-- A ledger that goes on behind its seed is the one to use. -/
theorem reconcile_normalAppend_ok {seed : List (RiskGateSessionRow Value)} (regular : Regular rows)
    (seedRegular : Regular seed) (nonempty : seed ≠ []) (seeded : seed <+: rows) :
    reconcileSeedWithLedger .normalAppend rows seed = .ok .useExistingLedger := by
  obtain ⟨seedLast, isSeedLast⟩ := Foundation.KeyedSort.exists_last nonempty
  have seedMember : seedLast ∈ rows := seeded.subset (List.mem_of_getLast? isSeedLast)
  have rowsNonempty : rows ≠ [] := List.ne_nil_of_mem seedMember
  obtain ⟨last, isLast⟩ := Foundation.KeyedSort.exists_last rowsNonempty
  have notBehind : seedLast.sessionDate.day ≤ last.sessionDate.day :=
    regular.increasing.le_last isLast seedMember
  unfold reconcileSeedWithLedger lastDate
  rw [validate_ok_iff.2 regular, validate_ok_iff.2 seedRegular, ok_bind, ok_bind, isLast, isSeedLast]
  exact if_pos notBehind

end Validation

section Windows

variable [AddMonoid Value] {rows : List (RiskGateSessionRow Value)}

/-- Before a date behind all rows is before the next session. -/
theorem rollingShadowPnlBeforeSession_eq {date : NaiveDate} (behind : ∀ row ∈ rows, day row < date.day)
    (lookbackSessions minHistorySessions : Nat) :
    rollingShadowPnlBeforeSession rows date lookbackSessions minHistorySessions =
      rollingShadowPnlBeforeNextSession rows lookbackSessions minHistorySessions := by
  unfold rollingShadowPnlBeforeSession rollingShadowPnlBeforeNextSession
  congr 1
  refine List.filter_congr fun row member => ?_
  have earlier : row.sessionDate.day < date.day := behind row member
  simp [earlier]

/-- A window that is long enough for the minimum is the window without one. -/
theorem rollingSum_without_minimum {lookbackSessions minHistorySessions : Nat} {pnl : Value}
    (long : rollingSum rows lookbackSessions minHistorySessions = some pnl) :
    rollingSum rows lookbackSessions 0 = some pnl := by
  unfold rollingSum at long ⊢
  split at long
  · cases long
  · rw [if_neg (Nat.not_lt_zero _)]
    exact long

variable [LinearOrder Value]

def enabledBehind (rows : List (RiskGateSessionRow Value)) : Bool :=
  ((rollingShadowPnlBeforeNextSession rows shadowPnlLb120LookbackSessions shadowPnlLb120MinHistorySessions).map
    fun pnl => decide (0 < pnl)).getD false

structure RuntimeRow (rows : List (RiskGateSessionRow Value)) (row : RiskGateSessionRow Value) : Prop where
  regular : Regular (rows ++ [row])
  enabled : row.mrEnabledForSession = enabledBehind rows

theorem runtimeRow_of_built {date : NaiveDate} {pnl : Value} {count : UInt32} {row : RiskGateSessionRow Value}
    (built : buildRuntimeSessionRow rows date pnl count = .ok row) : RuntimeRow rows row := by
  unfold buildRuntimeSessionRow at built
  obtain ⟨validated, built⟩ := check_bind_ok_iff.1 built
  obtain ⟨working, built⟩ := check_bind_ok_iff.1 built
  obtain ⟨tail, built⟩ := check_bind_ok_iff.1 built
  rw [validate_ok_iff] at validated
  rw [rejectIf_ok_iff, Bool.not_eq_true] at working
  rw [rejectIf_ok_iff] at tail
  have behind : ∀ last ∈ rows.getLast?, day last < date.day := by
    intro last isLast
    by_contra early
    exact tail ⟨last, isLast, not_lt.1 early⟩
  cases built
  refine ⟨validated.concat working behind, ?_⟩
  unfold enabledBehind
  rw [rollingShadowPnlBeforeSession_eq fun other member => validated.increasing.lt_of_last behind member]
  cases rollingShadowPnlBeforeNextSession rows shadowPnlLb120LookbackSessions shadowPnlLb120MinHistorySessions with
  | none => simp
  | some sum => rfl

end Windows

section Records

variable {rows : List (RiskGateSessionRow Value)} {records built : List (RiskGateLedgerRecord Value)} {identity : RiskGateProfileIdentity} {finalizedAtUtc : Int64}

structure HasIdentity (identity : RiskGateProfileIdentity) (record : RiskGateLedgerRecord Value) : Prop where
  profileId : record.profileId = identity.profileId
  mrVariant : record.mrVariant = identity.mrVariant
  timeframe : record.timeframe = identity.timeframe
  sessionPolicy : record.sessionPolicy = identity.sessionPolicy

theorem validateRecordIdentity_ok {record : RiskGateLedgerRecord Value} (same : HasIdentity identity record) :
    validateRecordIdentity identity record = .ok () := by
  unfold validateRecordIdentity
  simp [same.profileId, same.mrVariant, same.timeframe, same.sessionPolicy]

theorem rowsFromLedgerRecords_perm {listed : List (RiskGateLedgerRecord Value)}
    (regular : Regular (records.map (·.row))) (permuted : listed.Perm records) :
    rowsFromLedgerRecords listed = .ok (records.map (·.row)) := by
  have sorted : sortByKey (·.sessionDate.day) (listed.map (·.row)) = records.map (·.row) :=
    regular.increasing.sortByKey_eq (permuted.map _)
  unfold rowsFromLedgerRecords
  dsimp only
  rw [sorted, validate_ok_iff.2 regular]
  rfl

variable [AddMonoid Value] [LinearOrder Value]

structure Concludes (rows : List (RiskGateSessionRow Value)) (record : RiskGateLedgerRecord Value) : Prop where
  sum : record.rollingSumLb120 =
    (rollingShadowPnlBeforeNextSession rows shadowPnlLb120LookbackSessions 0).getD 0
  enabled : record.mrEnabledNextSession = enabledBehind rows

theorem hasIdentity_ledgerRecord (upTo : List (RiskGateSessionRow Value)) (row : RiskGateSessionRow Value) :
    HasIdentity identity (ledgerRecord identity finalizedAtUtc upTo row) :=
  ⟨rfl, rfl, rfl, rfl⟩

theorem concludes_ledgerRecord (upTo : List (RiskGateSessionRow Value)) (row : RiskGateSessionRow Value) :
    Concludes upTo (ledgerRecord identity finalizedAtUtc upTo row) :=
  ⟨rfl, rfl⟩

structure Built (identity : RiskGateProfileIdentity) (rows : List (RiskGateSessionRow Value))
    (built : List (RiskGateLedgerRecord Value)) : Prop where
  regular : Regular rows
  sameRows : built.map (·.row) = rows
  identity : ∀ record ∈ built, HasIdentity identity record
  last : ∀ record ∈ built.getLast?, Concludes rows record

theorem built_of_ok (success : buildLedgerRecordsFromRows rows identity finalizedAtUtc = .ok built) :
    Built identity rows built := by
  unfold buildLedgerRecordsFromRows at success
  obtain ⟨validated, success⟩ := check_bind_ok_iff.1 success
  cases success
  refine ⟨validate_ok_iff.1 validated, ?_, ?_, ?_⟩
  · simp [ledgerRecord, Function.comp_def]
  · intro record member
    obtain ⟨⟨row, index⟩, _, rfl⟩ := List.mem_map.1 member
    exact hasIdentity_ledgerRecord _ row
  · intro record isLast
    cases rows using List.reverseRecOn with
    | nil => cases isLast
    | append_singleton front last =>
        have behind : (front ++ [last]).zipIdx = front.zipIdx ++ [(last, front.length)] := by
          rw [List.zipIdx_append, List.zipIdx_singleton, Nat.zero_add]
        have upTo : (front ++ [last]).take (front.length + 1) = front ++ [last] :=
          List.take_of_length_le (by rw [List.length_append, List.length_singleton])
        rw [behind, List.map_append, List.map_singleton, List.getLast?_concat, Option.mem_some_iff] at isLast
        dsimp only at isLast
        rw [upTo] at isLast
        exact isLast ▸ concludes_ledgerRecord _ last

end Records

section Runs

variable [AddMonoid Value] [LinearOrder Value] {identity : RiskGateProfileIdentity}
  {seed : List (RiskGateSessionRow Value)} {records : List (RiskGateLedgerRecord Value)}

/-- A session is finalized behind the stored records: a row is built on theirs, and the last of the records
built from all rows is stored. -/
structure Appends (identity : RiskGateProfileIdentity) (records : List (RiskGateLedgerRecord Value))
    (row : RiskGateSessionRow Value) (record : RiskGateLedgerRecord Value) : Prop where
  appended : ∃ rows built sessionDate shadowPnlPoints shadowTradeCount finalizedAtUtc,
    rowsFromLedgerRecords records = .ok rows ∧
    buildRuntimeSessionRow rows sessionDate shadowPnlPoints shadowTradeCount = .ok row ∧
    buildLedgerRecordsFromRows (rows ++ [row]) identity finalizedAtUtc = .ok built ∧ built.getLast? = some record

inductive Stored (identity : RiskGateProfileIdentity) (seed : List (RiskGateSessionRow Value)) :
    List (RiskGateLedgerRecord Value) → Prop where
  | bootstrap {existing : List (RiskGateLedgerRecord Value)} {currentShadowSessionDate : Option NaiveDate}
      {finalizedAtUtc : Int64} {artifacts : RiskGateStartupArtifacts Value}
      (planned : planRiskGateStartup .bootstrapFromSeed existing seed identity currentShadowSessionDate
        finalizedAtUtc = .ok artifacts) : Stored identity seed artifacts.ledgerRecords
  | append {records : List (RiskGateLedgerRecord Value)} {row : RiskGateSessionRow Value}
      {record : RiskGateLedgerRecord Value} (stored : Stored identity seed records)
      (appends : Appends identity records row record) : Stored identity seed (records ++ [record])

structure Ledger (identity : RiskGateProfileIdentity) (seed : List (RiskGateSessionRow Value))
    (records : List (RiskGateLedgerRecord Value)) : Prop where
  seedRegular : Regular seed
  seedNonempty : seed ≠ []
  seeded : seed <+: records.map (·.row)
  regular : Regular (records.map (·.row))
  identity : ∀ record ∈ records, HasIdentity identity record
  last : ∀ record ∈ records.getLast?, Concludes (records.map (·.row)) record

theorem ledger_of_bootstrap {existing : List (RiskGateLedgerRecord Value)}
    {currentShadowSessionDate : Option NaiveDate} {finalizedAtUtc : Int64}
    {artifacts : RiskGateStartupArtifacts Value}
    (planned : planRiskGateStartup .bootstrapFromSeed existing seed identity currentShadowSessionDate
      finalizedAtUtc = .ok artifacts) : Ledger identity seed artifacts.ledgerRecords := by
  unfold planRiskGateStartup at planned
  obtain ⟨_, planned⟩ := check_bind_ok_iff.1 planned
  obtain ⟨existingRows, _, planned⟩ := bind_ok_iff.1 planned
  obtain ⟨decision, reconciled, planned⟩ := bind_ok_iff.1 planned
  obtain ⟨rfl, nonempty⟩ := reconcile_bootstrap_ok reconciled
  obtain ⟨⟨records, written⟩, chosen, planned⟩ := bind_ok_iff.1 planned
  obtain ⟨state, _, planned⟩ := bind_ok_iff.1 planned
  unfold startupRecords at chosen
  obtain ⟨built, success, chosen⟩ := bind_ok_iff.1 chosen
  cases chosen
  cases planned
  have facts := built_of_ok success
  have same := facts.sameRows
  exact {
    seedRegular := facts.regular
    seedNonempty := nonempty
    seeded := same ▸ List.prefix_refl _
    regular := same.symm ▸ facts.regular
    identity := facts.identity
    last := by rw [same]; exact facts.last }

theorem Built.last_row {rows : List (RiskGateSessionRow Value)} {row : RiskGateSessionRow Value}
    {built : List (RiskGateLedgerRecord Value)} {record : RiskGateLedgerRecord Value}
    (facts : Built identity (rows ++ [row]) built) (isLast : built.getLast? = some record) : record.row = row := by
  have lastRow : (built.map (·.row)).getLast? = some row := by
    rw [facts.sameRows, List.getLast?_concat]
  rw [List.getLast?_map, isLast] at lastRow
  exact Option.some.inj lastRow

theorem Ledger.append (ledger : Ledger identity seed records) {row : RiskGateSessionRow Value}
    {record : RiskGateLedgerRecord Value} (appends : Appends identity records row record) :
    Ledger identity seed (records ++ [record]) := by
  obtain ⟨rows, built, sessionDate, pnl, count, finalizedAtUtc, read, rowBuilt, success, isLast⟩ := appends.appended
  rw [rowsFromLedgerRecords_perm ledger.regular (List.Perm.refl records), Except.ok.injEq] at read
  subst read
  have facts := built_of_ok success
  have isRow := facts.last_row isLast
  have grown : (records ++ [record]).map (·.row) = records.map (·.row) ++ [row] := by
    rw [List.map_append, List.map_singleton, isRow]
  exact {
    seedRegular := ledger.seedRegular
    seedNonempty := ledger.seedNonempty
    seeded := grown ▸ ledger.seeded.trans (List.prefix_append _ _)
    regular := grown ▸ facts.regular
    identity := by
      intro other member
      obtain before | same := List.mem_append.1 member
      · exact ledger.identity other before
      · exact (List.mem_singleton.1 same) ▸ facts.identity record (List.mem_of_getLast? isLast)
    last := by
      intro other isOther
      rw [List.getLast?_concat, Option.mem_some_iff] at isOther
      rw [grown, ← isOther]
      exact facts.last record isLast }

theorem ledger_of_stored (stored : Stored identity seed records) : Ledger identity seed records := by
  induction stored with
  | bootstrap planned => exact ledger_of_bootstrap planned
  | append stored appends ih => exact ih.append appends

def restartArtifacts (records : List (RiskGateLedgerRecord Value)) (currentShadowSessionDate : Option NaiveDate) :
    RiskGateStartupArtifacts Value :=
  let rows := records.map (·.row)
  let rollingSumLb120 := rollingShadowPnlBeforeNextSession rows shadowPnlLb120LookbackSessions
    shadowPnlLb120MinHistorySessions
  { decision := .useExistingLedger
    ledgerRecords := records
    recordsToWrite := []
    materializedState := {
      lastFinalizedSessionDate := lastDate rows
      rollingSumLb120 := rollingSumLb120
      mrEnabledCurrentSession := rollingSumLb120.map fun pnl => decide (0 < pnl)
      mrEnabledNextSession := rollingSumLb120.map fun pnl => decide (0 < pnl)
      seedLoaded := records.any fun record => record.row.source = .seed
      ledgerRowsCount := rows.length
      currentShadowSessionDate := currentShadowSessionDate
      currentShadowPnlPoints := 0
      currentGeneration := riskGateStateGeneration } }

theorem Ledger.restart (ledger : Ledger identity seed records) {listed : List (RiskGateLedgerRecord Value)}
    (permuted : listed.Perm records) (currentShadowSessionDate : Option NaiveDate) (finalizedAtUtc : Int64) :
    planRiskGateStartup .normalAppend listed seed identity currentShadowSessionDate finalizedAtUtc =
      .ok (restartArtifacts records currentShadowSessionDate) := by
  have identified : validateLedgerRecordIdentity listed identity = .ok () :=
    forM_ok_iff.2 fun record member => validateRecordIdentity_ok (ledger.identity record (permuted.mem_iff.1 member))
  have read := rowsFromLedgerRecords_perm ledger.regular permuted
  have reread := rowsFromLedgerRecords_perm ledger.regular (List.Perm.refl records)
  have reconciled := reconcile_normalAppend_ok ledger.regular ledger.seedRegular ledger.seedNonempty ledger.seeded
  have sorted : sortByKey (·.row.sessionDate.day) listed = records :=
    ledger.regular.increasing.of_map.sortByKey_eq permuted
  unfold planRiskGateStartup
  rw [identified, ok_bind, read, ok_bind, reconciled, ok_bind]
  unfold startupRecords rebuildMaterializedStateFromLedgerRecords
  rw [sorted, ok_bind]
  dsimp only
  rw [reread, ok_bind, ok_bind]
  rfl

/-- A restart on the stored records, in whatever order they come: the plan, and the last of its records. -/
structure RestartsAlike (identity : RiskGateProfileIdentity) (seed : List (RiskGateSessionRow Value))
    (listed : List (RiskGateLedgerRecord Value)) (currentShadowSessionDate : Option NaiveDate)
    (finalizedAtUtc : Int64) (artifacts : RiskGateStartupArtifacts Value) (last : RiskGateLedgerRecord Value) :
    Prop where
  planned : planRiskGateStartup .normalAppend listed seed identity currentShadowSessionDate finalizedAtUtc =
    .ok artifacts
  decision : artifacts.decision = .useExistingLedger
  recordsToWrite : artifacts.recordsToWrite = []
  sameRecords : artifacts.ledgerRecords.Perm listed
  dateOrder : Increasing (fun record => day record.row) artifacts.ledgerRecords
  isLast : artifacts.ledgerRecords.getLast? = some last
  current : artifacts.materializedState.mrEnabledCurrentSession.getD false = last.mrEnabledNextSession
  next : artifacts.materializedState.mrEnabledNextSession.getD false = last.mrEnabledNextSession
  sum : ∀ sum ∈ artifacts.materializedState.rollingSumLb120, sum = last.rollingSumLb120

structure DecidesAlike (identity : RiskGateProfileIdentity) (seed : List (RiskGateSessionRow Value))
    (records : List (RiskGateLedgerRecord Value)) : Prop where
  gated : ∀ row record, Appends identity records row record → ∀ last ∈ records.getLast?,
    row.mrEnabledForSession = last.mrEnabledNextSession
  restarts : ∀ listed, listed.Perm records → ∀ currentShadowSessionDate finalizedAtUtc, ∃ artifacts last,
    RestartsAlike identity seed listed currentShadowSessionDate finalizedAtUtc artifacts last

theorem Ledger.gated (ledger : Ledger identity seed records) {row : RiskGateSessionRow Value}
    {record last : RiskGateLedgerRecord Value} (appends : Appends identity records row record)
    (isLast : records.getLast? = some last) : row.mrEnabledForSession = last.mrEnabledNextSession := by
  obtain ⟨rows, built, sessionDate, pnl, count, finalizedAtUtc, read, rowBuilt, _⟩ := appends.appended
  rw [rowsFromLedgerRecords_perm ledger.regular (List.Perm.refl records), Except.ok.injEq] at read
  subst read
  rw [(runtimeRow_of_built rowBuilt).enabled, (ledger.last last isLast).enabled]

theorem Ledger.exists_last (ledger : Ledger identity seed records) : ∃ last, records.getLast? = some last := by
  refine Foundation.KeyedSort.exists_last ?_
  rintro rfl
  exact ledger.seedNonempty (List.prefix_nil.1 ledger.seeded)

theorem Ledger.restartsAlike (ledger : Ledger identity seed records) {listed : List (RiskGateLedgerRecord Value)}
    (permuted : listed.Perm records) (currentShadowSessionDate : Option NaiveDate) (finalizedAtUtc : Int64)
    {last : RiskGateLedgerRecord Value} (isLast : records.getLast? = some last) :
    RestartsAlike identity seed listed currentShadowSessionDate finalizedAtUtc
      (restartArtifacts records currentShadowSessionDate) last where
  planned := ledger.restart permuted currentShadowSessionDate finalizedAtUtc
  decision := rfl
  recordsToWrite := rfl
  sameRecords := permuted.symm
  dateOrder := ledger.regular.increasing.of_map
  isLast := isLast
  current := (ledger.last last isLast).enabled.symm
  next := (ledger.last last isLast).enabled.symm
  sum := by
    intro sum isSum
    have whole : rollingShadowPnlBeforeNextSession (records.map (·.row)) shadowPnlLb120LookbackSessions 0 = some sum :=
      rollingSum_without_minimum isSum
    rw [(ledger.last last isLast).sum, whole]
    rfl

/-- In every run the risk gate decides the same on every path: for the next session, and on every restart. -/
theorem risk_gate_decides_alike (stored : Stored identity seed records) : DecidesAlike identity seed records := by
  have ledger := ledger_of_stored stored
  obtain ⟨last, isLast⟩ := ledger.exists_last
  exact {
    gated := fun _ _ appends _ isLast => ledger.gated appends isLast
    restarts := fun _ permuted currentShadowSessionDate finalizedAtUtc =>
      ⟨_, last, ledger.restartsAlike permuted currentShadowSessionDate finalizedAtUtc isLast⟩ }

end Runs

section Totality

variable [AddMonoid Value] [LinearOrder Value] {identity : RiskGateProfileIdentity}
  {seed : List (RiskGateSessionRow Value)} {records : List (RiskGateLedgerRecord Value)}

theorem exists_built (identity : RiskGateProfileIdentity) {rows : List (RiskGateSessionRow Value)}
    (regular : Regular rows) (finalizedAtUtc : Int64) :
    ∃ built, buildLedgerRecordsFromRows rows identity finalizedAtUtc = .ok built := by
  unfold buildLedgerRecordsFromRows
  rw [validate_ok_iff.2 regular]
  exact ⟨_, rfl⟩

/-- Every valid seed can be imported. -/
theorem exists_bootstrap (identity : RiskGateProfileIdentity) (regular : Regular seed) (nonempty : seed ≠ [])
    (currentShadowSessionDate : Option NaiveDate) (finalizedAtUtc : Int64) :
    ∃ artifacts, planRiskGateStartup .bootstrapFromSeed [] seed identity currentShadowSessionDate finalizedAtUtc =
      .ok artifacts ∧ artifacts.ledgerRecords.map (·.row) = seed := by
  obtain ⟨built, success⟩ := exists_built identity regular finalizedAtUtc
  obtain ⟨last, isLast⟩ := Foundation.KeyedSort.exists_last nonempty
  have facts := built_of_ok success
  have empty : Regular (([] : List (RiskGateLedgerRecord Value)).map (·.row)) := ⟨by simp, List.Pairwise.nil⟩
  have read := rowsFromLedgerRecords_perm empty (List.Perm.refl _)
  have reread := rowsFromLedgerRecords_perm (facts.sameRows.symm ▸ facts.regular) (List.Perm.refl built)
  have imported : reconcileSeedWithLedger .bootstrapFromSeed [] seed = .ok .importSeed := by
    unfold reconcileSeedWithLedger lastDate
    rw [validate_ok_iff.2 regular, isLast]
    rfl
  have identified : validateLedgerRecordIdentity ([] : List (RiskGateLedgerRecord Value)) identity = .ok () := rfl
  unfold planRiskGateStartup
  rw [identified, ok_bind, read, ok_bind, List.map_nil, imported, ok_bind]
  unfold startupRecords rebuildMaterializedStateFromLedgerRecords
  dsimp only
  rw [success, ok_bind, ok_bind]
  dsimp only
  rw [reread, ok_bind, ok_bind]
  exact ⟨_, rfl, facts.sameRows⟩

/-- Every working day behind the records can be finalized. -/
theorem Ledger.exists_appends (ledger : Ledger identity seed records) (date : NaiveDate)
    (working : isWeekend date = false) (behind : ∀ last ∈ records.getLast?, day last.row < date.day) (pnl : Value)
    (count : UInt32) (finalizedAtUtc : Int64) :
    ∃ row record, Appends identity records row record ∧ record.row.shadowPnlPoints = pnl := by
  have read := rowsFromLedgerRecords_perm ledger.regular (List.Perm.refl records)
  obtain ⟨last, isLast⟩ := ledger.exists_last
  have tail : ¬ ∃ last ∈ (records.map (·.row)).getLast?, date.day ≤ last.sessionDate.day := by
    rintro ⟨row, isRow, early⟩
    rw [List.getLast?_map, isLast, Option.map_some, Option.mem_some_iff] at isRow
    exact absurd (behind last isLast) (not_lt.2 (isRow ▸ early))
  obtain ⟨row, rowBuilt, profit⟩ : ∃ row,
      buildRuntimeSessionRow (records.map (·.row)) date pnl count = .ok row ∧ row.shadowPnlPoints = pnl := by
    unfold buildRuntimeSessionRow
    rw [validate_ok_iff.2 ledger.regular, ok_bind, rejectIf_of_not _ (by simp [working]), ok_bind,
      rejectIf_of_not _ tail, ok_bind]
    exact ⟨_, rfl, rfl⟩
  obtain ⟨built, success⟩ := exists_built identity (runtimeRow_of_built rowBuilt).regular finalizedAtUtc
  have facts := built_of_ok success
  have nonempty : built ≠ [] := by
    rintro rfl
    have same := facts.sameRows
    simp at same
  obtain ⟨record, isRecord⟩ := Foundation.KeyedSort.exists_last nonempty
  refine ⟨row, record, ⟨⟨_, built, date, pnl, count, finalizedAtUtc, read, rowBuilt, success, isRecord⟩⟩, ?_⟩
  rw [facts.last_row isRecord, profit]

end Totality

section Sample

def sampleIdentity : RiskGateProfileIdentity where
  strategyId := "hybrid_imoexf"
  profileId := "imoexf_primary_high180_lb120"
  mrVariant := "high180"
  timeframe := "10m"
  sessionPolicy := "Mon-Fri 09:00..23:49"
  modelVersion := "2026-04-26"

def mondaySeed : List (RiskGateSessionRow Int) :=
  [{
    sessionDate := { day := 4 }
    shadowPnlPoints := 3
    shadowTradeCount := 1
    rollingSumBeforeSession := 0
    mrEnabledForSession := false
    source := .seed
    status := .complete }]

/-- The seed is imported, and a loss of the next day is finalized behind it. -/
theorem risk_gate_decides_alike_tuesday :
    ∃ records, Stored sampleIdentity mondaySeed records ∧ records.map (·.row.shadowPnlPoints) = [3, -2] ∧
      DecidesAlike sampleIdentity mondaySeed records := by
  have regular : Regular mondaySeed := validate_ok_iff.1 rfl
  obtain ⟨artifacts, planned, sameRows⟩ := exists_bootstrap sampleIdentity regular (by simp [mondaySeed]) none 0
  have stored : Stored sampleIdentity mondaySeed artifacts.ledgerRecords := .bootstrap planned
  have behind : ∀ last ∈ artifacts.ledgerRecords.getLast?, day last.row < 5 := by
    intro last isLast
    have isRow : (artifacts.ledgerRecords.map (·.row)).getLast? = some last.row := by
      rw [List.getLast?_map, isLast, Option.map_some]
    rw [sameRows] at isRow
    have isMonday := Option.some.inj isRow
    rw [← isMonday]
    decide
  obtain ⟨row, record, appends, profit⟩ := (ledger_of_stored stored).exists_appends { day := 5 }
    (by decide) behind (-2) 1 0
  have further := Stored.append stored appends
  refine ⟨_, further, ?_, risk_gate_decides_alike further⟩
  have profits : artifacts.ledgerRecords.map (·.row.shadowPnlPoints) = [3] := by
    have profits := congrArg (List.map (·.shadowPnlPoints)) sameRows
    rwa [List.map_map] at profits
  rw [List.map_append, List.map_singleton, profits, profit]
  rfl

end Sample

end TradingGateway.HybridIntraday.RiskGateLedger
