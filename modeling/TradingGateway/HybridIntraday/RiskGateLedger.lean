import Mathlib.Algebra.Group.Defs
import TradingGateway.Foundation.ExceptRun
import TradingGateway.Foundation.KeyedSort
import TradingGateway.HybridIntraday.Types

/-! The ledger of the risk gate: one record for each finalized session, and what a start takes from it. -/

set_option autoImplicit false

namespace TradingGateway.HybridIntraday.RiskGateLedger

open BrokerCore.Orders Foundation.ExceptRun Foundation.KeyedSort

def shadowPnlLb120LookbackSessions : Nat := 120

def shadowPnlLb120MinHistorySessions : Nat := 60

def riskGateStateGeneration : String := "runtime-ledger-v1"

inductive RiskGateRowSource where
  | seed
  | runtime
deriving DecidableEq

inductive RiskGateRowStatus where
  | complete
  | incomplete
deriving DecidableEq

structure RiskGateSessionRow (Value : Type) where
  sessionDate : NaiveDate
  shadowPnlPoints : Value
  shadowTradeCount : UInt32
  rollingSumBeforeSession : Value
  mrEnabledForSession : Bool
  source : RiskGateRowSource
  status : RiskGateRowStatus
deriving DecidableEq

inductive RiskGateStartupMode where
  | bootstrapFromSeed
  | normalAppend
  | rebuildFromHistory
deriving DecidableEq

inductive RiskGateStartupDecision where
  | importSeed
  | useExistingLedger
  | rebuildFromSeed
deriving DecidableEq

structure RiskGateProfileIdentity where
  strategyId : String
  profileId : String
  mrVariant : String
  timeframe : String
  sessionPolicy : String
  modelVersion : String

structure RiskGateLedgerRecord (Value : Type) where
  row : RiskGateSessionRow Value
  profileId : String
  mrVariant : String
  timeframe : String
  sessionPolicy : String
  rollingSumLb120 : Value
  mrEnabledNextSession : Bool
  modelVersion : String
  finalizedAtUtc : Int64
deriving DecidableEq

structure RiskGateMaterializedState (Value : Type) where
  lastFinalizedSessionDate : Option NaiveDate
  rollingSumLb120 : Option Value
  mrEnabledCurrentSession : Option Bool
  mrEnabledNextSession : Option Bool
  seedLoaded : Bool
  ledgerRowsCount : Nat
  currentShadowSessionDate : Option NaiveDate
  currentShadowPnlPoints : Value
  currentGeneration : String

structure RiskGateStartupArtifacts (Value : Type) where
  decision : RiskGateStartupDecision
  ledgerRecords : List (RiskGateLedgerRecord Value)
  recordsToWrite : List (RiskGateLedgerRecord Value)
  materializedState : RiskGateMaterializedState Value

inductive RiskGateError where
  | weekendSession (date : NaiveDate)
  | datesNotIncreasing (date previous : NaiveDate)
  | bootstrapRefused
  | bootstrapWithoutSeed
  | ledgerBehindSeed (existing seed : NaiveDate)
  | ledgerEmpty
  | nothingRebuilt
  | weekendRuntimeRow (date : NaiveDate)
  | runtimeRowNotAfterTail (date : NaiveDate)
  | identityMismatch (field found expected : String)
deriving DecidableEq

def RiskGateError.message (dateToString : NaiveDate → String) : RiskGateError → String
  | .weekendSession date => "risk gate ledger contains weekend session: " ++ dateToString date
  | .datesNotIncreasing date previous =>
      "risk gate ledger dates are not strictly increasing: " ++ dateToString date ++ " <= " ++ dateToString previous
  | .bootstrapRefused => "risk gate bootstrap_from_seed refused because runtime ledger already exists"
  | .bootstrapWithoutSeed => "risk gate bootstrap_from_seed has no seed rows"
  | .ledgerBehindSeed existing seed =>
      "risk gate normal_append refused because ledger is behind seed: ledger_last=" ++ dateToString existing ++
        ", seed_last=" ++ dateToString seed
  | .ledgerEmpty => "risk gate normal_append refused because runtime ledger is empty"
  | .nothingRebuilt => "risk gate rebuild_from_history has no rebuilt rows"
  | .weekendRuntimeRow date => "risk gate runtime row cannot use weekend session: " ++ dateToString date
  | .runtimeRowNotAfterTail date => "risk gate runtime row is not after ledger tail: " ++ dateToString date
  | .identityMismatch field found expected =>
      "risk gate ledger " ++ field ++ " mismatch: " ++ found ++ " != " ++ expected

section Rows

variable {Value : Type}

def validateSessionDate (previous : Option NaiveDate) (date : NaiveDate) : Except RiskGateError Unit := do
  rejectIf (isWeekend date = true) (.weekendSession date)
  match previous with
  | some previous => rejectIf (date.day ≤ previous.day) (.datesNotIncreasing date previous)
  | none => .ok ()

def validateRowsAfter (previous : Option NaiveDate) : List (RiskGateSessionRow Value) → Except RiskGateError Unit
  | [] => .ok ()
  | row :: rest => do
      validateSessionDate previous row.sessionDate
      validateRowsAfter (some row.sessionDate) rest

def validateRegularSessionLedger (rows : List (RiskGateSessionRow Value)) : Except RiskGateError Unit :=
  validateRowsAfter none rows

def lastDate (rows : List (RiskGateSessionRow Value)) : Option NaiveDate :=
  rows.getLast?.map (·.sessionDate)

def reconcileSeedWithLedger (mode : RiskGateStartupMode) (existingRows seedRows : List (RiskGateSessionRow Value)) :
    Except RiskGateError RiskGateStartupDecision := do
  validateRegularSessionLedger existingRows
  validateRegularSessionLedger seedRows
  match mode, lastDate existingRows, lastDate seedRows with
  | .bootstrapFromSeed, none, some _ => .ok .importSeed
  | .bootstrapFromSeed, some _, _ => .error .bootstrapRefused
  | .bootstrapFromSeed, none, none => .error .bootstrapWithoutSeed
  | .normalAppend, some existing, some seed =>
      if seed.day ≤ existing.day then .ok .useExistingLedger else .error (.ledgerBehindSeed existing seed)
  | .normalAppend, some _, none => .ok .useExistingLedger
  | .normalAppend, none, _ => .error .ledgerEmpty
  | .rebuildFromHistory, _, some _ => .ok .rebuildFromSeed
  | .rebuildFromHistory, _, none => .error .nothingRebuilt

variable [AddMonoid Value] [LinearOrder Value]

/-- The sum over the last rows of a history, if it is long enough. -/
def rollingSum (completeRows : List (RiskGateSessionRow Value)) (lookbackSessions minHistorySessions : Nat) :
    Option Value :=
  if completeRows.length < minHistorySessions then none
  else some ((completeRows.drop (completeRows.length - lookbackSessions)).map (·.shadowPnlPoints)).sum

def rollingShadowPnlBeforeNextSession (rows : List (RiskGateSessionRow Value))
    (lookbackSessions minHistorySessions : Nat) : Option Value :=
  rollingSum (rows.filter fun row => row.status = .complete) lookbackSessions minHistorySessions

def rollingShadowPnlBeforeSession (rows : List (RiskGateSessionRow Value)) (sessionDate : NaiveDate)
    (lookbackSessions minHistorySessions : Nat) : Option Value :=
  rollingSum (rows.filter fun row => row.status = .complete ∧ row.sessionDate.day < sessionDate.day) lookbackSessions
    minHistorySessions

def buildRuntimeSessionRow (existingRows : List (RiskGateSessionRow Value)) (sessionDate : NaiveDate)
    (shadowPnlPoints : Value) (shadowTradeCount : UInt32) : Except RiskGateError (RiskGateSessionRow Value) := do
  validateRegularSessionLedger existingRows
  rejectIf (isWeekend sessionDate = true) (.weekendRuntimeRow sessionDate)
  rejectIf (∃ last ∈ existingRows.getLast?, sessionDate.day ≤ last.sessionDate.day) (.runtimeRowNotAfterTail sessionDate)
  let rollingSumBeforeSession := (rollingShadowPnlBeforeSession existingRows sessionDate
    shadowPnlLb120LookbackSessions shadowPnlLb120MinHistorySessions).getD 0
  .ok {
    sessionDate := sessionDate
    shadowPnlPoints := shadowPnlPoints
    shadowTradeCount := shadowTradeCount
    rollingSumBeforeSession := rollingSumBeforeSession
    mrEnabledForSession := 0 < rollingSumBeforeSession
    source := .runtime
    status := .complete }

def ledgerRecord (identity : RiskGateProfileIdentity) (finalizedAtUtc : Int64)
    (upTo : List (RiskGateSessionRow Value)) (row : RiskGateSessionRow Value) : RiskGateLedgerRecord Value where
  row := row
  profileId := identity.profileId
  mrVariant := identity.mrVariant
  timeframe := identity.timeframe
  sessionPolicy := identity.sessionPolicy
  rollingSumLb120 := (rollingShadowPnlBeforeNextSession upTo shadowPnlLb120LookbackSessions 0).getD 0
  mrEnabledNextSession := ((rollingShadowPnlBeforeNextSession upTo shadowPnlLb120LookbackSessions
    shadowPnlLb120MinHistorySessions).map fun pnl => decide (0 < pnl)).getD false
  modelVersion := identity.modelVersion
  finalizedAtUtc := finalizedAtUtc

def buildLedgerRecordsFromRows (rows : List (RiskGateSessionRow Value)) (identity : RiskGateProfileIdentity)
    (finalizedAtUtc : Int64) : Except RiskGateError (List (RiskGateLedgerRecord Value)) := do
  validateRegularSessionLedger rows
  .ok (rows.zipIdx.map fun (row, index) => ledgerRecord identity finalizedAtUtc (rows.take (index + 1)) row)

def rowsFromLedgerRecords (records : List (RiskGateLedgerRecord Value)) :
    Except RiskGateError (List (RiskGateSessionRow Value)) := do
  let rows := sortByKey (·.sessionDate.day) (records.map (·.row))
  validateRegularSessionLedger rows
  .ok rows

def validateRecordIdentity (identity : RiskGateProfileIdentity) (record : RiskGateLedgerRecord Value) :
    Except RiskGateError Unit := do
  rejectIf (record.profileId ≠ identity.profileId)
    (.identityMismatch "profile_id" record.profileId identity.profileId)
  rejectIf (record.mrVariant ≠ identity.mrVariant)
    (.identityMismatch "mr_variant" record.mrVariant identity.mrVariant)
  rejectIf (record.timeframe ≠ identity.timeframe)
    (.identityMismatch "timeframe" record.timeframe identity.timeframe)
  rejectIf (record.sessionPolicy ≠ identity.sessionPolicy)
    (.identityMismatch "session_policy" record.sessionPolicy identity.sessionPolicy)

def validateLedgerRecordIdentity (records : List (RiskGateLedgerRecord Value)) (identity : RiskGateProfileIdentity) :
    Except RiskGateError Unit :=
  records.forM (validateRecordIdentity identity)

def rebuildMaterializedStateFromLedgerRecords (records : List (RiskGateLedgerRecord Value))
    (currentShadowSessionDate : Option NaiveDate) (currentShadowPnlPoints : Value) (seedLoaded : Bool) :
    Except RiskGateError (RiskGateMaterializedState Value) := do
  let rows ← rowsFromLedgerRecords records
  let rollingSumLb120 := rollingShadowPnlBeforeNextSession rows shadowPnlLb120LookbackSessions
    shadowPnlLb120MinHistorySessions
  let mrEnabled := rollingSumLb120.map fun pnl => decide (0 < pnl)
  .ok {
    lastFinalizedSessionDate := lastDate rows
    rollingSumLb120 := rollingSumLb120
    mrEnabledCurrentSession := mrEnabled
    mrEnabledNextSession := mrEnabled
    seedLoaded := seedLoaded
    ledgerRowsCount := rows.length
    currentShadowSessionDate := currentShadowSessionDate
    currentShadowPnlPoints := currentShadowPnlPoints
    currentGeneration := riskGateStateGeneration }

def startupRecords (decision : RiskGateStartupDecision) (existingRecords : List (RiskGateLedgerRecord Value))
    (seedRows : List (RiskGateSessionRow Value)) (identity : RiskGateProfileIdentity) (finalizedAtUtc : Int64) :
    Except RiskGateError (List (RiskGateLedgerRecord Value) × List (RiskGateLedgerRecord Value)) :=
  match decision with
  | .useExistingLedger => .ok (sortByKey (·.row.sessionDate.day) existingRecords, [])
  | .importSeed | .rebuildFromSeed => do
      let records ← buildLedgerRecordsFromRows seedRows identity finalizedAtUtc
      .ok (records, records)

def planRiskGateStartup (mode : RiskGateStartupMode) (existingRecords : List (RiskGateLedgerRecord Value))
    (seedRows : List (RiskGateSessionRow Value)) (identity : RiskGateProfileIdentity)
    (currentShadowSessionDate : Option NaiveDate) (finalizedAtUtc : Int64) :
    Except RiskGateError (RiskGateStartupArtifacts Value) := do
  validateLedgerRecordIdentity existingRecords identity
  let existingRows ← rowsFromLedgerRecords existingRecords
  let decision ← reconcileSeedWithLedger mode existingRows seedRows
  let (ledgerRecords, recordsToWrite) ← startupRecords decision existingRecords seedRows identity finalizedAtUtc
  let seedLoaded := ledgerRecords.any fun record => record.row.source = .seed
  let materializedState ← rebuildMaterializedStateFromLedgerRecords ledgerRecords currentShadowSessionDate 0 seedLoaded
  .ok {
    decision := decision
    ledgerRecords := ledgerRecords
    recordsToWrite := recordsToWrite
    materializedState := materializedState }

end Rows

end TradingGateway.HybridIntraday.RiskGateLedger
