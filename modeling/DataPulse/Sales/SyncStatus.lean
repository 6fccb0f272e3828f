/-
**The sync status of a sale.**

* `SaleSyncStatus` and the table of its transitions.

The worker keeps its own copy of the literals of the API; both are `SaleSyncStatus` here.
-/

import Mathlib.Data.List.Basic

namespace DataPulse.Sales

/-- `sales.sync_status`. -/
inductive SaleSyncStatus where
  | captured
  | synced
  | failedRetryable
  | failedNeedsRepair
  deriving DecidableEq

def SALE_SYNC_STATUS_TRANSITIONS : SaleSyncStatus → List SaleSyncStatus
  | .captured => [.synced, .failedRetryable, .failedNeedsRepair]
  | .failedRetryable => [.synced, .failedNeedsRepair]
  | .failedNeedsRepair => [.failedRetryable]
  | .synced => []

def isAllowedSaleSyncTransition (source target : SaleSyncStatus) : Bool :=
  target ∈ SALE_SYNC_STATUS_TRANSITIONS source

/-- `sale_sync_deadletters.classification`. -/
inductive DeadLetterClassification where
  | retryable
  | needsRepair
  deriving DecidableEq

inductive SaleSyncFailureStatus where
  | failedRetryable
  | failedNeedsRepair
  deriving DecidableEq

def SaleSyncFailureStatus.status : SaleSyncFailureStatus → SaleSyncStatus
  | failedRetryable => .failedRetryable
  | failedNeedsRepair => .failedNeedsRepair

def classificationForFailureStatus (status : SaleSyncFailureStatus) : DeadLetterClassification :=
  if status = .failedNeedsRepair then .needsRepair else .retryable

inductive SyncFailureCondition where
  | authInvalid
  | forbidden
  | reconnectAuthFailure
  | validationFailure
  | transient

structure SyncFailureClassification where
  classification : DeadLetterClassification
  syncStatus : SaleSyncFailureStatus
  reasonCode : String
  authOwnedBy028 : Bool
  oq5Escalation : Bool
  deriving DecidableEq

/-- An entry of the classifier's `TABLE`. -/
structure FailureEntry where
  syncStatus : SaleSyncFailureStatus
  reasonCode : String
  authOwnedBy028 : Bool
  oq5Escalation : Bool

/-- `TABLE`. -/
def failureTable : SyncFailureCondition → FailureEntry
  | .authInvalid => ⟨.failedRetryable, "auth_invalid", true, false⟩
  | .forbidden => ⟨.failedRetryable, "forbidden", true, true⟩
  | .reconnectAuthFailure => ⟨.failedRetryable, "reconnect_auth_failure", true, true⟩
  | .validationFailure => ⟨.failedNeedsRepair, "validation_failure", false, false⟩
  | .transient => ⟨.failedRetryable, "transient_5xx", false, false⟩

def classifySyncFailure (condition : SyncFailureCondition) : SyncFailureClassification :=
  let entry := failureTable condition
  { classification := classificationForFailureStatus entry.syncStatus
    syncStatus := entry.syncStatus
    reasonCode := entry.reasonCode
    authOwnedBy028 := entry.authOwnedBy028
    oq5Escalation := entry.oq5Escalation }

theorem needsRepair_iff (condition : SyncFailureCondition) :
    (classifySyncFailure condition).classification = .needsRepair ↔
      (classifySyncFailure condition).syncStatus = .failedNeedsRepair := by
  cases condition <;> decide

end DataPulse.Sales
