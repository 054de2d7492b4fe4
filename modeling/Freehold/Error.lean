import Freehold.Cell
import Freehold.Vocabulary

/-!
Why a request is refused or fails. Each cause is a constructor, and its wording is in one function.
-/

namespace Freehold

inductive ValidationError where
  | requiredFieldMissing (field : String)
  | invalidValue (field reason : String)
  | constraintViolation (constraint reason : String)
deriving DecidableEq

def ValidationError.message : ValidationError → String
  | requiredFieldMissing field => "Required field missing: " ++ field
  | invalidValue field reason => "Invalid value for " ++ field ++ ": " ++ reason
  | constraintViolation constraint reason =>
    "Constraint violation on " ++ constraint ++ ": " ++ reason

inductive StorageError where
  | notFound (entity key : String)
  | insertFailed (entity key reason : String)
  | updateFailed (entity key reason : String)
  | transactionFailed (reason : String)
  | lockPoisoned
deriving DecidableEq

def StorageError.message : StorageError → String
  | notFound entity key => "Record not found: " ++ entity ++ " " ++ key
  | insertFailed entity key reason =>
    "Insert failed for " ++ entity ++ " " ++ key ++ ": " ++ reason
  | updateFailed entity key reason =>
    "Update failed for " ++ entity ++ " " ++ key ++ ": " ++ reason
  | transactionFailed reason => "Transaction failed: " ++ reason
  | lockPoisoned => "Storage lock poisoned"

inductive ConfigError where
  | invalidValue (field value reason : String)
  | parse (reason : String)
deriving DecidableEq

def ConfigError.message : ConfigError → String
  | invalidValue field value reason =>
    "Invalid value for " ++ field ++ ": " ++ value ++ " - " ++ reason
  | parse reason => "Failed to parse configuration: " ++ reason

inductive CostRejection where
  | noTierChosen
  | freeQuotaExceeded (slot quota : UInt32)
  | priceMismatch (tier : Tier) (offered expected : UInt32)
deriving DecidableEq

def CostRejection.message : CostRejection → String
  | noTierChosen => "free claims exhausted and no paid tier chosen"
  | freeQuotaExceeded slot quota =>
    "free slot " ++ toString slot.toNat ++ " is beyond the quota of " ++ toString quota.toNat
  | priceMismatch tier offered expected =>
    Vocabulary.name tier ++ " claims cost " ++ toString expected.toNat ++ ", offered " ++
      toString offered.toNat

inductive Error where
  | validation (cause : ValidationError)
  | conflict (cell : Cell) (ownerName : String)
  | notFound (what : String)
  | unauthorized (reason : String)
  | notConnected (groups : Nat)
  | notAllOwnedByFounder (cell : Cell)
  | costRejected (cause : CostRejection)
  | claimLimitReached (current limit : Nat)
  | staleQuote (quoted expected : UInt32)
  | persistence (cause : StorageError)
  | invariantViolation (reason : String)
  | config (cause : ConfigError)
deriving DecidableEq

namespace Error

def message : Error → String
  | validation cause => "Validation error: " ++ cause.message
  | conflict cell ownerName => "Cell " ++ cell.text ++ " is already claimed by " ++ ownerName
  | notFound what => "Not found: " ++ what
  | unauthorized reason => "Unauthorized: " ++ reason
  | notConnected groups =>
    "Cell set is not connected: " ++ toString groups ++ " separate regions"
  | notAllOwnedByFounder cell => "Cell " ++ cell.text ++ " is not personally owned by the founder"
  | costRejected cause => "Cost rejected: " ++ cause.message
  | claimLimitReached current limit =>
    "Claim limit reached: " ++ toString current ++ " of " ++ toString limit
  | staleQuote quoted expected =>
    "Stale quote: free slot " ++ toString quoted.toNat ++ " requested but next free slot is " ++
      toString expected.toNat
  | persistence cause => "Persistence error: " ++ cause.message
  | invariantViolation reason => "Invariant violation: " ++ reason
  | config cause => "Config error: " ++ cause.message

/-- An error that no caller can provoke while the program is right. -/
def isBug : Error → Bool
  | invariantViolation _ => true
  | _ => false

def invalid (field reason : String) : Error := validation (.invalidValue field reason)

def missing (field : String) : Error := validation (.requiredFieldMissing field)

end Error

end Freehold
