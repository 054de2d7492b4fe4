import Freehold.Error
import Freehold.Marks
import Freehold.Village

/-!
The durable tables and the writes they take. A batch of writes is applied in order, each to what the
ones before it left, and takes effect as a whole or not at all.
-/

namespace Freehold
open Std

structure Store where
  claims : ExtTreeMap Cell Claim := ∅
  marks : Marks := ∅
  -- The audit trail, oldest entry first.
  history : List HistoryEntry := []
  villages : ExtTreeMap VillageId Village := ∅
  memberships : ExtTreeMap MemberKey Membership := ∅
  permissions : ExtTreeMap PermissionKey Permission := ∅

inductive Write where
  | insertClaim (claim : Claim)
  | updateClaim (claim : Claim)
  | deleteClaim (cell : Cell)
  | appendHistory (entry : HistoryEntry)
  | insertVillage (village : Village)
  | updateVillage (village : Village)
  | upsertMembership (membership : Membership)
  | deleteMembership (key : MemberKey)
  | grantPermission (permission : Permission)
  | revokePermission (key : PermissionKey)
deriving DecidableEq

def Write.label : Write → String
  | insertClaim _ => "insert_claim"
  | updateClaim _ => "update_claim"
  | deleteClaim _ => "delete_claim"
  | appendHistory _ => "append_history"
  | insertVillage _ => "insert_village"
  | updateVillage _ => "update_village"
  | upsertMembership _ => "upsert_membership"
  | deleteMembership _ => "delete_membership"
  | grantPermission _ => "grant_permission"
  | revokePermission _ => "revoke_permission"

abbrev Batch := List Write

def MemberKey.text (k : MemberKey) : String := k.village.text ++ "/" ++ k.member.text

def PermissionKey.text (k : PermissionKey) : String :=
  k.place.text ++ "/" ++ Vocabulary.code k.capability

namespace Store

/-- One write. Rows are inserted only where there is none, and updated or deleted only where there
is one. -/
def write (s : Store) : Write → Except StorageError Store
  | .insertClaim claim =>
    if claim.cell ∈ s.claims then
      .error (.insertFailed "claim" claim.cell.text "already exists")
    else .ok { s with claims := s.claims.insert claim.cell claim, marks := s.marks.raise claim }
  | .updateClaim claim =>
    if claim.cell ∈ s.claims then .ok { s with claims := s.claims.insert claim.cell claim }
    else .error (.updateFailed "claim" claim.cell.text "no such claim")
  | .deleteClaim cell =>
    if cell ∈ s.claims then .ok { s with claims := s.claims.erase cell }
    else .error (.notFound "claim" cell.text)
  | .appendHistory entry => .ok { s with history := s.history ++ [entry] }
  | .insertVillage village =>
    if village.id ∈ s.villages then
      .error (.insertFailed "village" village.id.text "already exists")
    else .ok { s with villages := s.villages.insert village.id village }
  | .updateVillage village =>
    if village.id ∈ s.villages then .ok { s with villages := s.villages.insert village.id village }
    else .error (.updateFailed "village" village.id.text "no such village")
  | .upsertMembership m => .ok { s with memberships := s.memberships.insert m.key m }
  | .deleteMembership key =>
    if key ∈ s.memberships then .ok { s with memberships := s.memberships.erase key }
    else .error (.notFound "membership" key.text)
  | .grantPermission p => .ok { s with permissions := s.permissions.insert p.key p }
  | .revokePermission key =>
    if key ∈ s.permissions then .ok { s with permissions := s.permissions.erase key }
    else .error (.notFound "permission" key.text)

def writeAll (s : Store) : Batch → Except StorageError Store
  | [] => .ok s
  | w :: ws =>
    match s.write w with
    | .ok s => s.writeAll ws
    | .error e => .error e

def historyOf (s : Store) (cell : Cell) : List HistoryEntry :=
  s.history.filter fun e => e.cell = cell

end Store

end Freehold
