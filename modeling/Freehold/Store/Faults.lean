import Freehold.Event
import Freehold.Store

/-!
A store whose failures are arranged in advance. It can refuse every batch, refuse the next one when
it comes to a given write, and refuse to be read by chosen methods. It counts the batches handed to
it and the claims read from it.
-/

namespace Freehold
open Std

inductive ReadMethod where
  | loadClaims
  | loadMarks
  | loadVillages
  | loadMemberships
  | loadPermissions
  | claimGet
  | historyForCell
deriving DecidableEq

structure Faults where
  -- Every batch is refused.
  refuseAll : Bool := false
  -- The place of the write at which the next batch fails.
  failAt : Option Nat := none
  unreadable : List ReadMethod := []
deriving DecidableEq

structure Rows where
  claims : Except Error (List Claim)
  marks : Except Error Marks
  villages : Except Error (List Village)
  memberships : Except Error (List Membership)
  permissions : Except Error (List Permission)

structure Storage where
  tables : Store := {}
  faults : Faults := {}
  -- Batches handed over so far, refused ones included.
  applies : Nat := 0
  -- Claims read one by one so far.
  reads : Nat := 0

inductive BatchEnd where
  | done (tables : Store)
  | refused (cause : StorageError)
  | injected (write : Write)

namespace Storage

def writeUntil (tables : Store) : Option Nat → Batch → BatchEnd
  | _, [] => .done tables
  | some 0, w :: _ => .injected w
  | failAt, w :: ws =>
    match tables.write w with
    | .ok tables => writeUntil tables (failAt.map (· - 1)) ws
    | .error e => .refused e

/-- Hands a batch over. A failure arranged for the next batch is used up unless every batch is
refused anyway. -/
def apply (s : Storage) (batch : Batch) : Storage × List Event × Except Error Unit :=
  let s := { s with applies := s.applies+1 }
  if s.faults.refuseAll then
    (s, [.debug "mock store rejecting batch" [("ops", toString batch.length)]],
      .error (.persistence (.transactionFailed "injected failure")))
  else
    let spent := { s with faults := { s.faults with failAt := none } }
    match writeUntil s.tables s.faults.failAt batch with
    | .done tables => ({ spent with tables := tables }, [], .ok ())
    | .refused e => (spent, [], .error (.persistence e))
    | .injected w =>
      let place := toString (s.faults.failAt.getD 0)
      (spent, [.debug "mock store injected failure" [("op_index", place), ("op", w.label)]],
        .error (.persistence (.transactionFailed
          ("injected failure at op " ++ place ++ " (" ++ w.label ++ ")"))))

def answer {α : Type} (s : Storage) (method : ReadMethod) (value : α) : Except Error α :=
  if method ∈ s.faults.unreadable then .error (.persistence .lockPoisoned) else .ok value

def claimAt (s : Storage) (cell : Cell) : Storage × Except Error (Option Claim) :=
  match s.answer .claimGet s.tables.claims[cell]? with
  | .ok claim => ({ s with reads := s.reads+1 }, .ok claim)
  | .error e => (s, .error e)

def historyOf (s : Storage) (cell : Cell) : Except Error (List HistoryEntry) :=
  s.answer .historyForCell (s.tables.historyOf cell)

def rows (s : Storage) : Rows where
  claims := s.answer .loadClaims s.tables.claims.values
  marks := s.answer .loadMarks s.tables.marks
  villages := s.answer .loadVillages s.tables.villages.values
  memberships := s.answer .loadMemberships s.tables.memberships.values
  permissions := s.answer .loadPermissions s.tables.permissions.values

/-- Puts a claim into the tables without handing over a batch. -/
def seed (s : Storage) (claim : Claim) : Storage × Except Error Unit :=
  match s.tables.write (.insertClaim claim) with
  | .ok tables => ({ s with tables := tables }, .ok ())
  | .error e => (s, .error (.persistence e))

end Storage

end Freehold
