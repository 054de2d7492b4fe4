import Freehold.Realm

/-!
Requests to change land or villages, cut into the steps between which another request may come. A
request takes locks, looks at the state, may find a cell taken, and ends by being refused or by
handing one batch to the store. Only a batch that the store took changes what is remembered, and each
request is logged at its end: once as done, or once as failed by the store.
-/

namespace Freehold

/-- What a request has to itself while it runs: a cell, the free slots of a player, a village, or
the names and memberships of all villages. -/
inductive LockKey where
  | cell (cell : Cell)
  | slots (player : PlayerId)
  | village (village : VillageId)
  | directory
deriving DecidableEq

structure Plan (α : Type) where
  batch : Batch
  cacheChanges : List CacheChange := []
  directoryChange : Directory → Directory := id
  -- Logged when the store refuses the batch, with the error.
  failure : Note
  -- Logged when the store has taken the batch.
  success : Note
  answer : α

inductive Request (α : Type) where
  | refuse (error : Error)
  -- Logs a note for debugging.
  | note (note : Note) (next : Request α)
  | look (next : Realm → Request α)
  | lock (key : LockKey) (next : Request α)
  -- Goes on only if the cell has no owner.
  | vacant (cell : Cell) (actor : PlayerId) (next : Request α)
  | commit (plan : Plan α)

structure Refusal where
  error : Error
  note : Option Note := none

namespace Plan
variable {α β : Type}

def map (f : α → β) (p : Plan α) : Plan β := { p with answer := f p.answer }

def run (p : Plan α) (s : Realm) : Outcome α :=
  match s.storage.apply p.batch with
  | (storage,events,.ok ()) =>
    ⟨{ s with
        storage := storage
        cache := s.cache.changeAll p.cacheChanges
        directory := p.directoryChange s.directory },
      events ++ [⟨.info,p.success⟩], .ok p.answer⟩
  | (storage,events,.error e) =>
    ⟨{ s with storage := storage }, events ++ [⟨.error,p.failure.add "error" e.message⟩], .error e⟩

end Plan

namespace Request
variable {α β : Type}

def map (f : α → β) : Request α → Request β
  | refuse e => refuse e
  | note n next => note n (next.map f)
  | look next => look fun s => (next s).map f
  | lock key next => lock key (next.map f)
  | vacant cell actor next => vacant cell actor (next.map f)
  | commit plan => commit (plan.map f)

def require (check : Except Refusal β) (next : β → Request α) : Request α :=
  match check with
  | .ok b => next b
  | .error ⟨e,none⟩ => refuse e
  | .error ⟨e,some n⟩ => note n (refuse e)

def demand (check : Except Error Unit) (next : Request α) : Request α :=
  match check with
  | .ok () => next
  | .error e => refuse e

def noteAll (notes : List Note) (next : Request α) : Request α := notes.foldr note next

def lockCells (cells : List Cell) (next : Request α) : Request α :=
  cells.foldr (fun c r => lock (.cell c) r) next

def run : Request α → Realm → Outcome α
  | refuse e, s => ⟨s,[],.error e⟩
  | note n next, s => (next.run s).after [⟨.debug,n⟩]
  | look next, s => (next s).run s
  | lock _ next, s => next.run s
  | vacant cell actor next, s =>
    match s.checkVacant cell actor with
    | ⟨s,events,.ok ()⟩ => (next.run s).after events
    | ⟨s,events,.error e⟩ => ⟨s,events,.error e⟩
  | commit plan, s => plan.run s

end Request

end Freehold
