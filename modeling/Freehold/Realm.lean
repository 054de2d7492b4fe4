import Freehold.Cache
import Freehold.Config
import Freehold.Directory
import Freehold.Pricing
import Freehold.Store.Faults

/-!
The whole state of a server: its configuration, the durable store, what is remembered of the store,
whom players trust on their land and who may act on the land of others.
-/

namespace Freehold
open Std

abbrev PlayerSet := ExtTreeSet PlayerId

structure Realm where
  config : Config
  storage : Storage := {}
  cache : Cache := {}
  directory : Directory := {}
  -- The visitors that each owner trusts.
  trusted : ExtTreeMap PlayerId PlayerSet := ∅
  -- The players with authority over everyone's land.
  elevated : PlayerSet := ∅

structure Outcome (α : Type) where
  realm : Realm
  events : List Event
  result : Except Error α

namespace Outcome

def map {α β : Type} (f : α → β) (o : Outcome α) : Outcome β := ⟨o.realm,o.events,o.result.map f⟩

def after {α : Type} (events : List Event) (o : Outcome α) : Outcome α :=
  { o with events := events ++ o.events }

end Outcome

namespace Realm

def trusts (s : Realm) (owner visitor : PlayerId) : Bool := visitor ∈ s.trusted[owner]?.getD ∅

def trust (s : Realm) (owner visitor : PlayerId) : Realm :=
  { s with trusted := s.trusted.insert owner ((s.trusted[owner]?.getD ∅).insert visitor) }

def untrust (s : Realm) (owner visitor : PlayerId) : Realm :=
  { s with trusted := s.trusted.insert owner ((s.trusted[owner]?.getD ∅).erase visitor) }

def isElevated (s : Realm) (player : PlayerId) : Bool := player ∈ s.elevated

def elevate (s : Realm) (player : PlayerId) : Realm :=
  { s with elevated := s.elevated.insert player }

def demote (s : Realm) (player : PlayerId) : Realm :=
  { s with elevated := s.elevated.erase player }

def refuseAllBatches (s : Realm) (on : Bool) : Realm :=
  { s with storage := { s.storage with faults := { s.storage.faults with refuseAll := on } } }

def failNextBatchAt (s : Realm) (place : Nat) : Realm :=
  { s with storage := { s.storage with faults := { s.storage.faults with failAt := some place } } }

def failReads (s : Realm) (methods : List ReadMethod) : Realm :=
  { s with
    storage := { s.storage with faults := { s.storage.faults with unreadable := methods } } }

/-- Makes sure that a cell has no owner. The cache is asked first and the store after it, and a claim
that only the store knows is remembered on the way. -/
def checkVacant (s : Realm) (cell : Cell) (actor : PlayerId) : Outcome Unit :=
  match s.cache.owner? cell with
  | some existing =>
    ⟨s,
      [.debug "claim conflict"
        [("cell",cell.text), ("actor",actor.text), ("owner",existing.owner.text)]],
      .error (.conflict cell existing.ownerName)⟩
  | none =>
    match s.storage.claimAt cell with
    | (storage,.ok none) => ⟨{ s with storage := storage },[],.ok ()⟩
    | (storage,.ok (some stored)) =>
      ⟨{ s with storage := storage, cache := s.cache.upsert stored },
        [.warn "store has a claim the cache missed, healing cache"
          [("cell",cell.text), ("owner",stored.owner.text)]],
        .error (.conflict cell stored.ownerName)⟩
    | (storage,.error e) =>
      ⟨{ s with storage := storage },
        [.error "claim re-check failed"
          [("cell",cell.text), ("actor",actor.text), ("error",e.message)]],
        .error e⟩

end Realm

end Freehold
