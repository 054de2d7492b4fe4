import Freehold.Order

/-!
Locks by key. A slot is made for a key when someone first asks for it, counts everyone who holds or
waits for it, and goes with the last of them. So the table holds exactly the keys in use.
-/

namespace Freehold
open Std

structure LockSlot where
  held : Bool := false
  -- Those who hold the key or wait for it.
  users : Nat := 0
deriving DecidableEq

structure KeyedLocks (κ : Type) [Ord κ] where
  slots : ExtTreeMap κ LockSlot := ∅

namespace KeyedLocks
variable {κ : Type} [Ord κ] [TransOrd κ]

def slot (locks : KeyedLocks κ) (key : κ) : LockSlot := locks.slots[key]?.getD {}

def isHeld (locks : KeyedLocks κ) (key : κ) : Bool := (locks.slot key).held

def active (locks : KeyedLocks κ) : Nat := locks.slots.size

def arrive (locks : KeyedLocks κ) (key : κ) : KeyedLocks κ :=
  let slot := locks.slot key
  ⟨locks.slots.insert key { slot with users := slot.users+1 }⟩

def take? (locks : KeyedLocks κ) (key : κ) : Option (KeyedLocks κ) :=
  if locks.isHeld key then none
  else some ⟨locks.slots.insert key { locks.slot key with held := true }⟩

/-- Takes a key at once, or not at all when that would mean to wait. -/
def acquire? (locks : KeyedLocks κ) (key : κ) : Option (KeyedLocks κ) :=
  (locks.arrive key).take? key

def release (locks : KeyedLocks κ) (key : κ) : KeyedLocks κ :=
  match locks.slots[key]? with
  | none => locks
  | some slot =>
    -- The slot goes with its last user.
    if slot.users ≤ 1 then ⟨locks.slots.erase key⟩
    else ⟨locks.slots.insert key ⟨false,slot.users-1⟩⟩

def releaseAll (locks : KeyedLocks κ) (keys : List κ) : KeyedLocks κ := keys.foldl release locks

/-- The distinct keys of a list in ascending order, the order in which they are taken. -/
def lockOrder (keys : List κ) : List κ := (ExtTreeSet.ofList keys).toList

def acquireEach? (locks : KeyedLocks κ) : List κ → Option (KeyedLocks κ)
  | [] => some locks
  | key :: keys =>
    match locks.acquire? key with
    | some locks => locks.acquireEach? keys
    | none => none

def acquireAll? (locks : KeyedLocks κ) (keys : List κ) : Option (KeyedLocks κ × List κ) :=
  (locks.acquireEach? (lockOrder keys)).map fun locks => (locks, lockOrder keys)

structure Turns where
  mostInside : Nat := 0
  done : Nat := 0
deriving DecidableEq

def takeTurns (locks : KeyedLocks κ) (key : κ) : Nat → Turns → KeyedLocks κ × Turns
  | 0, turns => (locks,turns)
  | users+1, turns =>
    match locks.take? key with
    | some inside => takeTurns (inside.release key) key users ⟨max turns.mostInside 1, turns.done+1⟩
    | none => (locks,turns)

def contend? (locks : KeyedLocks κ) (key : κ) (users : Nat) : Option (KeyedLocks κ × Turns) :=
  if locks.isHeld key then none
  else some (takeTurns (users.repeat (·.arrive key) locks) key users {})

def debugText (locks : KeyedLocks κ) : String :=
  "KeyedLocks \x7b active: " ++ toString locks.active ++ " \x7d"

end KeyedLocks

end Freehold
