import Freehold.Request

/-!
Two tasks at once. The first one stops just before its batch is handed to the store, holding its
locks. Then the second one runs to its end, or to a lock that the first one holds. Then the first
one ends, and the second one goes on.
-/

namespace Freehold

/-- A request to change something, an inquiry that is answered at once when it has its locks, or a
look at the state and the locks that are held. -/
inductive Task (α : Type) where
  | request (request : Request α)
  | inquiry (needs : List LockKey) (act : Realm → Outcome α)
  | inspection (view : List LockKey → Realm → α)

def Task.run {α : Type} : Task α → Realm → Outcome α
  | .request r, s => r.run s
  | .inquiry _ act, s => act s
  | .inspection view, s => ⟨s,[],.ok (view [] s)⟩

inductive Pause (α : Type) where
  | finished (result : Except Error α)
  | writing (plan : Plan α)
  | waiting (rest : Task α)

namespace Pause
variable {α : Type}

def finish (p : Pause α) (s : Realm) : Outcome α :=
  match p with
  | finished result => ⟨s,[],result⟩
  | writing plan => plan.run s
  | waiting rest => rest.run s

def isWriting : Pause α → Bool
  | writing _ => true
  | _ => false

def isWaiting : Pause α → Bool
  | waiting _ => true
  | _ => false

end Pause

structure Progress (α : Type) where
  realm : Realm
  events : List Event
  held : List LockKey
  pause : Pause α

/-- Runs up to the batch, or to a lock that is `busy`. -/
def Request.advance {α : Type} (busy : List LockKey) : Request α → Realm → Progress α
  | refuse e, s => ⟨s,[],[],.finished (.error e)⟩
  | note n next, s =>
    let p := next.advance busy s
    { p with events := ⟨.debug,n⟩ :: p.events }
  | look next, s => (next s).advance busy s
  | lock key next, s =>
    if key ∈ busy then ⟨s,[],[],.waiting (.request (lock key next))⟩
    else
      let p := next.advance busy s
      { p with held := key :: p.held }
  | vacant cell actor next, s =>
    match s.checkVacant cell actor with
    | ⟨s,events,.ok ()⟩ =>
      let p := next.advance busy s
      { p with events := events ++ p.events }
    | ⟨s,events,.error e⟩ => ⟨s,events,[],.finished (.error e)⟩
  | commit plan, s => ⟨s,[],[],.writing plan⟩

namespace Task
variable {α β : Type}

def advance (busy : List LockKey) : Task α → Realm → Progress α
  | request r, s => r.advance busy s
  | inquiry needs act, s =>
    if needs.any (· ∈ busy) then ⟨s,[],[],.waiting (inquiry needs act)⟩
    else
      let o := act s
      ⟨o.realm,o.events,[],.finished o.result⟩
  | inspection view, s => ⟨s,[],[],.finished (.ok (view busy s))⟩

structure Finish (α β : Type) where
  realm : Realm
  events : List Event
  first : Except Error α
  second : Except Error β

/-- Two tasks at once, `first` a little ahead of `second`. -/
def race (first : Task α) (second : Task β) (s : Realm) : Finish α β :=
  let p := first.advance [] s
  let q := second.advance (if p.pause.isWriting then p.held else []) p.realm
  if q.pause.isWaiting then
    let a := p.pause.finish q.realm
    let b := q.pause.finish a.realm
    ⟨b.realm, p.events ++ q.events ++ a.events ++ b.events, a.result, b.result⟩
  else
    let b := q.pause.finish q.realm
    let a := p.pause.finish b.realm
    ⟨a.realm, p.events ++ q.events ++ b.events ++ a.events, a.result, b.result⟩

end Task

end Freehold
