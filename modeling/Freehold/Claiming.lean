import Freehold.Request

/-!
Single cells: what the next one costs, claiming it, and releasing it again. A player pays either with
the next free slot or with the price of a tier, and an offer that the price list would not make is
refused before anything is locked.
-/

namespace Freehold

def Realm.quote (s : Realm) (player : PlayerId) (requested : Option Tier) : Except Error Cost :=
  (s.config.claims.nextCost (s.cache.markOf player) requested).mapError .costRejected

def Realm.checkOffer (s : Realm) (cost : Cost) : Except Error Unit :=
  match cost.checkForm with
  | .ok () => (s.config.claims.checkOffered cost).mapError .costRejected
  | .error e => .error e

def Realm.checkSlot (s : Realm) (actor : PlayerId) (cell : Cell) (cost : Cost) :
    Except Refusal Unit :=
  match cost.freeSlot with
  | none => .ok ()
  | some quoted =>
    let expected := s.cache.markOf actor + 1
    if quoted = expected then .ok ()
    else
      .error ⟨.staleQuote quoted expected, some ⟨"stale free-slot quote",
        [("cell",cell.text), ("actor",actor.text), ("quoted",toString quoted.toNat),
          ("expected",toString expected.toNat)]⟩⟩

def Realm.checkNewcomer (s : Realm) (actor : PlayerId) (cell : Cell) :
    Option Bool → Except Refusal Unit
  | none => .ok ()
  | some veteran =>
    let count := s.cache.countOf actor
    match s.config.claims.checkLimit count veteran with
    | .ok () => .ok ()
    | .error e =>
      .error ⟨e, some ⟨"claim limit reached",
        [("cell",cell.text), ("actor",actor.text), ("current",toString count)]⟩⟩

def slotText : Option UInt32 → String
  | some slot => "Some(" ++ toString slot.toNat ++ ")"
  | none => "None"

def Plan.claim (actor : PlayerId) (claim : Claim) (stamp : Stamp) : Plan Claim where
  batch := [.insertClaim claim, .appendHistory (.claimed claim actor stamp)]
  cacheChanges := [.insert claim]
  failure := ⟨"failed to persist claim", [("cell",claim.cell.text), ("actor",actor.text)]⟩
  success := ⟨"claim committed",
    [("cell",claim.cell.text), ("actor",actor.text), ("owner",claim.owner.text),
      ("cost",Vocabulary.code claim.cost.kind), ("free_slot",slotText claim.cost.freeSlot)]⟩
  answer := claim

structure Release where
  claim : Claim
  refund : Option Refund
deriving DecidableEq

/-- On what ground `actor` may release the claim of a cell: as its owner, or with authority over all
land. -/
def Realm.releaseGround (s : Realm) (actor : PlayerId) (cell : Cell) (claim : Claim) :
    Except Refusal HistoryAction :=
  if claim.owner = .personal actor then .ok .unclaimed
  else if s.isElevated actor then .ok .confiscated
  else
    match claim.owner with
    | .village _ =>
      .error ⟨.unauthorized "village land is returned through the village",
        some ⟨"unclaim of village land refused", [("cell",cell.text), ("actor",actor.text)]⟩⟩
    | .personal _ =>
      .error ⟨.unauthorized (cell.text ++ " is owned by " ++ claim.ownerName),
        some ⟨"unclaim by non-owner refused", [("cell",cell.text), ("actor",actor.text)]⟩⟩

def Realm.claimAt (s : Realm) (cell : Cell) : Except Refusal Claim :=
  match s.cache.owner? cell with
  | some claim => .ok claim
  | none => .error ⟨.notFound ("claim at " ++ cell.text), none⟩

/-- The owner is paid back for a release. A confiscation pays nothing. -/
def Plan.release (config : ClaimConfig) (actor : PlayerId) (cell : Cell) (claim : Claim)
    (ground : HistoryAction) (reason : Option String) (stamp : Stamp) : Plan Release where
  batch := [.deleteClaim cell, .appendHistory (.removed claim actor ground reason stamp)]
  cacheChanges := [.remove cell]
  failure := ⟨"failed to persist unclaim", [("cell",cell.text), ("actor",actor.text)]⟩
  success := ⟨"claim released",
    [("cell",cell.text), ("actor",actor.text), ("owner",claim.owner.text),
      ("action",Vocabulary.code ground)]⟩
  answer := ⟨claim, if ground = .unclaimed then config.refundFor claim.cost else none⟩

namespace Request

/-- A claim of a cell for the actor. With `veteran` given, the bound for newcomers applies. -/
def claimPersonal (actor : Actor) (cell : Cell) (cost : Cost) (veteran : Option Bool)
    (stamp : Stamp) : Request Claim :=
  look fun s => demand (s.checkOffer cost) <|
  lock (.cell cell) <| lock (.slots actor.id) <| vacant cell actor.id <|
  look fun s => require (s.checkSlot actor.id cell cost) fun _ =>
    require (s.checkNewcomer actor.id cell veteran) fun _ =>
      commit (.claim actor.id (.make cell (.personal actor.id) actor.name cost stamp.now) stamp)

def claim (actor : Actor) (cell : Cell) (cost : Cost) (stamp : Stamp) : Request Claim :=
  claimPersonal actor cell cost none stamp

def claimWithLimit (actor : Actor) (cell : Cell) (cost : Cost) (veteran : Bool) (stamp : Stamp) :
    Request Claim :=
  claimPersonal actor cell cost (some veteran) stamp

def claimNext (actor : Actor) (cell : Cell) (requested : Option Tier) (veteran : Bool)
    (stamp : Stamp) : Request Claim :=
  look fun s =>
    match s.quote actor.id requested with
    | .ok cost => claimWithLimit actor cell cost veteran stamp
    | .error e => refuse e

def unclaim (actor : Actor) (cell : Cell) (reason : Option String) (stamp : Stamp) :
    Request Release :=
  lock (.cell cell) <| look fun s =>
    require (s.claimAt cell) fun claim =>
    require (s.releaseGround actor.id cell claim) fun ground =>
      commit (.release s.config.claims actor.id cell claim ground reason stamp)

end Request

inductive Consistency where
  | inSync
  | drift (cached stored : Option Claim)
deriving DecidableEq

def boolText (b : Bool) : String := if b then "true" else "false"

def Realm.verify (s : Realm) (cell : Cell) : Outcome Consistency :=
  let cached := s.cache.owner? cell
  match s.storage.claimAt cell with
  | (storage,.error e) => ⟨{ s with storage := storage },[],.error e⟩
  | (storage,.ok stored) =>
    let s := { s with storage := storage }
    if cached = stored then ⟨s,[],.ok .inSync⟩
    else
      ⟨s,
        [.warn "cache and store disagree"
          [("cell",cell.text), ("cached",boolText cached.isSome),
            ("stored",boolText stored.isSome)]],
        .ok (.drift cached stored)⟩

end Freehold
