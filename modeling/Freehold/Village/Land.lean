import Freehold.Claiming
import Freehold.Region
import Freehold.Village.Authority

/-!
The land of a village: a member adds a paid cell at its border, and gives cells back.
-/

namespace Freehold

def Realm.checkVillageOffer (s : Realm) (cost : Cost) : Except Error Unit :=
  if cost.isFree ∨ cost.freeSlot.isSome then
    .error (.invalid "cost" "free slots apply to personal claims only")
  else if cost.amount = 0 then .error (.invalid "cost.amount" "paid claims must cost something")
  else (s.config.claims.checkOffered cost).mapError .costRejected

def Directory.villageFor (d : Directory) (village : VillageId) (actor : PlayerId)
    (c : Capability) : Except Refusal Village := do
  let v ← d.activeVillage village
  d.requireCapability village actor c
  .ok v

/-- A cell added to land that is there already has to border on it. -/
def Realm.checkBorder (s : Realm) (village : VillageId) (cell : Cell) : Except Refusal Unit :=
  let land := s.cache.landOf village
  if land = [] ∨ Region.borders land cell then .ok ()
  else
    .error ⟨.notConnected 2, some ⟨"village expansion not adjacent",
      [("cell",cell.text), ("village",village.text)]⟩⟩

def Realm.villageRegions (s : Realm) (village : VillageId) : List (List Cell) :=
  Region.groups (s.cache.landOf village)

def Realm.personalRegions (s : Realm) (player : PlayerId) : List (List Cell) :=
  Region.groups (s.cache.cellsOf player)

def Realm.villageClaims (s : Realm) (village : VillageId) :
    List Cell → Except Refusal (List Claim)
  | [] => .ok []
  | cell :: cells =>
    match s.cache.owner? cell with
    | some claim =>
      if claim.owner = .village village then (s.villageClaims village cells).map (claim :: ·)
      else .error ⟨.unauthorized (cell.text ++ " is not land of this village"),none⟩
    | none => .error ⟨.notFound ("claim at " ++ cell.text),none⟩

def Plan.returnCells (actor : PlayerId) (village : VillageId) (claims : List Claim)
    (reason : Option String) (stamp : Stamp) : Plan (List Claim) :=
  let batch := claims.flatMap fun c =>
    [.deleteClaim c.cell, .appendHistory (.removed c actor .unclaimed reason stamp)]
  { batch := batch
    cacheChanges := claims.map fun c => .remove c.cell
    failure := .notPersisted "return_village_cells" actor batch
    success := ⟨"village land returned",
      [("village",village.text), ("actor",actor.text), ("cells",toString claims.length)]⟩
    answer := claims }

namespace Request

def expand (actor : Actor) (cell : Cell) (cost : Cost) (stamp : Stamp) : Request Claim :=
  look fun s => demand (s.checkVillageOffer cost) <|
  require (s.directory.ownVillage actor.id) fun village =>
  lock (.village village) <| look fun s =>
    require (s.directory.villageFor village actor.id .expandLand) fun v =>
    lock (.cell cell) <| vacant cell actor.id <| look fun s =>
      require (s.checkBorder village cell) fun _ =>
        commit (.claim actor.id (.make cell (.village village) v.name cost stamp.now) stamp)

def returnCells (actor : Actor) (cells : List Cell) (reason : Option String) (stamp : Stamp) :
    Request (List Claim) :=
  if cells = [] then refuse (.missing "cells")
  else
    look fun s => require (s.directory.ownVillage actor.id) fun village =>
    lock (.village village) <| look fun s =>
      require (s.directory.villageFor village actor.id .reduceLand) fun _ =>
      lockCells (Cell.sorted cells) <| look fun s =>
        require (s.villageClaims village (Cell.sorted cells)) fun claims =>
          commit (.returnCells actor.id village claims reason stamp)

end Request

end Freehold
