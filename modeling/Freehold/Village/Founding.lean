import Freehold.Region
import Freehold.Village.Authority

/-!
The life of a village: founding it on connected land of the founder, renaming it, and disbanding it,
after which its land is the mayor's.
-/

namespace Freehold

def Realm.checkName (s : Realm) (name : String) : Except Error Unit :=
  (VillageName.check name s.config.villages.shortestName.toNat
    s.config.villages.longestName.toNat).mapError .validation

def Directory.checkFounding (d : Directory) (founder : Actor) (name : String) :
    Except Refusal Unit :=
  if VillageName.key name ∈ d.names then .error ⟨Directory.nameTaken name,none⟩
  else d.checkFree founder

def Realm.foundersClaims (s : Realm) (founder : PlayerId) : List Cell → Except Refusal (List Claim)
  | [] => .ok []
  | cell :: cells =>
    match s.cache.owner? cell with
    | some claim =>
      if claim.owner = .personal founder then (s.foundersClaims founder cells).map (claim :: ·)
      else .error (notOwned cell)
    | none => .error (notOwned cell)
where
  notOwned (cell : Cell) : Refusal :=
    ⟨.notAllOwnedByFounder cell, some ⟨"village cell not owned by founder",
      [("cell",cell.text), ("founder",founder.text)]⟩⟩

def checkOneRegion (founder : PlayerId) (claims : List Claim) : Except Refusal Unit :=
  let count := (Region.groups (claims.map (·.cell))).length
  if count = 1 then .ok ()
  else
    .error ⟨.notConnected count, some ⟨"village cells not connected",
      [("founder",founder.text), ("groups",toString count)]⟩⟩

def Write.passing (owner : Owner) (ownerName : String) (actor : PlayerId) (reason : String)
    (stamp : Stamp) (claim : Claim) : Batch :=
  let after := claim.passTo owner ownerName stamp.now
  [.updateClaim after, .appendHistory (.transferred claim after actor reason stamp)]

def Plan.found (founder : Actor) (name : String) (claims : List Claim) (stamp : Stamp) :
    Plan Village :=
  let village := Village.found stamp.village name founder.id stamp.now
  let mayor := Membership.join village.id founder .mayor stamp.now
  let batch := [.insertVillage village, .upsertMembership mayor] ++
    claims.flatMap (Write.passing (.village village.id) name founder.id "village founded" stamp)
  { batch := batch
    cacheChanges := claims.map fun c => .upsert (c.passTo (.village village.id) name stamp.now)
    directoryChange := fun d => (d.insertVillage village).upsertMember mayor
    failure := .notPersisted "create_village" founder.id batch
    success := ⟨"village created",
      [("village",village.id.text), ("name",name), ("founder",founder.id.text),
        ("cells",toString claims.length)]⟩
    answer := village }

def Realm.stillOwned (s : Realm) (village : VillageId) (cells : List Cell) :
    List Claim × List Note :=
  (cells.filterMap fun cell => (s.cache.owner? cell).filter fun c => c.owner = .village village,
    (cells.filter fun cell =>
      ((s.cache.owner? cell).filter fun c => c.owner = .village village).isNone).map fun cell =>
        ⟨"village cell released before disband", [("cell",cell.text), ("village",village.text)]⟩)

def Directory.grantsIn (d : Directory) (village : VillageId) : List PermissionKey :=
  (d.membersOf village).flatMap fun p =>
    (d.granted ⟨village,p⟩).toList.map fun c => ⟨⟨village,p⟩,c⟩

/-- What is written when a village ends: its land passes to the mayor, and its grants and members
go, all in one batch. `cells` is the number of cells it had when it was locked. -/
def Plan.disband (village : Village) (mayor : Membership) (members : List PlayerId)
    (grants : List PermissionKey) (claims : List Claim) (cells : Nat) (actor : PlayerId)
    (stamp : Stamp) : Plan Unit :=
  let batch :=
    claims.flatMap (Write.passing (.personal mayor.member) mayor.memberName actor
      "village disbanded" stamp) ++
    [.updateVillage { village with active := false, updatedAt := stamp.now }] ++
    grants.map .revokePermission ++ members.map fun p => .deleteMembership ⟨village.id,p⟩
  { batch := batch
    cacheChanges := claims.map fun c =>
      .upsert (c.passTo (.personal mayor.member) mayor.memberName stamp.now)
    directoryChange := fun d => d.removeVillage village.id
    failure := .notPersisted "disband_village" actor batch
    success := ⟨"village disbanded",
      [("village",village.id.text), ("name",village.name), ("mayor",mayor.member.text),
        ("cells",toString cells)]⟩
    answer := () }

def Directory.checkRenaming (d : Directory) (village : VillageId) (actor : PlayerId)
    (name : String) : Except Refusal Village := do
  let v ← d.activeVillage village
  d.requireCapability village actor .renameVillage
  match d.names[VillageName.key name]? with
  | some other => if other = village then .ok v else .error ⟨Directory.nameTaken name,none⟩
  | none => .ok v

/-- What is written for a new name. No owner changes, so the audit trail gets no entry, and the
claims keep the time of their last change. -/
def Plan.rename (village : Village) (name : String) (claims : List Claim) (actor : PlayerId)
    (stamp : Stamp) : Plan Village :=
  let renamed := { village with name := name, updatedAt := stamp.now }
  let relabelled := claims.map fun c => { c with ownerName := name }
  let batch := .updateVillage renamed :: relabelled.map .updateClaim
  { batch := batch
    cacheChanges := relabelled.map .upsert
    directoryChange := fun d => d.updateVillage renamed
    failure := .notPersisted "rename_village" actor batch
    success := ⟨"village renamed",
      [("village",village.id.text), ("from",village.name), ("to",name)]⟩
    answer := renamed }

namespace Request

def found (founder : Actor) (name : String) (cells : List Cell) (stamp : Stamp) :
    Request Village :=
  look fun s => demand (s.checkName name) <|
  if cells = [] then refuse (.missing "cells")
  else
    lock .directory <| look fun s => require (s.directory.checkFounding founder name) fun _ =>
    lockCells (Cell.sorted cells) <| look fun s =>
      require (s.foundersClaims founder.id (Cell.sorted cells)) fun claims =>
      require (checkOneRegion founder.id claims) fun _ =>
        commit (.found founder name claims stamp)

/-- Ends a village. Only its mayor may, and gets its land. A cell that was taken from the village
while its lock was waited for is passed over. -/
def disband (actor : Actor) (village : VillageId) (stamp : Stamp) : Request Unit :=
  lock (.village village) <| lock .directory <| look fun s =>
    require (s.directory.activeVillage village) fun v =>
    require (s.directory.requireMayor village actor.id
        (.unauthorized "only the mayor can disband the village")
        ⟨"disband by non-mayor refused", [("village",village.text), ("actor",actor.id.text)]⟩)
      fun mayor =>
    let cells := s.cache.landOf village
    let members := s.directory.membersOf village
    let grants := s.directory.grantsIn village
    lockCells cells <| look fun s =>
      let (claims,released) := s.stillOwned village cells
      noteAll released <|
        commit (.disband v mayor members grants claims cells.length actor.id stamp)

def rename (actor : Actor) (village : VillageId) (name : String) (stamp : Stamp) :
    Request Village :=
  look fun s => demand (s.checkName name) <|
  lock (.village village) <| lock .directory <| look fun s =>
    require (s.directory.checkRenaming village actor.id name) fun v =>
    let cells := s.cache.landOf village
    lockCells cells <| look fun s =>
      commit (.rename v name (s.stillOwned village cells).1 actor.id stamp)

end Request

end Freehold
