import Freehold.Request

/-!
Who may do what in a village, read from the directory.
-/

namespace Freehold.Directory

def activeVillage (d : Directory) (village : VillageId) : Except Refusal Village :=
  match d.village? village with
  | some v => .ok v
  | none => .error ⟨.notFound ("village " ++ village.text), none⟩

def member (d : Directory) (village : VillageId) (player : PlayerId) : Except Refusal Membership :=
  match d.membership? ⟨village,player⟩ with
  | some m => .ok m
  | none =>
    .error ⟨.notFound ("member " ++ player.text ++ " of village " ++ village.text), none⟩

def requireMayor (d : Directory) (village : VillageId) (actor : PlayerId) (error : Error)
    (note : Note) : Except Refusal Membership :=
  match d.membership? ⟨village,actor⟩ with
  | some m => if m.isMayor then .ok m else .error ⟨error,some note⟩
  | none => .error ⟨error,some note⟩

def mayorOnly (d : Directory) (village : VillageId) (actor : PlayerId) (what : String) :
    Except Refusal Membership :=
  d.requireMayor village actor (.unauthorized ("only the mayor can " ++ what))
    ⟨"mayor-only action refused",
      [("village",village.text), ("actor",actor.text), ("what",what)]⟩

def requireCapability (d : Directory) (village : VillageId) (actor : PlayerId) (c : Capability) :
    Except Refusal Unit :=
  if d.hasCapability ⟨village,actor⟩ c then .ok ()
  else
    .error ⟨.unauthorized (Vocabulary.code c ++ " required"), some ⟨"capability missing",
      [("village",village.text), ("actor",actor.text), ("capability",Vocabulary.code c)]⟩⟩

def ownVillage (d : Directory) (player : PlayerId) : Except Refusal VillageId :=
  match d.villageOf[player]? with
  | some v => .ok v
  | none => .error ⟨.unauthorized "not a member of any village", none⟩

def checkFree (d : Directory) (player : Actor) : Except Refusal Unit :=
  if player.id ∈ d.villageOf then
    .error ⟨.validation (.constraintViolation "one_village_per_player"
      (player.name ++ " already belongs to a village")), none⟩
  else .ok ()

def nameTaken (name : String) : Error :=
  .validation (.constraintViolation "village_name_unique"
    ("a village named " ++ name ++ " already exists"))

def mayManage (d : Directory) (key : MemberKey) (role : Role) (c : Capability) : Bool :=
  match role with
  | .mayor => true
  | .deputyMayor => !c.isMayorOnly && d.hasCapability key .managePermissions
  | .member => false

def checkGrantChange (d : Directory) (actor : PlayerId) (village : VillageId) (target : PlayerId)
    (c : Capability) : Except Refusal Unit := do
  let _ ← d.activeVillage village
  match d.membership? ⟨village,actor⟩ with
  | none => .error ⟨.unauthorized "not a member of this village", none⟩
  | some acting =>
    if d.mayManage ⟨village,actor⟩ acting.role c then
      let m ← d.member village target
      if m.isMayor then .error ⟨.invalid "target" "the mayor holds every capability", none⟩
      else .ok ()
    else
      .error ⟨.unauthorized ("a " ++ Vocabulary.code acting.role ++ " cannot manage " ++
          Vocabulary.code c), some ⟨"permission change refused",
        [("village",village.text), ("actor",actor.text), ("role",Vocabulary.code acting.role),
          ("capability",Vocabulary.code c)]⟩⟩

end Freehold.Directory

namespace Freehold

def Note.notPersisted (operation : String) (actor : PlayerId) (batch : Batch) : Note :=
  ⟨"village change not persisted",
    [("operation",operation), ("actor",actor.text), ("ops",toString batch.length)]⟩

end Freehold
