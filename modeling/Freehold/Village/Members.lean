import Freehold.Village.Authority

/-!
Joining and leaving a village, and the roles in it. Whoever leaves loses all that was handed to him.
-/

namespace Freehold

def Directory.checkInvitation (d : Directory) (inviter : PlayerId) (village : VillageId)
    (member : Actor) : Except Refusal Unit := do
  let _ ← d.activeVillage village
  d.requireCapability village inviter .inviteMembers
  d.checkFree member

def Plan.addMember (inviter : PlayerId) (village : VillageId) (member : Actor) (stamp : Stamp) :
    Plan Membership :=
  let m := Membership.join village member .member stamp.now
  { batch := [.upsertMembership m]
    directoryChange := fun d => d.upsertMember m
    failure := .notPersisted "add_member" inviter [.upsertMembership m]
    success := ⟨"member added",
      [("village",village.text), ("inviter",inviter.text), ("member",member.id.text)]⟩
    answer := m }

def Write.removal (d : Directory) (key : MemberKey) : Batch :=
  (d.granted key).toList.map (fun c => .revokePermission ⟨key,c⟩) ++ [.deleteMembership key]

def Directory.checkKick (d : Directory) (kicker : PlayerId) (village : VillageId)
    (target : PlayerId) : Except Refusal Unit := do
  let _ ← d.activeVillage village
  d.requireCapability village kicker .kickMembers
  if target = kicker then .error ⟨.invalid "target" "use leave_village to leave",none⟩
  else
    let m ← d.member village target
    if m.isMayor then
      .error ⟨.unauthorized "the mayor cannot be kicked", some ⟨"attempt to kick mayor",
        [("village",village.text), ("kicker",kicker.text)]⟩⟩
    else .ok ()

def Plan.kick (kicker : PlayerId) (key : MemberKey) (batch : Batch) : Plan Unit where
  batch := batch
  directoryChange := fun d => d.removeMember key
  failure := .notPersisted "kick_member" kicker batch
  success := ⟨"member kicked",
    [("village",key.village.text), ("kicker",kicker.text), ("member",key.member.text)]⟩
  answer := ()

def Directory.checkRoleChange (d : Directory) (actor : PlayerId) (village : VillageId)
    (target : PlayerId) : Except Refusal Membership := do
  let _ ← d.activeVillage village
  let _ ← d.mayorOnly village actor "change member roles"
  if target = actor then
    .error ⟨.invalid "target" "the mayor's role changes only by transfer",none⟩
  else d.member village target

def Plan.setRole (actor : PlayerId) (village : VillageId) (target : PlayerId) (role : Role)
    (current : Membership) : Plan Membership :=
  let m := current.withRole role
  { batch := [.upsertMembership m]
    directoryChange := fun d => d.upsertMember m
    failure := .notPersisted "change_member_role" actor [.upsertMembership m]
    success := ⟨"member role changed",
      [("village",village.text), ("member",target.text), ("role",Vocabulary.code role)]⟩
    answer := m }

def Directory.checkLeave (d : Directory) (village : VillageId) (player : PlayerId) :
    Except Refusal Unit :=
  match d.membership? ⟨village,player⟩ with
  | none => .error ⟨.notFound ("village membership of " ++ player.text),none⟩
  | some m =>
    if m.isMayor then
      .error ⟨.unauthorized "the mayor must transfer mayorship or disband before leaving",none⟩
    else .ok ()

def Plan.leave (key : MemberKey) (batch : Batch) : Plan VillageId where
  batch := batch
  directoryChange := fun d => d.removeMember key
  failure := .notPersisted "leave_village" key.member batch
  success := ⟨"member left", [("village",key.village.text), ("member",key.member.text)]⟩
  answer := key.village

def Directory.checkTransfer (d : Directory) (actor : PlayerId) (village : VillageId)
    (next : PlayerId) : Except Refusal (Village × Membership × Membership) := do
  let v ← d.activeVillage village
  let old ← d.mayorOnly village actor "transfer mayorship"
  if next = actor then .error ⟨.invalid "new_mayor" "already the mayor",none⟩
  else
    let new ← d.member village next
    .ok (v,old,new)

/-- What is written when the office of mayor passes on. The old mayor becomes a plain member. -/
def Plan.transfer (actor : PlayerId) (village : VillageId) (next : PlayerId) (v : Village)
    (old new : Membership) (stamp : Stamp) : Plan Unit :=
  let updated := { v with mayor := next, updatedAt := stamp.now }
  let demoted := old.withRole .member
  let promoted := new.withRole .mayor
  let batch := [.upsertMembership demoted, .upsertMembership promoted, .updateVillage updated]
  { batch := batch
    directoryChange := fun d =>
      ((d.upsertMember demoted).upsertMember promoted).updateVillage updated
    failure := .notPersisted "transfer_mayorship" actor batch
    success := ⟨"mayorship transferred",
      [("village",village.text), ("from",actor.text), ("to",next.text)]⟩
    answer := () }

namespace Request

def transfer (actor : Actor) (village : VillageId) (next : PlayerId) (stamp : Stamp) :
    Request Unit :=
  lock (.village village) <| look fun s =>
    require (s.directory.checkTransfer actor.id village next) fun (v,old,new) =>
      commit (.transfer actor.id village next v old new stamp)

def addMember (inviter : Actor) (village : VillageId) (member : Actor) (stamp : Stamp) :
    Request Membership :=
  lock (.village village) <| lock .directory <| look fun s =>
    require (s.directory.checkInvitation inviter.id village member) fun _ =>
      commit (.addMember inviter.id village member stamp)

def kick (kicker : Actor) (village : VillageId) (target : PlayerId) : Request Unit :=
  lock (.village village) <| look fun s =>
    require (s.directory.checkKick kicker.id village target) fun _ =>
      commit (.kick kicker.id ⟨village,target⟩ (Write.removal s.directory ⟨village,target⟩))

/-- Gives a member another role. Only the mayor may, and nobody becomes mayor this way. -/
def setRole (actor : Actor) (village : VillageId) (target : PlayerId) (role : Role) :
    Request Membership :=
  if role = .mayor then refuse (.invalid "role" "use transfer_mayorship to appoint a mayor")
  else
    lock (.village village) <| look fun s =>
      require (s.directory.checkRoleChange actor.id village target) fun current =>
        commit (.setRole actor.id village target role current)

/-- Leaves the village that the player belongs to. It is looked for before it is locked, so the
membership is looked for once more after that. -/
def leave (player : Actor) : Request VillageId :=
  look fun s =>
    match s.directory.villageOf[player.id]? with
    | none => refuse (.notFound ("village membership of " ++ player.id.text))
    | some village =>
      lock (.village village) <| look fun s =>
        require (s.directory.checkLeave village player.id) fun _ =>
          commit (.leave ⟨village,player.id⟩ (Write.removal s.directory ⟨village,player.id⟩))

end Request

end Freehold
