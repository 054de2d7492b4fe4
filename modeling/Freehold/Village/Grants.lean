import Freehold.Village.Authority

/-!
Handing capabilities to members, and taking them back. The mayor may do both with any capability, a
deputy who was handed the management of permissions with those that are not the mayor's alone.
-/

namespace Freehold

def Plan.grant (granter : PlayerId) (key : MemberKey) (c : Capability) (stamp : Stamp) :
    Plan Permission :=
  let p : Permission := ⟨key.village,key.member,c,granter,stamp.now⟩
  { batch := [.grantPermission p]
    directoryChange := fun d => d.grant key c
    failure := .notPersisted "grant_permission" granter [.grantPermission p]
    success := ⟨"permission granted",
      [("village",key.village.text), ("granter",granter.text), ("member",key.member.text),
        ("capability",Vocabulary.code c)]⟩
    answer := p }

def Directory.checkRevocation (d : Directory) (revoker : PlayerId) (key : MemberKey)
    (c : Capability) : Except Refusal Unit := do
  d.checkGrantChange revoker key.village key.member c
  if c ∈ d.granted key then .ok ()
  else
    .error ⟨.notFound (Vocabulary.code c ++ " grant for member " ++ key.member.text),none⟩

def Plan.revoke (revoker : PlayerId) (key : MemberKey) (c : Capability) : Plan Unit where
  batch := [.revokePermission ⟨key,c⟩]
  directoryChange := fun d => d.revoke key c
  failure := .notPersisted "revoke_permission" revoker [.revokePermission ⟨key,c⟩]
  success := ⟨"permission revoked",
    [("village",key.village.text), ("revoker",revoker.text), ("member",key.member.text),
      ("capability",Vocabulary.code c)]⟩
  answer := ()

namespace Request

def grant (granter : Actor) (village : VillageId) (target : PlayerId) (c : Capability)
    (stamp : Stamp) : Request Permission :=
  lock (.village village) <| look fun s =>
    require (s.directory.checkGrantChange granter.id village target c) fun _ =>
      commit (.grant granter.id ⟨village,target⟩ c stamp)

def revoke (revoker : Actor) (village : VillageId) (target : PlayerId) (c : Capability) :
    Request Unit :=
  lock (.village village) <| look fun s =>
    require (s.directory.checkRevocation revoker.id ⟨village,target⟩ c) fun _ =>
      commit (.revoke revoker.id ⟨village,target⟩ c)

end Request

end Freehold
