import Freehold.Proofs.Checks
import Freehold.Proofs.Rules

/-!
What each command comes to. A command that is not refused hands one plan to the store, and this is
the table of those plans, each with all that had to hold for it. What a command does is read off
this table. No later proof looks at the steps by which a request gets there.
-/

namespace Freehold
open Std

structure Realm.MayClaim (s : Realm) (actor : PlayerId) (cell : Cell) (cost : Cost)
    (veteran : Option Bool) : Prop where
  form : cost.checkForm = .ok ()
  offered : s.config.claims.checkOffered cost = .ok ()
  vacant : s.Vacant cell
  -- A free claim takes the next slot.
  slot : ∀ slot, cost.freeSlot = some slot → slot = s.cache.markOf actor + 1
  room : ∀ v, veteran = some v → s.config.claims.checkLimit (s.cache.countOf actor) v = .ok ()

structure Realm.TakesForVillage (s : Realm) (cost : Cost) : Prop where
  paid : cost.isFree = false
  slotless : cost.freeSlot = none
  amount : cost.amount ≠ 0
  offered : s.config.claims.checkOffered cost = .ok ()

def Plan.personal (a : Actor) (cell : Cell) (cost : Cost) (stamp : Stamp) : Plan Answer :=
  (Plan.claim a.id (.make cell (.personal a.id) a.name cost stamp.now) stamp).map .claim

inductive Command.ComesTo (stamp : Stamp) (s : Realm) : Command → Plan Answer → Prop where
  | claim {a : Actor} {cell : Cell} {cost : Cost} (may : s.MayClaim a.id cell cost none) :
    ComesTo stamp s (.claim a cell cost) (.personal a cell cost stamp)
  | claimWithLimit {a : Actor} {cell : Cell} {cost : Cost} {veteran : Bool}
    (may : s.MayClaim a.id cell cost (some veteran)) :
    ComesTo stamp s (.claimWithLimit a cell cost veteran) (.personal a cell cost stamp)
  | claimNext {a : Actor} {cell : Cell} {requested : Option Tier} {cost : Cost} {veteran : Bool}
    (quoted : s.quote a.id requested = .ok cost) (may : s.MayClaim a.id cell cost (some veteran)) :
    ComesTo stamp s (.claimNext a cell requested veteran) (.personal a cell cost stamp)
  | unclaim {a : Actor} {cell : Cell} {claim : Claim} {ground : HistoryAction}
    {reason : Option String} (found : s.cache.owner? cell = some claim)
    (allowed : claim.owner = .personal a.id ∧ ground = .unclaimed ∨
      claim.owner ≠ .personal a.id ∧ s.isElevated a.id = true ∧ ground = .confiscated) :
    ComesTo stamp s (.unclaim a cell reason)
      ((Plan.release s.config.claims a.id cell claim ground reason stamp).map .release)
  | found {a : Actor} {name : String} {cells : List Cell} {claims : List Claim}
    (named : s.checkName name = .ok ()) (given : cells ≠ [])
    (unused : VillageName.key name ∉ s.directory.names)
    (free : a.id ∉ s.directory.villageOf)
    (own : s.Owns (.personal a.id) (Cell.sorted cells) claims)
    (region : (Region.groups (claims.map (·.cell))).length = 1) :
    ComesTo stamp s (.found a name cells) ((Plan.found a name claims stamp).map .village)
  | disband {a : Actor} {village : VillageId} {v : Village} {mayor : Membership}
    (active : s.directory.villages[village]? = some v)
    (member : s.directory.members[(⟨village,a.id⟩ : MemberKey)]? = some mayor)
    (office : mayor.isMayor = true) :
    ComesTo stamp s (.disband a village)
      ((Plan.disband v mayor (s.directory.membersOf village) (s.directory.grantsIn village)
        (s.stillOwned village (s.cache.landOf village)).1 (s.cache.landOf village).length a.id
        stamp).map fun _ => .done)
  | transfer {a : Actor} {village : VillageId} {next : PlayerId} {v : Village}
    {old new : Membership} (active : s.directory.villages[village]? = some v)
    (member : s.directory.members[(⟨village,a.id⟩ : MemberKey)]? = some old)
    (office : old.isMayor = true) (other : next ≠ a.id)
    (heir : s.directory.members[(⟨village,next⟩ : MemberKey)]? = some new) :
    ComesTo stamp s (.transfer a village next)
      ((Plan.transfer a.id village next v old new stamp).map fun _ => .done)
  | addMember {a member : Actor} {village : VillageId} {v : Village}
    (active : s.directory.villages[village]? = some v)
    (allowed : s.directory.hasCapability ⟨village,a.id⟩ .inviteMembers = true)
    (free : member.id ∉ s.directory.villageOf) :
    ComesTo stamp s (.addMember a village member)
      ((Plan.addMember a.id village member stamp).map .membership)
  | kick {a : Actor} {village : VillageId} {target : PlayerId} {v : Village} {m : Membership}
    (active : s.directory.villages[village]? = some v)
    (allowed : s.directory.hasCapability ⟨village,a.id⟩ .kickMembers = true)
    (other : target ≠ a.id)
    (member : s.directory.members[(⟨village,target⟩ : MemberKey)]? = some m)
    (plain : m.isMayor = false) :
    ComesTo stamp s (.kick a village target)
      ((Plan.kick a.id ⟨village,target⟩ (Write.removal s.directory ⟨village,target⟩)).map
        fun _ => .done)
  | setRole {a : Actor} {village : VillageId} {target : PlayerId} {role : Role} {v : Village}
    {own m : Membership} (lower : role ≠ .mayor)
    (active : s.directory.villages[village]? = some v)
    (acting : s.directory.members[(⟨village,a.id⟩ : MemberKey)]? = some own)
    (office : own.isMayor = true) (other : target ≠ a.id)
    (member : s.directory.members[(⟨village,target⟩ : MemberKey)]? = some m) :
    ComesTo stamp s (.setRole a village target role)
      ((Plan.setRole a.id village target role m).map .membership)
  | leave {a : Actor} {village : VillageId} {m : Membership}
    (home : s.directory.villageOf[a.id]? = some village)
    (member : s.directory.members[(⟨village,a.id⟩ : MemberKey)]? = some m)
    (plain : m.isMayor = false) :
    ComesTo stamp s (.leave a)
      ((Plan.leave ⟨village,a.id⟩ (Write.removal s.directory ⟨village,a.id⟩)).map .left)
  | rename {a : Actor} {village : VillageId} {name : String} {v : Village}
    (named : s.checkName name = .ok ())
    (active : s.directory.villages[village]? = some v)
    (allowed : s.directory.hasCapability ⟨village,a.id⟩ .renameVillage = true)
    (unused : ∀ other, s.directory.names[VillageName.key name]? = some other → other = village) :
    ComesTo stamp s (.rename a village name)
      ((Plan.rename v name (s.stillOwned village (s.cache.landOf village)).1 a.id stamp).map
        .village)
  | expand {a : Actor} {cell : Cell} {cost : Cost} {village : VillageId} {v : Village}
    (offer : s.TakesForVillage cost) (home : s.directory.villageOf[a.id]? = some village)
    (active : s.directory.villages[village]? = some v)
    (allowed : s.directory.hasCapability ⟨village,a.id⟩ .expandLand = true)
    (vacant : s.Vacant cell)
    (border : s.cache.landOf village = [] ∨
      Region.borders (s.cache.landOf village) cell = true) :
    ComesTo stamp s (.expand a cell cost)
      ((Plan.claim a.id (.make cell (.village village) v.name cost stamp.now) stamp).map .claim)
  | returnCells {a : Actor} {cells : List Cell} {reason : Option String} {village : VillageId}
    {v : Village} {claims : List Claim} (given : cells ≠ [])
    (home : s.directory.villageOf[a.id]? = some village)
    (active : s.directory.villages[village]? = some v)
    (allowed : s.directory.hasCapability ⟨village,a.id⟩ .reduceLand = true)
    (own : s.Owns (.village village) (Cell.sorted cells) claims) :
    ComesTo stamp s (.returnCells a cells reason)
      ((Plan.returnCells a.id village claims reason stamp).map .claims)
  | grant {a : Actor} {village : VillageId} {target : PlayerId} {c : Capability} {v : Village}
    {own m : Membership} (active : s.directory.villages[village]? = some v)
    (acting : s.directory.members[(⟨village,a.id⟩ : MemberKey)]? = some own)
    (allowed : s.directory.mayManage ⟨village,a.id⟩ own.role c = true)
    (member : s.directory.members[(⟨village,target⟩ : MemberKey)]? = some m)
    (plain : m.isMayor = false) :
    ComesTo stamp s (.grant a village target c)
      ((Plan.grant a.id ⟨village,target⟩ c stamp).map .permission)
  | revoke {a : Actor} {village : VillageId} {target : PlayerId} {c : Capability} {v : Village}
    {own m : Membership} (active : s.directory.villages[village]? = some v)
    (acting : s.directory.members[(⟨village,a.id⟩ : MemberKey)]? = some own)
    (allowed : s.directory.mayManage ⟨village,a.id⟩ own.role c = true)
    (member : s.directory.members[(⟨village,target⟩ : MemberKey)]? = some m)
    (plain : m.isMayor = false) (granted : c ∈ s.directory.granted ⟨village,target⟩) :
    ComesTo stamp s (.revoke a village target c)
      ((Plan.revoke a.id ⟨village,target⟩ c).map fun _ => .done)

/-- A check of the offer is passed by costs that can be paid for village land. -/
theorem Realm.checkVillageOffer_eq_ok_iff_takes {s : Realm} {cost : Cost} :
    s.checkVillageOffer cost = .ok () ↔ s.TakesForVillage cost := by
  rw [checkVillageOffer_eq_ok_iff]
  exact ⟨fun ⟨hp,hs,ha,ho⟩ => ⟨hp,hs,ha,ho⟩,fun ⟨hp,hs,ha,ho⟩ => ⟨hp,hs,ha,ho⟩⟩

namespace Request
open Directory Realm
variable {s : Realm} {a : Actor} {village : VillageId} {cell : Cell} {cost : Cost} {stamp : Stamp}

/-- A personal claim comes to its plan when the cost is on offer, the cell is vacant, a free slot is
the next one and the limit for newcomers allows it. -/
theorem plan?_claimPersonal {veteran : Option Bool} {p : Plan Claim} :
    (claimPersonal a cell cost veteran stamp).plan? s = some p ↔
      s.MayClaim a.id cell cost veteran ∧
        Plan.claim a.id (.make cell (.personal a.id) a.name cost stamp.now) stamp = p := by
  have hs (n : Nat) : (s.withReads n).checkSlot a.id cell cost = s.checkSlot a.id cell cost := rfl
  have hn (n : Nat) : (s.withReads n).checkNewcomer a.id cell veteran =
    s.checkNewcomer a.id cell veteran := rfl
  simp only [claimPersonal, plan?_look, plan?_demand, plan?_lock, plan?_vacant, plan?_require,
    plan?_commit, hs, hn, checkOffer_eq_ok_iff, checkSlot_eq_ok_iff, checkNewcomer_eq_ok_iff,
    Option.some.injEq]
  constructor
  · rintro ⟨⟨hf,ho⟩,hv,_,hslot,_,hroom,hp⟩
    exact ⟨⟨hf,ho,hv,hslot,hroom⟩,hp⟩
  · rintro ⟨⟨hf,ho,hv,hslot,hroom⟩,hp⟩
    exact ⟨⟨hf,ho⟩,hv,(),hslot,(),hroom,hp⟩

theorem plan?_claimNext {requested : Option Tier} {veteran : Bool} {p : Plan Claim} :
    (claimNext a cell requested veteran stamp).plan? s = some p ↔
      ∃ cost, s.quote a.id requested = .ok cost ∧
        (claimPersonal a cell cost (some veteran) stamp).plan? s = some p := by
  rw [claimNext, plan?_look]
  cases s.quote a.id requested <;> simp [claimWithLimit]

theorem plan?_leave {p : Plan VillageId} :
    (leave a).plan? s = some p ↔ ∃ village m, s.directory.villageOf[a.id]? = some village ∧
      (s.directory.members[(⟨village,a.id⟩ : MemberKey)]? = some m ∧ m.isMayor = false) ∧
      Plan.leave ⟨village,a.id⟩ (Write.removal s.directory ⟨village,a.id⟩) = p := by
  rw [leave, plan?_look]
  cases s.directory.villageOf[a.id]? <;> simp [checkLeave_eq_ok_iff]

end Request

namespace Command
open Request Directory Realm
variable {stamp : Stamp} {s : Realm} {c : Command} {p : Plan Answer}

/-- What each command comes to when nothing refuses it, and what then holds. -/
theorem ComesTo.of_plan? (h : (c.request stamp).plan? s = some p) : c.ComesTo stamp s p := by
  -- For each command the steps of its request turn into equations, which are then named.
  cases c <;> rw [request, plan?_map, Option.map_eq_some_iff] at h <;> obtain ⟨q,hq,rfl⟩ := h
  case claim a cell cost =>
    obtain ⟨hmay, rfl⟩ := plan?_claimPersonal.mp hq
    exact .claim hmay
  case claimWithLimit a cell cost veteran =>
    obtain ⟨hmay, rfl⟩ := plan?_claimPersonal.mp hq
    exact .claimWithLimit hmay
  case claimNext a cell requested veteran =>
    obtain ⟨cost, hquoted, hq⟩ := plan?_claimNext.mp hq
    obtain ⟨hmay, rfl⟩ := plan?_claimPersonal.mp hq
    exact .claimNext hquoted hmay
  case unclaim a cell reason =>
    simp only [Request.unclaim, plan?_lock, plan?_look, plan?_require, plan?_commit,
      claimAt_eq_ok_iff, releaseGround_eq_ok_iff, Option.some.injEq] at hq
    obtain ⟨claim, hfound, ground, hallowed, rfl⟩ := hq
    exact .unclaim hfound hallowed
  case found a name cells =>
    simp only [Request.found, plan?_look, plan?_demand, plan?_refuse_or, plan?_lock, plan?_require,
      plan?_lockCells, plan?_commit, checkFounding_eq_ok_iff, foundersClaims_eq_ok_iff,
      checkOneRegion_eq_ok_iff, Option.some.injEq] at hq
    obtain ⟨hnamed, hgiven, _, ⟨hunused,hfree⟩, claims, hown, _, hregion, rfl⟩ := hq
    exact .found hnamed hgiven hunused hfree hown hregion
  case disband a village =>
    simp only [Request.disband, plan?_lock, plan?_look, plan?_require, plan?_lockCells,
      plan?_noteAll, plan?_commit, activeVillage_eq_ok_iff, requireMayor_eq_ok_iff,
      Option.some.injEq] at hq
    obtain ⟨v, hactive, mayor, ⟨hmember,hoffice⟩, rfl⟩ := hq
    exact .disband hactive hmember hoffice
  case transfer a village next =>
    simp only [Request.transfer, plan?_lock, plan?_look, plan?_require, plan?_commit,
      Prod.exists, checkTransfer_eq_ok_iff, Option.some.injEq] at hq
    obtain ⟨v, old, new, ⟨hactive,⟨hmember,hoffice⟩,hother,hheir⟩, rfl⟩ := hq
    exact .transfer hactive hmember hoffice hother hheir
  case addMember a village member =>
    simp only [Request.addMember, plan?_lock, plan?_look, plan?_require, plan?_commit,
      checkInvitation_eq_ok_iff, Option.some.injEq] at hq
    obtain ⟨_, ⟨⟨v,hactive⟩,hallowed,hfree⟩, rfl⟩ := hq
    exact .addMember hactive hallowed hfree
  case kick a village target =>
    simp only [Request.kick, plan?_lock, plan?_look, plan?_require, plan?_commit,
      checkKick_eq_ok_iff, Option.some.injEq] at hq
    obtain ⟨_, ⟨⟨v,hactive⟩,hallowed,hother,m,hmember,hplain⟩, rfl⟩ := hq
    exact .kick hactive hallowed hother hmember hplain
  case setRole a village target role =>
    simp only [Request.setRole, plan?_refuse_or, plan?_lock, plan?_look, plan?_require,
      plan?_commit, checkRoleChange_eq_ok_iff, Option.some.injEq] at hq
    obtain ⟨hlower, m, ⟨⟨v,hactive⟩,⟨own,hacting,hoffice⟩,hother,hmember⟩, rfl⟩ := hq
    exact .setRole hlower hactive hacting hoffice hother hmember
  case leave a =>
    obtain ⟨village, m, hhome, ⟨hmember,hplain⟩, rfl⟩ := plan?_leave.mp hq
    exact .leave hhome hmember hplain
  case rename a village name =>
    simp only [Request.rename, plan?_look, plan?_demand, plan?_lock, plan?_require,
      plan?_lockCells, plan?_commit, checkRenaming_eq_ok_iff, Option.some.injEq] at hq
    obtain ⟨hnamed, v, ⟨hactive,hallowed,hunused⟩, rfl⟩ := hq
    exact .rename hnamed hactive hallowed hunused
  case expand a cell cost =>
    simp only [Request.expand, plan?_look, plan?_demand, plan?_lock, plan?_require, plan?_vacant,
      plan?_commit, checkVillageOffer_eq_ok_iff_takes, ownVillage_eq_ok_iff, villageFor_eq_ok_iff,
      checkBorder_eq_ok_iff, Option.some.injEq] at hq
    obtain ⟨hoffer, village, hhome, v, ⟨hactive,hallowed⟩, hvacant, _, hborder, rfl⟩ := hq
    exact .expand hoffer hhome hactive hallowed hvacant hborder
  case returnCells a cells reason =>
    simp only [Request.returnCells, plan?_refuse_or, plan?_look, plan?_lock, plan?_require,
      plan?_lockCells, plan?_commit, ownVillage_eq_ok_iff, villageFor_eq_ok_iff,
      villageClaims_eq_ok_iff, Option.some.injEq] at hq
    obtain ⟨hgiven, village, hhome, v, ⟨hactive,hallowed⟩, claims, hown, rfl⟩ := hq
    exact .returnCells hgiven hhome hactive hallowed hown
  case grant a village target c =>
    simp only [Request.grant, plan?_lock, plan?_look, plan?_require, plan?_commit,
      checkGrantChange_eq_ok_iff, Option.some.injEq] at hq
    obtain ⟨_, ⟨⟨v,hactive⟩,⟨own,hacting,hallowed⟩,m,hmember,hplain⟩, rfl⟩ := hq
    exact .grant hactive hacting hallowed hmember hplain
  case revoke a village target c =>
    simp only [Request.revoke, plan?_lock, plan?_look, plan?_require, plan?_commit,
      checkRevocation_eq_ok_iff, checkGrantChange_eq_ok_iff, Option.some.injEq] at hq
    obtain ⟨_, ⟨⟨⟨v,hactive⟩,⟨own,hacting,hallowed⟩,m,hmember,hplain⟩,hgranted⟩, rfl⟩ := hq
    exact .revoke hactive hacting hallowed hmember hplain hgranted

/-- A command is refused, or its plan is one of the table and is carried out. -/
theorem refused_or_done (c : Command) (stamp : Stamp) (s : Realm) :
    (∃ e, (c.request stamp).Refused s e) ∨
      ∃ p, c.ComesTo stamp s p ∧ (c.request stamp).Done s p := by
  rcases Request.refused_or_done (c.ruled stamp) s with h | ⟨p,hp⟩
  · exact .inl h
  · exact .inr ⟨p,.of_plan? hp.plan,hp⟩

end Command

end Freehold
