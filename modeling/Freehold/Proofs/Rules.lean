import Freehold.Operation
import Freehold.Proofs.Request

/-!
What refuses a command is a rule. None of its checks reports a taken cell or a failure of the store:
the first comes only from asking for a vacant cell, the second only from that and from the batch.
-/

namespace Freehold
open Std

namespace Request
variable {α β : Type}

def RuledCheck (check : Except Refusal β) : Prop :=
  ∀ refusal, check = .error refusal → refusal.error.byRule = true

/-- A check that fails for nothing but rules is ruled. -/
theorem ruledCheck_ok (b : β) : RuledCheck (.ok b) := by
  intro refusal h
  cases h

theorem ruledCheck_error {refusal : Refusal} (h : refusal.error.byRule = true) :
    RuledCheck (.error refusal : Except Refusal β) := by
  intro other ho
  cases ho
  exact h

theorem RuledCheck.bind {γ : Type} {check : Except Refusal β} (h : RuledCheck check)
    {next : β → Except Refusal γ} (hn : ∀ b, RuledCheck (next b)) :
    RuledCheck (check >>= next) := by
  cases check with
  | ok b => exact hn b
  | error refusal => exact ruledCheck_error (h refusal rfl)

theorem RuledCheck.map {γ : Type} {check : Except Refusal β} (h : RuledCheck check) (f : β → γ) :
    RuledCheck (check.map f) := by
  cases check with
  | ok b => exact ruledCheck_ok _
  | error refusal => exact ruledCheck_error (h refusal rfl)

/-- A request is ruled if its checks are. That a cell is taken, or that the store fails, is not of
its own making. -/
theorem ruled_require {check : Except Refusal β} (h : RuledCheck check) {next : β → Request α}
    (hn : ∀ b, (next b).Ruled) : (require check next).Ruled := by
  match check with
  | .ok b => exact hn b
  | .error ⟨e,none⟩ => exact h _ rfl
  | .error ⟨e,some n⟩ => exact h _ rfl

theorem ruled_demand {check : Except Error Unit} (h : ∀ e, check = .error e → e.byRule = true)
    {next : Request α} (hn : next.Ruled) : (demand check next).Ruled := by
  match check with
  | .ok () => exact hn
  | .error e => exact h e rfl

theorem ruled_lockCells (cells : List Cell) {next : Request α} (hn : next.Ruled) :
    (lockCells cells next).Ruled := by
  induction cells with
  | nil => exact hn
  | cons cell cells ih => exact ih

theorem ruled_noteAll (notes : List Note) {next : Request α} (hn : next.Ruled) :
    (noteAll notes next).Ruled := by
  induction notes with
  | nil => exact hn
  | cons note notes ih => exact ih

theorem Ruled.map {r : Request α} (h : r.Ruled) (f : α → β) : (r.map f).Ruled := by
  induction r with
  | refuse | commit => exact h
  | note _ _ ih | lock _ _ ih | vacant _ _ _ ih => exact ih h
  | look _ ih => exact fun s => ih s (h s)

end Request

open Request

/-! ### Checks -/

namespace Directory
variable (d : Directory) (village : VillageId) (actor target : PlayerId) (c : Capability)

theorem ruledCheck_activeVillage : RuledCheck (d.activeVillage village) := by
  unfold activeVillage
  split
  · exact ruledCheck_ok _
  · exact ruledCheck_error rfl

theorem ruledCheck_member : RuledCheck (d.member village target) := by
  unfold member
  split
  · exact ruledCheck_ok _
  · exact ruledCheck_error rfl

theorem ruledCheck_requireMayor {error : Error} (he : error.byRule = true) (note : Note) :
    RuledCheck (d.requireMayor village actor error note) := by
  unfold requireMayor
  split
  · split
    · exact ruledCheck_ok _
    · exact ruledCheck_error he
  · exact ruledCheck_error he

theorem ruledCheck_requireCapability : RuledCheck (d.requireCapability village actor c) := by
  unfold requireCapability
  split
  · exact ruledCheck_ok _
  · exact ruledCheck_error rfl

theorem ruledCheck_ownVillage : RuledCheck (d.ownVillage actor) := by
  unfold ownVillage
  split
  · exact ruledCheck_ok _
  · exact ruledCheck_error rfl

theorem ruledCheck_checkFree (player : Actor) : RuledCheck (d.checkFree player) := by
  unfold checkFree
  split
  · exact ruledCheck_error rfl
  · exact ruledCheck_ok _

theorem ruledCheck_checkGrantChange : RuledCheck (d.checkGrantChange actor village target c) := by
  refine (d.ruledCheck_activeVillage village).bind fun _ => ?_
  split
  · exact ruledCheck_error rfl
  · split
    · refine (d.ruledCheck_member village target).bind fun m => ?_
      split
      · exact ruledCheck_error rfl
      · exact ruledCheck_ok _
    · exact ruledCheck_error rfl

theorem ruledCheck_checkFounding (founder : Actor) (name : String) :
    RuledCheck (d.checkFounding founder name) := by
  unfold checkFounding
  split
  · exact ruledCheck_error rfl
  · exact d.ruledCheck_checkFree founder

theorem ruledCheck_checkRenaming (name : String) :
    RuledCheck (d.checkRenaming village actor name) := by
  refine (d.ruledCheck_activeVillage village).bind fun _ => ?_
  refine (d.ruledCheck_requireCapability village actor _).bind fun _ => ?_
  split
  · split
    · exact ruledCheck_ok _
    · exact ruledCheck_error rfl
  · exact ruledCheck_ok _

theorem ruledCheck_checkInvitation (member : Actor) :
    RuledCheck (d.checkInvitation actor village member) := by
  refine (d.ruledCheck_activeVillage village).bind fun _ => ?_
  exact (d.ruledCheck_requireCapability village actor _).bind fun _ => d.ruledCheck_checkFree member

theorem ruledCheck_checkKick : RuledCheck (d.checkKick actor village target) := by
  refine (d.ruledCheck_activeVillage village).bind fun _ => ?_
  refine (d.ruledCheck_requireCapability village actor _).bind fun _ => ?_
  split
  · exact ruledCheck_error rfl
  · refine (d.ruledCheck_member village target).bind fun m => ?_
    split
    · exact ruledCheck_error rfl
    · exact ruledCheck_ok _

theorem ruledCheck_checkRoleChange : RuledCheck (d.checkRoleChange actor village target) := by
  refine (d.ruledCheck_activeVillage village).bind fun _ => ?_
  refine (d.ruledCheck_requireMayor village actor rfl _).bind fun _ => ?_
  split
  · exact ruledCheck_error rfl
  · exact d.ruledCheck_member village target

theorem ruledCheck_checkLeave : RuledCheck (d.checkLeave village actor) := by
  unfold checkLeave
  split
  · exact ruledCheck_error rfl
  · split
    · exact ruledCheck_error rfl
    · exact ruledCheck_ok _

theorem ruledCheck_checkTransfer : RuledCheck (d.checkTransfer actor village target) := by
  refine (d.ruledCheck_activeVillage village).bind fun _ => ?_
  refine (d.ruledCheck_requireMayor village actor rfl _).bind fun _ => ?_
  split
  · exact ruledCheck_error rfl
  · exact (d.ruledCheck_member village target).bind fun _ => ruledCheck_ok _

theorem ruledCheck_villageFor : RuledCheck (d.villageFor village actor c) := by
  refine (d.ruledCheck_activeVillage village).bind fun _ => ?_
  exact (d.ruledCheck_requireCapability village actor c).bind fun _ => ruledCheck_ok _

theorem ruledCheck_checkRevocation (key : MemberKey) :
    RuledCheck (d.checkRevocation actor key c) := by
  refine (d.ruledCheck_checkGrantChange key.village actor key.member c).bind fun _ => ?_
  split
  · exact ruledCheck_ok _
  · exact ruledCheck_error rfl

end Directory

namespace Realm
variable (s : Realm) (actor : PlayerId) (cell : Cell) (village : VillageId)

theorem byRule_of_checkOffered {config : ClaimConfig} {cost : Cost} {e : Error}
    (h : (config.checkOffered cost).mapError .costRejected = .error e) : e.byRule = true := by
  cases hc : config.checkOffered cost <;> rw [hc] at h <;> cases h
  rfl

theorem byRule_of_checkOffer {cost : Cost} {e : Error} (h : s.checkOffer cost = .error e) :
    e.byRule = true := by
  unfold checkOffer at h
  split at h
  · exact byRule_of_checkOffered h
  · next cause hf =>
    cases h
    unfold Cost.checkForm at hf
    split at hf
    · split at hf <;> cases hf
      rfl
    · cases hf
      rfl
    · cases hf
      rfl
    · split at hf <;> cases hf
      rfl

theorem byRule_of_checkVillageOffer {cost : Cost} {e : Error}
    (h : s.checkVillageOffer cost = .error e) : e.byRule = true := by
  unfold checkVillageOffer at h
  split at h
  · cases h
    rfl
  · split at h
    · cases h
      rfl
    · exact byRule_of_checkOffered h

theorem byRule_of_checkName {name : String} {e : Error} (h : s.checkName name = .error e) :
    e.byRule = true := by
  unfold checkName at h
  cases hc : VillageName.check name s.config.villages.shortestName.toNat
    s.config.villages.longestName.toNat <;> rw [hc] at h <;> cases h
  rfl

theorem byRule_of_quote {requested : Option Tier} {e : Error}
    (h : s.quote actor requested = .error e) : e.byRule = true := by
  unfold quote at h
  cases hc : s.config.claims.nextCost (s.cache.markOf actor) requested <;> rw [hc] at h <;> cases h
  rfl

theorem ruledCheck_claimAt : RuledCheck (s.claimAt cell) := by
  unfold claimAt
  split
  · exact ruledCheck_ok _
  · exact ruledCheck_error rfl

theorem ruledCheck_releaseGround (claim : Claim) :
    RuledCheck (s.releaseGround actor cell claim) := by
  unfold releaseGround
  split
  · exact ruledCheck_ok _
  · split
    · exact ruledCheck_ok _
    · split <;> exact ruledCheck_error rfl

theorem ruledCheck_checkSlot (cost : Cost) : RuledCheck (s.checkSlot actor cell cost) := by
  unfold checkSlot
  split
  · exact ruledCheck_ok _
  · dsimp only
    split
    · exact ruledCheck_ok _
    · exact ruledCheck_error rfl

theorem byRule_of_checkLimit {config : ClaimConfig} {count : Nat} {veteran : Bool} {e : Error}
    (h : config.checkLimit count veteran = .error e) : e.byRule = true := by
  unfold ClaimConfig.checkLimit at h
  split at h
  · split at h <;> cases h
    rfl
  · cases h

theorem ruledCheck_checkNewcomer (veteran : Option Bool) :
    RuledCheck (s.checkNewcomer actor cell veteran) := by
  unfold checkNewcomer
  split
  · exact ruledCheck_ok _
  · dsimp only
    split
    · exact ruledCheck_ok _
    · next e he => exact ruledCheck_error (byRule_of_checkLimit he)

theorem ruledCheck_checkBorder : RuledCheck (s.checkBorder village cell) := by
  unfold checkBorder
  dsimp only
  split
  · exact ruledCheck_ok _
  · exact ruledCheck_error rfl

theorem ruledCheck_foundersClaims (cells : List Cell) :
    RuledCheck (s.foundersClaims actor cells) := by
  induction cells with
  | nil => exact ruledCheck_ok _
  | cons cell cells ih =>
    unfold foundersClaims
    split
    · split
      · exact ih.map _
      · exact ruledCheck_error rfl
    · exact ruledCheck_error rfl

theorem ruledCheck_villageClaims (cells : List Cell) :
    RuledCheck (s.villageClaims village cells) := by
  induction cells with
  | nil => exact ruledCheck_ok _
  | cons cell cells ih =>
    unfold villageClaims
    split
    · split
      · exact ih.map _
      · exact ruledCheck_error rfl
    · exact ruledCheck_error rfl

end Realm

theorem ruledCheck_checkOneRegion (founder : PlayerId) (claims : List Claim) :
    RuledCheck (checkOneRegion founder claims) := by
  unfold checkOneRegion
  dsimp only
  split
  · exact ruledCheck_ok _
  · exact ruledCheck_error rfl

/-! ### Commands -/

namespace Request
open Directory Realm
variable (a : Actor) (village : VillageId) (cell : Cell) (cells : List Cell) (cost : Cost)
  (target : PlayerId) (c : Capability) (name : String) (reason : Option String) (stamp : Stamp)

theorem ruled_claimPersonal (veteran : Option Bool) :
    (claimPersonal a cell cost veteran stamp).Ruled := by
  intro s
  refine ruled_demand (fun e => byRule_of_checkOffer s) ?_
  intro s
  refine ruled_require (s.ruledCheck_checkSlot a.id cell cost) fun _ => ?_
  exact ruled_require (s.ruledCheck_checkNewcomer a.id cell veteran) fun _ => trivial

theorem ruled_claimNext (requested : Option Tier) (veteran : Bool) :
    (claimNext a cell requested veteran stamp).Ruled := by
  intro s
  dsimp only
  split
  · next cost _ => exact ruled_claimPersonal a cell cost stamp (some veteran)
  · next e he => exact byRule_of_quote s a.id he

theorem ruled_unclaim : (unclaim a cell reason stamp).Ruled := by
  intro s
  refine ruled_require (s.ruledCheck_claimAt cell) fun claim => ?_
  exact ruled_require (s.ruledCheck_releaseGround a.id cell claim) fun _ => trivial

theorem ruled_found : (found a name cells stamp).Ruled := by
  intro s
  refine ruled_demand (fun e => byRule_of_checkName s) ?_
  split
  · rfl
  · intro s
    refine ruled_require (s.directory.ruledCheck_checkFounding a name) fun _ => ?_
    refine ruled_lockCells _ fun s => ?_
    refine ruled_require (s.ruledCheck_foundersClaims a.id _) fun claims => ?_
    exact ruled_require (ruledCheck_checkOneRegion a.id claims) fun _ => trivial

theorem ruled_disband : (disband a village stamp).Ruled := by
  intro s
  refine ruled_require (s.directory.ruledCheck_activeVillage village) fun v => ?_
  refine ruled_require (s.directory.ruledCheck_requireMayor village a.id rfl _) fun mayor => ?_
  exact ruled_lockCells _ fun s => ruled_noteAll _ trivial

theorem ruled_transfer : (transfer a village target stamp).Ruled := by
  intro s
  exact ruled_require (s.directory.ruledCheck_checkTransfer village a.id target) fun _ => trivial

theorem ruled_addMember (member : Actor) : (addMember a village member stamp).Ruled := by
  intro s
  exact ruled_require (s.directory.ruledCheck_checkInvitation village a.id member) fun _ => trivial

theorem ruled_kick : (kick a village target).Ruled := by
  intro s
  exact ruled_require (s.directory.ruledCheck_checkKick village a.id target) fun _ => trivial

theorem ruled_setRole (role : Role) : (setRole a village target role).Ruled := by
  unfold setRole
  split
  · rfl
  · intro s
    exact ruled_require (s.directory.ruledCheck_checkRoleChange village a.id target)
      fun _ => trivial

theorem ruled_leave : (leave a).Ruled := by
  intro s
  dsimp only
  split
  · rfl
  · next village _ =>
    intro s
    exact ruled_require (s.directory.ruledCheck_checkLeave village a.id) fun _ => trivial

theorem ruled_rename : (rename a village name stamp).Ruled := by
  intro s
  refine ruled_demand (fun e => byRule_of_checkName s) ?_
  intro s
  refine ruled_require (s.directory.ruledCheck_checkRenaming village a.id name) fun v => ?_
  exact ruled_lockCells _ fun s => trivial

theorem ruled_expand : (expand a cell cost stamp).Ruled := by
  intro s
  refine ruled_demand (fun e => byRule_of_checkVillageOffer s) ?_
  refine ruled_require (s.directory.ruledCheck_ownVillage a.id) fun village => ?_
  intro s
  refine ruled_require (s.directory.ruledCheck_villageFor village a.id _) fun v => ?_
  intro s
  exact ruled_require (s.ruledCheck_checkBorder cell village) fun _ => trivial

theorem ruled_returnCells : (returnCells a cells reason stamp).Ruled := by
  unfold returnCells
  split
  · rfl
  · intro s
    refine ruled_require (s.directory.ruledCheck_ownVillage a.id) fun village => ?_
    intro s
    refine ruled_require (s.directory.ruledCheck_villageFor village a.id _) fun _ => ?_
    refine ruled_lockCells _ fun s => ?_
    exact ruled_require (s.ruledCheck_villageClaims village _) fun _ => trivial

theorem ruled_grant : (grant a village target c stamp).Ruled := by
  intro s
  exact ruled_require (s.directory.ruledCheck_checkGrantChange village a.id target c)
    fun _ => trivial

theorem ruled_revoke : (revoke a village target c).Ruled := by
  intro s
  exact ruled_require (s.directory.ruledCheck_checkRevocation a.id c ⟨village,target⟩)
    fun _ => trivial

end Request

namespace Command
open Request

/-- Whatever a command is refused for by its own checks is a rule. -/
theorem ruled (c : Command) (stamp : Stamp) : (c.request stamp).Ruled := by
  cases c with
  | claim a cell cost => exact (ruled_claimPersonal a cell cost stamp none).map _
  | claimWithLimit a cell cost veteran =>
    exact (ruled_claimPersonal a cell cost stamp (some veteran)).map _
  | claimNext a cell requested veteran =>
    exact (ruled_claimNext a cell stamp requested veteran).map _
  | unclaim a cell reason => exact (ruled_unclaim a cell reason stamp).map _
  | found a name cells => exact (ruled_found a cells name stamp).map _
  | disband a village => exact (ruled_disband a village stamp).map _
  | transfer a village next => exact (ruled_transfer a village next stamp).map _
  | addMember a village member => exact (ruled_addMember a village stamp member).map _
  | kick a village target => exact (ruled_kick a village target).map _
  | setRole a village target role => exact (ruled_setRole a village target role).map _
  | leave a => exact (ruled_leave a).map _
  | rename a village name => exact (ruled_rename a village name stamp).map _
  | expand a cell cost => exact (ruled_expand a cell cost stamp).map _
  | returnCells a cells reason => exact (ruled_returnCells a cells reason stamp).map _
  | grant a village target c => exact (ruled_grant a village target c stamp).map _
  | revoke a village target c => exact (ruled_revoke a village target c).map _

end Command

end Freehold
