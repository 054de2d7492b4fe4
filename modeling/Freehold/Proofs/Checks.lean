import Freehold.Operation
import Freehold.Proofs.Request
import Mathlib.Data.List.Forall2

/-!
When each check of a request is passed, in terms of what the cache and the directory hold.
-/

namespace Freehold
open Std

theorem Except.bind_eq_ok_iff {ε α β : Type} {x : Except ε α} {f : α → Except ε β} {b : β} :
    (x >>= f) = .ok b ↔ ∃ a, x = .ok a ∧ f a = .ok b := by
  cases x with
  | error e => simp [bind, Except.bind]
  | ok a => simp [bind, Except.bind]

namespace Directory
variable {d : Directory} {village : VillageId} {actor target : PlayerId} {c : Capability}

theorem activeVillage_eq_ok_iff {v : Village} :
    d.activeVillage village = .ok v ↔ d.villages[village]? = some v := by
  unfold activeVillage village?
  cases d.villages[village]? <;> simp

/-- A check gives what it looked up, and is passed just when that was there and allows it. The same
is stated of each check of the directory below. -/
theorem member_eq_ok_iff {m : Membership} :
    d.member village target = .ok m ↔ d.members[(⟨village,target⟩ : MemberKey)]? = some m := by
  unfold member membership?
  cases d.members[(⟨village,target⟩ : MemberKey)]? <;> simp

theorem requireMayor_eq_ok_iff {error : Error} {note : Note} {m : Membership} :
    d.requireMayor village actor error note = .ok m ↔
      d.members[(⟨village,actor⟩ : MemberKey)]? = some m ∧ m.isMayor = true := by
  unfold requireMayor membership?
  cases d.members[(⟨village,actor⟩ : MemberKey)]? with
  | none => simp
  | some found =>
    by_cases hf : found.isMayor = true
    · simp only [if_pos hf, Except.ok.injEq, Option.some.injEq]
      exact ⟨fun h => ⟨h,h ▸ hf⟩,And.left⟩
    · simp only [if_neg hf, Option.some.injEq, reduceCtorEq, false_iff, not_and]
      rintro rfl
      exact hf

theorem mayorOnly_eq_ok_iff {what : String} {m : Membership} :
    d.mayorOnly village actor what = .ok m ↔
      d.members[(⟨village,actor⟩ : MemberKey)]? = some m ∧ m.isMayor = true :=
  requireMayor_eq_ok_iff

theorem requireCapability_eq_ok_iff {u : Unit} :
    d.requireCapability village actor c = .ok u ↔ d.hasCapability ⟨village,actor⟩ c = true := by
  unfold requireCapability
  split <;> simp_all

theorem ownVillage_eq_ok_iff {v : VillageId} :
    d.ownVillage actor = .ok v ↔ d.villageOf[actor]? = some v := by
  unfold ownVillage
  cases d.villageOf[actor]? <;> simp

theorem checkFree_eq_ok_iff {player : Actor} {u : Unit} :
    d.checkFree player = .ok u ↔ player.id ∉ d.villageOf := by
  unfold checkFree
  split <;> simp_all

/-- What may be handed out or taken back depends on the role of the one who acts, and nothing is
handed to a mayor. -/
theorem checkGrantChange_eq_ok_iff {u : Unit} :
    d.checkGrantChange actor village target c = .ok u ↔
      (∃ v, d.villages[village]? = some v) ∧
      (∃ m, d.members[(⟨village,actor⟩ : MemberKey)]? = some m ∧
        d.mayManage ⟨village,actor⟩ m.role c = true) ∧
      ∃ m, d.members[(⟨village,target⟩ : MemberKey)]? = some m ∧ m.isMayor = false := by
  unfold checkGrantChange membership?
  simp only [Except.bind_eq_ok_iff, activeVillage_eq_ok_iff]
  cases d.members[(⟨village,actor⟩ : MemberKey)]? with
  | none => simp
  | some acting =>
    by_cases hm : d.mayManage ⟨village,actor⟩ acting.role c = true
    · simp only [if_pos hm, Except.bind_eq_ok_iff, member_eq_ok_iff]
      simp [hm]
    · simp [hm]

theorem checkFounding_eq_ok_iff {founder : Actor} {name : String} {u : Unit} :
    d.checkFounding founder name = .ok u ↔
      VillageName.key name ∉ d.names ∧ founder.id ∉ d.villageOf := by
  unfold checkFounding
  split
  · simp_all
  · next hn => simp [checkFree_eq_ok_iff, hn]

theorem checkRenaming_eq_ok_iff {name : String} {v : Village} :
    d.checkRenaming village actor name = .ok v ↔
      d.villages[village]? = some v ∧ d.hasCapability ⟨village,actor⟩ .renameVillage = true ∧
      ∀ other, d.names[VillageName.key name]? = some other → other = village := by
  unfold checkRenaming
  simp only [Except.bind_eq_ok_iff, activeVillage_eq_ok_iff, requireCapability_eq_ok_iff]
  cases d.names[VillageName.key name]? with
  | none => grind
  | some other =>
    by_cases ho : other = village
    · grind
    · simp [ho]

theorem checkInvitation_eq_ok_iff {member : Actor} {u : Unit} :
    d.checkInvitation actor village member = .ok u ↔
      (∃ v, d.villages[village]? = some v) ∧
      d.hasCapability ⟨village,actor⟩ .inviteMembers = true ∧ member.id ∉ d.villageOf := by
  unfold checkInvitation
  simp only [Except.bind_eq_ok_iff, activeVillage_eq_ok_iff, requireCapability_eq_ok_iff,
    checkFree_eq_ok_iff]
  simp

theorem checkKick_eq_ok_iff {u : Unit} :
    d.checkKick actor village target = .ok u ↔
      (∃ v, d.villages[village]? = some v) ∧
      d.hasCapability ⟨village,actor⟩ .kickMembers = true ∧ target ≠ actor ∧
      ∃ m, d.members[(⟨village,target⟩ : MemberKey)]? = some m ∧ m.isMayor = false := by
  unfold checkKick
  simp only [Except.bind_eq_ok_iff, activeVillage_eq_ok_iff, requireCapability_eq_ok_iff]
  by_cases ht : target = actor
  · simp [ht]
  · simp only [if_neg ht, Except.bind_eq_ok_iff, member_eq_ok_iff]
    simp [ht]

theorem checkRoleChange_eq_ok_iff {m : Membership} :
    d.checkRoleChange actor village target = .ok m ↔
      (∃ v, d.villages[village]? = some v) ∧
      (∃ own, d.members[(⟨village,actor⟩ : MemberKey)]? = some own ∧ own.isMayor = true) ∧
      target ≠ actor ∧ d.members[(⟨village,target⟩ : MemberKey)]? = some m := by
  unfold checkRoleChange
  simp only [Except.bind_eq_ok_iff, activeVillage_eq_ok_iff, mayorOnly_eq_ok_iff]
  by_cases ht : target = actor
  · simp [ht]
  · simp only [if_neg ht, member_eq_ok_iff]
    simp [ht]

theorem checkLeave_eq_ok_iff {u : Unit} :
    d.checkLeave village actor = .ok u ↔
      ∃ m, d.members[(⟨village,actor⟩ : MemberKey)]? = some m ∧ m.isMayor = false := by
  unfold checkLeave membership?
  cases d.members[(⟨village,actor⟩ : MemberKey)]? <;> simp

theorem checkTransfer_eq_ok_iff {v : Village} {old new : Membership} :
    d.checkTransfer actor village target = .ok (v,old,new) ↔
      d.villages[village]? = some v ∧
      (d.members[(⟨village,actor⟩ : MemberKey)]? = some old ∧ old.isMayor = true) ∧
      target ≠ actor ∧ d.members[(⟨village,target⟩ : MemberKey)]? = some new := by
  unfold checkTransfer
  simp only [Except.bind_eq_ok_iff, activeVillage_eq_ok_iff, mayorOnly_eq_ok_iff]
  by_cases ht : target = actor
  · simp [ht]
  · simp only [if_neg ht, Except.bind_eq_ok_iff, member_eq_ok_iff]
    grind

theorem villageFor_eq_ok_iff {v : Village} :
    d.villageFor village actor c = .ok v ↔
      d.villages[village]? = some v ∧ d.hasCapability ⟨village,actor⟩ c = true := by
  unfold villageFor
  simp only [Except.bind_eq_ok_iff, activeVillage_eq_ok_iff, requireCapability_eq_ok_iff]
  grind

theorem checkRevocation_eq_ok_iff {key : MemberKey} {u : Unit} :
    d.checkRevocation actor key c = .ok u ↔
      d.checkGrantChange actor key.village key.member c = .ok () ∧ c ∈ d.granted key := by
  unfold checkRevocation
  simp only [Except.bind_eq_ok_iff]
  by_cases hc : c ∈ d.granted key
  · simp only [if_pos hc]
    exact ⟨fun ⟨_,h,_⟩ => ⟨h,hc⟩,fun ⟨h,_⟩ => ⟨(),h,trivial⟩⟩
  · simp [hc]

end Directory

def Realm.Owns (s : Realm) (owner : Owner) (cells : List Cell) (claims : List Claim) : Prop :=
  List.Forall₂ (fun cell claim => s.cache.owner? cell = some claim ∧ claim.owner = owner)
    cells claims

/-- Claims are looked up cell by cell, each in the cache and under the given owner. -/
theorem Realm.owns_cons_iff {s : Realm} {owner : Owner} {cell : Cell} {cells : List Cell}
    {claims : List Claim} :
    s.Owns owner (cell :: cells) claims ↔
      ∃ claim rest, s.cache.owner? cell = some claim ∧ claim.owner = owner ∧
        s.Owns owner cells rest ∧ claim :: rest = claims := by
  unfold Owns
  rw [List.forall₂_cons_left_iff]
  grind

theorem Except.map_eq_ok_iff {ε α β : Type} {x : Except ε α} {f : α → β} {b : β} :
    x.map f = .ok b ↔ ∃ a, x = .ok a ∧ f a = b := by
  cases x <;> simp [Except.map]

theorem Except.mapError_eq_ok_iff {ε η α : Type} {x : Except ε α} {f : ε → η} {a : α} :
    x.mapError f = .ok a ↔ x = .ok a := by
  cases x <;> simp [Except.mapError]

namespace Realm
variable {s : Realm} {actor : PlayerId} {cell : Cell} {village : VillageId}

theorem claimAt_eq_ok_iff {claim : Claim} :
    s.claimAt cell = .ok claim ↔ s.cache.owner? cell = some claim := by
  unfold claimAt
  cases s.cache.owner? cell <;> simp

theorem releaseGround_eq_ok_iff {claim : Claim} {ground : HistoryAction} :
    s.releaseGround actor cell claim = .ok ground ↔
      (claim.owner = .personal actor ∧ ground = .unclaimed) ∨
      (claim.owner ≠ .personal actor ∧ s.isElevated actor = true ∧ ground = .confiscated) := by
  unfold releaseGround
  by_cases ho : claim.owner = .personal actor
  · rw [if_pos ho]
    constructor
    · intro h
      cases h
      exact .inl ⟨ho,rfl⟩
    · rintro (⟨-,rfl⟩ | ⟨hn,-⟩)
      · rfl
      · exact absurd ho hn
  · by_cases he : s.isElevated actor = true
    · simp [ho, he, eq_comm]
    · rw [if_neg ho, if_neg he]
      cases hk : claim.owner <;> simp_all

/-- A free slot has to be the one after the mark. What is paid for has none. -/
theorem checkSlot_eq_ok_iff {cost : Cost} {u : Unit} :
    s.checkSlot actor cell cost = .ok u ↔
      ∀ slot, cost.freeSlot = some slot → slot = s.cache.markOf actor + 1 := by
  unfold checkSlot
  cases cost.freeSlot with
  | none => simp
  | some slot => by_cases hs : slot = s.cache.markOf actor + 1 <;> simp [hs]

theorem checkNewcomer_eq_ok_iff {veteran : Option Bool} {u : Unit} :
    s.checkNewcomer actor cell veteran = .ok u ↔
      ∀ v, veteran = some v → s.config.claims.checkLimit (s.cache.countOf actor) v = .ok () := by
  unfold checkNewcomer
  cases veteran with
  | none => simp
  | some v => cases h : s.config.claims.checkLimit (s.cache.countOf actor) v <;> simp [h]

theorem checkOffer_eq_ok_iff {cost : Cost} {u : Unit} :
    s.checkOffer cost = .ok u ↔
      cost.checkForm = .ok () ∧ s.config.claims.checkOffered cost = .ok () := by
  unfold checkOffer
  cases hf : cost.checkForm <;> simp [Except.mapError_eq_ok_iff]

theorem checkVillageOffer_eq_ok_iff {cost : Cost} {u : Unit} :
    s.checkVillageOffer cost = .ok u ↔
      cost.isFree = false ∧ cost.freeSlot = none ∧ cost.amount ≠ 0 ∧
      s.config.claims.checkOffered cost = .ok () := by
  unfold checkVillageOffer
  by_cases hf : cost.isFree ∨ cost.freeSlot.isSome
  · simp only [if_pos hf, reduceCtorEq, false_iff]
    rintro ⟨hn, hs, -⟩
    simp [hn, hs] at hf
  · by_cases ha : cost.amount = 0
    · simp [ha, hf]
    · simp only [if_neg hf, if_neg ha, Except.mapError_eq_ok_iff]
      simp_all

/-- The first cell of a village may lie anywhere. -/
theorem checkBorder_eq_ok_iff {u : Unit} :
    s.checkBorder village cell = .ok u ↔
      s.cache.landOf village = [] ∨ Region.borders (s.cache.landOf village) cell = true := by
  unfold checkBorder
  dsimp only
  split <;> simp_all

theorem foundersClaims_eq_ok_iff {cells : List Cell} {claims : List Claim} :
    s.foundersClaims actor cells = .ok claims ↔ s.Owns (.personal actor) cells claims := by
  induction cells generalizing claims with
  | nil => simp [foundersClaims, Owns, eq_comm]
  | cons cell cells ih =>
    rw [owns_cons_iff, foundersClaims]
    cases hc : s.cache.owner? cell with
    | none => simp
    | some claim =>
      by_cases ho : claim.owner = .personal actor
      · simp only [if_pos ho, Except.map_eq_ok_iff, ih]
        grind
      · simp only [if_neg ho]
        grind

theorem villageClaims_eq_ok_iff {cells : List Cell} {claims : List Claim} :
    s.villageClaims village cells = .ok claims ↔ s.Owns (.village village) cells claims := by
  induction cells generalizing claims with
  | nil => simp [villageClaims, Owns, eq_comm]
  | cons cell cells ih =>
    rw [owns_cons_iff, villageClaims]
    cases hc : s.cache.owner? cell with
    | none => simp
    | some claim =>
      by_cases ho : claim.owner = .village village
      · simp only [if_pos ho, Except.map_eq_ok_iff, ih]
        grind
      · simp only [if_neg ho]
        grind

end Realm

/-- Land for a village is one region, so at least one cell. -/
theorem checkOneRegion_eq_ok_iff {founder : PlayerId} {claims : List Claim} {u : Unit} :
    checkOneRegion founder claims = .ok u ↔ (Region.groups (claims.map (·.cell))).length = 1 := by
  unfold checkOneRegion
  dsimp only
  split <;> simp_all

end Freehold
