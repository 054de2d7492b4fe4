import Freehold.Proofs.DirectoryMirror
import Freehold.Protection

/-!
The gate, which asks only what is remembered, decides what the rows of the store say.
-/

namespace Freehold
open Std

inductive Realm.Admits (s : Realm) (cell : Cell) (actor : PlayerId) (action : WorldAction) :
    Prop where
  | unclaimed (free : s.storage.tables.claims[cell]? = none)
  | owner {claim : Claim} (stored : s.storage.tables.claims[cell]? = some claim)
    (own : claim.owner = .personal actor)
  | authority (elevated : actor ∈ s.elevated)
  | trusted {claim : Claim} {owner : PlayerId}
    (stored : s.storage.tables.claims[cell]? = some claim) (own : claim.owner = .personal owner)
    (trust : s.trusts owner actor = true)
  | member {claim : Claim} {village : VillageId} {m : Membership}
    (stored : s.storage.tables.claims[cell]? = some claim) (own : claim.owner = .village village)
    (seat : s.storage.tables.memberships[(⟨village,actor⟩ : MemberKey)]? = some m)
    (active : m.active = true)
    (right : m.role = .mayor ∨
      (⟨⟨village,actor⟩,action.needs⟩ : PermissionKey) ∈ s.storage.tables.permissions)

/-- Of a claim, its owner's trust and its village are asked, and no more than one of them answers. -/
theorem Provider.any_standard_speaks {s : Realm} {claim : Claim} {actor : PlayerId}
    {action : WorldAction} :
    (Provider.standard.any fun p => p.speaks s claim actor action) = true ↔
      (∃ owner, claim.owner = .personal owner ∧ s.trusts owner actor = true) ∨
      ∃ village, claim.owner = .village village ∧
        s.directory.hasCapability ⟨village,actor⟩ action.needs = true := by
  cases hc : claim.owner with
  | personal owner => simp [standard, speaks, hc]
  | village village => simp [standard, speaks, hc]

namespace Realm.Orderly
variable {s : Realm} {cell : Cell} {actor : PlayerId} {action : WorldAction} {claim : Claim}

/-- The directory has a capability of a member just when the store has a row for it, or the row of the
member makes him mayor. -/
theorem hasCapability_iff (h : s.Orderly) {village : VillageId} {c : Capability} :
    s.directory.hasCapability ⟨village,actor⟩ c = true ↔
      ∃ m, s.storage.tables.memberships[(⟨village,actor⟩ : MemberKey)]? = some m ∧
        m.active = true ∧ (m.role = .mayor ∨
          (⟨⟨village,actor⟩,c⟩ : PermissionKey) ∈ s.storage.tables.permissions) := by
  rw [← h.mirrors.members, ← h.mirrors.grants]
  unfold Directory.hasCapability
  cases hm : s.directory.members[(⟨village,actor⟩ : MemberKey)]? with
  | none => simp
  | some m =>
    -- Nobody stays in the directory whose row is not active, so the gate need not ask for that.
    have hactive : m.active = true := (h.sound.seated.seat _ m hm).1
    simp [Membership.isMayor, hactive]

/-- With the row of the cell at hand, the grounds are ownership, authority over all land, and what
the providers say. -/
theorem admits_iff_of_stored (h : s.Orderly)
    (hc : s.storage.tables.claims[cell]? = some claim) :
    s.Admits cell actor action ↔
      claim.owner = .personal actor ∨ s.isElevated actor = true ∨
        (Provider.standard.any fun p => p.speaks s claim actor action) = true := by
  have hsame {claim' : Claim} (hc' : s.storage.tables.claims[cell]? = some claim') :
      claim' = claim :=
    Option.some.inj (hc'.symm.trans hc)
  rw [isElevated, decide_eq_true_iff, Provider.any_standard_speaks]
  -- A cell has one row, so each ground speaks about the claim at hand.
  constructor
  · intro hp
    cases hp with
    | unclaimed free =>
      rw [hc] at free
      cases free
    | owner stored own => exact .inl (hsame stored ▸ own)
    | authority elevated => exact .inr (.inl elevated)
    | trusted stored own trust => exact .inr (.inr (.inl ⟨_,hsame stored ▸ own,trust⟩))
    | member stored own seat active right =>
      have hcap := h.hasCapability_iff.mpr ⟨_,seat,active,right⟩
      exact .inr (.inr (.inr ⟨_,hsame stored ▸ own,hcap⟩))
  · rintro (own | elevated | ⟨owner, own, trust⟩ | ⟨village, own, hcap⟩)
    · exact .owner hc own
    · exact .authority elevated
    · exact .trusted hc own trust
    · obtain ⟨m, seat, active, right⟩ := h.hasCapability_iff.mp hcap
      exact .member hc own seat active right

/-- A claimed cell is open on the grounds that its row gives, and a denial names the owner that its row
has. -/
theorem decide_of_stored (h : s.Orderly) (hc : s.storage.tables.claims[cell]? = some claim) :
    (s.Admits cell actor action ∧ (s.decide cell actor action).2 = .allowed) ∨
      ¬s.Admits cell actor action ∧
        (s.decide cell actor action).2 = .denied claim.ownerName claim.kind := by
  have hcached : s.cache.owner? cell = some claim := by
    rw [h.sync.owner?_eq]
    exact hc
  rw [h.admits_iff_of_stored hc]
  simp only [Realm.decide, decideWith, hcached]
  split
  · next hp => exact .inl ⟨hp,rfl⟩
  · next hn => exact .inr ⟨hn,rfl⟩

theorem decide_of_free (h : s.Orderly) (hc : s.storage.tables.claims[cell]? = none) :
    (s.decide cell actor action).2 = .allowed := by
  have hcached : s.cache.owner? cell = none := by
    rw [h.sync.owner?_eq]
    exact hc
  simp only [Realm.decide, decideWith, hcached]

end Realm.Orderly

/-- In every state that a server comes to, the gate lets a player act exactly on the grounds that the
rows of the store give. Else it denies, in the name of the owner on record. -/
theorem Managed.decide_eq_allowed_iff {s : Realm} (h : Managed s) (cell : Cell) (actor : PlayerId)
    (action : WorldAction) :
    ((s.decide cell actor action).2 = .allowed ↔ s.Admits cell actor action) ∧
    (¬s.Admits cell actor action →
      ∃ claim, s.storage.tables.claims[cell]? = some claim ∧
        (s.decide cell actor action).2 = .denied claim.ownerName claim.owner.kind) := by
  cases hc : s.storage.tables.claims[cell]? with
  | none =>
    have hp : s.Admits cell actor action := .unclaimed hc
    exact ⟨iff_of_true (h.orderly.decide_of_free hc) hp,fun hn => absurd hp hn⟩
  | some claim =>
    rcases h.orderly.decide_of_stored hc with ⟨hp,hd⟩ | ⟨hn,hd⟩
    · exact ⟨iff_of_true hd hp,fun hn => absurd hp hn⟩
    · refine ⟨iff_of_false ?_ hn,fun _ => ⟨claim,rfl,hd⟩⟩
      rw [hd]
      exact nofun

namespace Sample

def builders : Realm :=
  parish.runAll
    [(.command (.grant ann oakham ben.id .build),stamp 17),
      (.trust ben.id cay.id,stamp 18)]

/-- Ben may build on the land of the village since he was allowed to. Cay is trusted by him and by
nobody else. -/
theorem builders_decide_eq_allowed_iff :
    Managed builders ∧
    (builders.decide (road 1) ben.id .build).2 = .allowed ∧
    builders.Admits (road 1) ben.id .build ∧
    builders.Admits (road 5) cay.id .useContainer ∧
    ¬builders.Admits (road 1) cay.id .build ∧
    ∃ claim, builders.storage.tables.claims[road 1]? = some claim ∧
      (builders.decide (road 1) cay.id .build).2 = .denied claim.ownerName claim.owner.kind := by
  have hmanaged : Managed builders := managed_parish.runAll _
  have hben : (builders.decide (road 1) ben.id .build).2 = .allowed := by decide +kernel
  have htrust : (builders.decide (road 5) cay.id .useContainer).2 = .allowed := by decide +kernel
  have hcay : (builders.decide (road 1) cay.id .build).2 ≠ .allowed := by decide +kernel
  have hland := hmanaged.decide_eq_allowed_iff (road 1) ben.id .build
  have hown := hmanaged.decide_eq_allowed_iff (road 5) cay.id .useContainer
  have hother := hmanaged.decide_eq_allowed_iff (road 1) cay.id .build
  have hn : ¬builders.Admits (road 1) cay.id .build := fun hp => hcay (hother.1.mpr hp)
  exact ⟨hmanaged,hben,hland.1.mp hben,hown.1.mp htrust,hn,hother.2 hn⟩

end Sample

end Freehold
