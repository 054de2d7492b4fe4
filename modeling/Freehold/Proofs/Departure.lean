import Freehold.Proofs.Restart
import Freehold.Proofs.Returning
import Freehold.Proofs.VillageRights

/-!
A membership leaves nothing behind. Whoever joins a village may be given a role and capabilities, and
lose some of them again. All that is written about it is about one place in the tables, and when the
member has gone that place is as empty as it was before.
-/

namespace Freehold
open Std

def Write.IsAbout (key : MemberKey) : Write → Prop
  | upsertMembership m => m.key = key
  | deleteMembership gone => gone = key
  | grantPermission p => p.key.place = key
  | revokePermission gone => gone.place = key
  | insertClaim _ | updateClaim _ | deleteClaim _ | appendHistory _ | insertVillage _
  | updateVillage _ => False

/-- Whoever is taken out, the writes are about his membership and what was handed to him. -/
theorem Write.isAbout_of_mem_removal {d : Directory} {key : MemberKey} {w : Write}
    (hw : w ∈ removal d key) : w.IsAbout key := by
  rw [removal, List.mem_append, List.mem_map, List.mem_singleton] at hw
  rcases hw with ⟨c,-,rfl⟩ | rfl <;> rfl

namespace Store
variable {t u x : Store} {key : MemberKey} {w : Write} {b : Batch}

structure AgreesBut (t u : Store) (key : MemberKey) : Prop where
  claims : u.claims = t.claims
  marks : u.marks = t.marks
  history : u.history = t.history
  villages : u.villages = t.villages
  seats : ∀ other : MemberKey, other ≠ key → u.memberships[other]? = t.memberships[other]?
  permits : ∀ other : PermissionKey, other.place ≠ key →
    u.permissions[other]? = t.permissions[other]?

theorem AgreesBut.refl (t : Store) (key : MemberKey) : t.AgreesBut t key :=
  ⟨rfl,rfl,rfl,rfl,fun _ _ => rfl,fun _ _ => rfl⟩

theorem AgreesBut.trans (h : t.AgreesBut u key) (h' : u.AgreesBut x key) : t.AgreesBut x key where
  claims := h'.claims.trans h.claims
  marks := h'.marks.trans h.marks
  history := h'.history.trans h.history
  villages := h'.villages.trans h.villages
  seats other ho := (h'.seats other ho).trans (h.seats other ho)
  permits other ho := (h'.permits other ho).trans (h.permits other ho)

theorem agreesBut_put (t : Store) (hw : w.IsAbout key) : t.AgreesBut (t.put w) key := by
  cases w with
  | upsertMembership | deleteMembership =>
    obtain rfl := hw
    refine ⟨rfl,rfl,rfl,rfl,fun other ho => ?_,fun _ _ => rfl⟩
    simp [put, ExtTreeMap.getElem?_insert, ExtTreeMap.getElem?_erase, Ne.symm ho]
  | grantPermission | revokePermission =>
    obtain rfl := hw
    refine ⟨rfl,rfl,rfl,rfl,fun _ _ => rfl,fun other ho => ?_⟩
    have hne {k : PermissionKey} (hk : other.place ≠ k.place) : k ≠ other := fun he => hk (he ▸ rfl)
    simp [put, ExtTreeMap.getElem?_insert, ExtTreeMap.getElem?_erase, hne ho]
  | insertClaim | updateClaim | deleteClaim | appendHistory | insertVillage | updateVillage =>
    exact hw.elim

theorem agreesBut_writeAll (hb : ∀ w ∈ b, w.IsAbout key) (hw : t.writeAll b = .ok u) :
    t.AgreesBut u key := by
  induction b generalizing t with
  | nil =>
    cases hw
    exact .refl _ key
  | cons w b ih =>
    obtain ⟨-, hrest⟩ := writeAll_cons_eq_ok_iff.mp hw
    have hfirst := t.agreesBut_put (hb w List.mem_cons_self)
    exact hfirst.trans (ih (fun w hm => hb w (List.mem_cons_of_mem _ hm)) hrest)

/-- They are the same altogether when the place is empty in both. -/
theorem AgreesBut.eq (h : t.AgreesBut u key) (ht : key ∉ t.memberships) (hu : key ∉ u.memberships)
    (hpermits : ∀ c, u.permissions[(⟨key,c⟩ : PermissionKey)]? =
      t.permissions[(⟨key,c⟩ : PermissionKey)]?) : u = t := by
  obtain ⟨hclaims, hmarks, hhistory, hvillages, hseats, hothers⟩ := h
  have hmemberships : u.memberships = t.memberships := by
    apply ExtTreeMap.ext_getElem?
    intro other
    by_cases ho : other = key
    · rw [ho, ExtTreeMap.getElem?_eq_none ht, ExtTreeMap.getElem?_eq_none hu]
    · exact hseats other ho
  have hpermissions : u.permissions = t.permissions := by
    apply ExtTreeMap.ext_getElem?
    rintro ⟨place, c⟩
    by_cases hp : place = key
    · exact hp ▸ hpermits c
    · exact hothers ⟨place,c⟩ hp
  cases t
  cases u
  simp_all

end Store

namespace Realm
variable {s u : Realm} {key : MemberKey}

/-- Two states that agree but for an empty place have the same tables, the same cache and the same
directory. -/
theorem eq_of_agreesBut (h : Managed s) (h' : Managed u)
    (ha : s.storage.tables.AgreesBut u.storage.tables key)
    (hs : key ∉ s.storage.tables.memberships) (hu : key ∉ u.storage.tables.memberships) :
    u.storage.tables = s.storage.tables ∧ u.cache = s.cache ∧ u.directory = s.directory := by
  have htables : u.storage.tables = s.storage.tables := ha.eq hs hu fun c => by
    rw [h.orderly.permit_eq_none c hs, h'.orderly.permit_eq_none c hu]
  obtain ⟨sync, sound, mirrors⟩ := h.orderly
  obtain ⟨sync', sound', mirrors'⟩ := h'.orderly
  refine ⟨htables,h'.exact.eq h.exact ?_ ?_, ?_⟩
  · rw [sync'.claims, sync.claims, htables]
  · rw [sync'.marks, sync.marks, htables]
  -- Both directories are the one that the rows are loaded into.
  · rw [← mirrors.build_eq sound sync.keyed (.refl _) (.refl _) (.refl _),
      ← mirrors'.build_eq sound' sync'.keyed (.refl _) (.refl _) (.refl _), htables]

end Realm

namespace Command
variable {c : Command} {stamp : Stamp} {s : Realm} {key : MemberKey}

theorem done_of_ok {answer : Answer} (h : (c.run stamp s).result = .ok answer) :
    ∃ p, c.ComesTo stamp s p ∧ (c.request stamp).Done s p := by
  rcases c.refused_or_done stamp s with ⟨e,he⟩ | hdone
  · cases he.result.symm.trans h
  · exact hdone

/-- A command whose writes are about one place, if it comes to any, leaves the rest as it was. -/
theorem agreesBut_run (h : ∀ p, c.ComesTo stamp s p → ∀ w ∈ p.batch, w.IsAbout key) :
    s.storage.tables.AgreesBut (c.run stamp s).realm.storage.tables key := by
  rcases c.refused_or_done stamp s with ⟨e,he⟩ | ⟨p,hp,hd⟩
  · have htables : (c.run stamp s).realm.storage.tables = s.storage.tables := he.tables
    rw [htables]
    exact .refl _ key
  · exact Store.agreesBut_writeAll (h p hp) hd.written

end Command

/-! ### The commands about one member -/

inductive Operation.IsAbout (key : MemberKey) : Operation → Prop
  | grant (a : Actor) (c : Capability) : IsAbout key (.command (.grant a key.village key.member c))
  | revoke (a : Actor) (c : Capability) :
    IsAbout key (.command (.revoke a key.village key.member c))
  | setRole (a : Actor) (role : Role) :
    IsAbout key (.command (.setRole a key.village key.member role))

inductive Command.Departs (key : MemberKey) : Command → Prop
  | kick (a : Actor) : Departs key (.kick a key.village key.member)
  | leave {a : Actor} (self : a.id = key.member) : Departs key (.leave a)

section Commands
variable {s : Realm} {key : MemberKey} {stamp : Stamp}

/-- Handing a capability to a member, taking one back or changing his role leaves all other rows
alone. -/
theorem Operation.IsAbout.agreesBut {o : Operation} (ho : o.IsAbout key) (h : s.Orderly) :
    s.storage.tables.AgreesBut (o.run stamp s).realm.storage.tables key := by
  cases ho with
  | grant a c | revoke a c =>
    apply Command.agreesBut_run
    intro p hp w hw
    cases hp
    obtain rfl := List.mem_singleton.mp hw
    rfl
  | setRole a role =>
    apply Command.agreesBut_run
    intro p hp w hw
    cases hp with
    | setRole _ _ _ _ _ member =>
      obtain rfl := List.mem_singleton.mp hw
      have hkey := h.sound.keyed.members key _ member
      exact hkey

/-- Whatever is done with a member, in however many steps, is about his place. -/
theorem Managed.agreesBut_runAll (h : Managed s) {steps : List (Operation × Stamp)}
    (ho : ∀ x ∈ steps, x.1.IsAbout key) :
    s.storage.tables.AgreesBut (s.runAll steps).storage.tables key := by
  induction steps generalizing s with
  | nil => exact .refl _ key
  | cons x steps ih =>
    have hfirst : s.storage.tables.AgreesBut (x.1.run x.2 s).realm.storage.tables key :=
      (ho x List.mem_cons_self).agreesBut h.orderly
    exact hfirst.trans (ih (h.run x.1 x.2) fun y hy => ho y (List.mem_cons_of_mem _ hy))

theorem Command.agreesBut_addMember (a : Actor) (village : VillageId) (member : Actor) :
    s.storage.tables.AgreesBut
      ((Command.addMember a village member).run stamp s).realm.storage.tables
      ⟨village,member.id⟩ := by
  apply Command.agreesBut_run
  intro p hp w hw
  cases hp
  obtain rfl := List.mem_singleton.mp hw
  rfl

/-- Where all that was written is about one place of a player who had none, that place is his home. -/
theorem Store.AgreesBut.home_eq {u : Realm} {village : VillageId}
    (ha : s.storage.tables.AgreesBut u.storage.tables key) (h : u.Orderly)
    (free : ¬s.storage.tables.Houses key.member)
    (home : u.directory.villageOf[key.member]? = some village) : village = key.village := by
  have hmem := (h.sound.housed key.member village).mp home
  rw [h.mirrors.members] at hmem
  by_contra hne
  have hkey : (⟨village,key.member⟩ : MemberKey) ≠ key := fun he => hne (congrArg (·.village) he)
  obtain ⟨m, hm⟩ := mem_iff_exists_getElem?_eq_some.mp hmem
  rw [ha.seats _ hkey] at hm
  exact free ⟨village,mem_of_getElem?_eq_some hm⟩

/-- Whoever goes takes all rows of his place along, where he is in no other village. -/
theorem Command.Departs.batch_eq {c : Command} {p : Plan Answer} (hdep : c.Departs key)
    (home : ∀ village, s.directory.villageOf[key.member]? = some village → village = key.village)
    (hp : c.ComesTo stamp s p) : p.batch = Write.removal s.directory key := by
  cases hdep with
  | kick a =>
    cases hp
    rfl
  | leave self =>
    cases hp with
    | leave hhome =>
      rw [self] at hhome
      obtain rfl := home _ hhome
      rw [Plan.batch_map, self]
      rfl

theorem Store.notMem_memberships_of_removal {t u : Store} {d : Directory}
    (hw : t.writeAll (Write.removal d key) = .ok u) : key ∉ u.memberships := by
  have hfiled := filed_of_writeAll hw
  rw [Batch.filings_removal] at hfiled
  have hmemberships : u.memberships = t.memberships.erase key := hfiled.memberships
  rw [hmemberships]
  simp

/-- When he has gone, his place is empty, and nothing else has changed. -/
theorem Command.Departs.leaves {c : Command} {answer : Answer} (hdep : c.Departs key)
    (home : ∀ village, s.directory.villageOf[key.member]? = some village → village = key.village)
    (left : (c.run stamp s).result = .ok answer) :
    s.storage.tables.AgreesBut (c.run stamp s).realm.storage.tables key ∧
      key ∉ (c.run stamp s).realm.storage.tables.memberships := by
  obtain ⟨p, hp, hd⟩ := Command.done_of_ok left
  have hwritten : s.storage.tables.writeAll (Write.removal s.directory key) =
      .ok (c.run stamp s).realm.storage.tables := hdep.batch_eq home hp ▸ hd.written
  exact ⟨Store.agreesBut_writeAll (fun _ hw => Write.isAbout_of_mem_removal hw) hwritten,
    Store.notMem_memberships_of_removal hwritten⟩

end Commands

/-! ### Joining -/

section Joining
variable {s : Realm} {a member : Actor} {village : VillageId} {stamp : Stamp}

/-- Whoever adds a member has the right to it, and the member had no village. -/
theorem Command.ComesTo.joins {p : Plan Answer}
    (hp : (Command.addMember a village member).ComesTo stamp s p) (h : s.Orderly) :
    s.storage.tables.Empowers ⟨village,a.id⟩ .inviteMembers ∧
    ¬s.storage.tables.Houses member.id := by
  cases hp with
  | addMember active allowed free =>
    exact ⟨h.hasCapability_iff_empowers.mp allowed,fun hh => free (h.mem_villageOf_iff.mpr hh)⟩

/-- A new member can do nothing in the village that he was not granted, and he was granted nothing. -/
theorem Realm.powerless_of_joined (h : s.Orderly) (free : ¬s.storage.tables.Houses member.id)
    (hd : ((Command.addMember a village member).request stamp).Done s
      ((Plan.addMember a.id village member stamp).map .membership)) (c : Capability) :
    ¬((Command.addMember a village member).run stamp s).realm.storage.tables.Empowers
      ⟨village,member.id⟩ c := by
  have hfiled := Store.filed_of_writeAll hd.written
  have hmemberships : ((Command.addMember a village member).run stamp
      s).realm.storage.tables.memberships = s.storage.tables.memberships.insert
        ⟨village,member.id⟩ (.join village member .member stamp.now) := hfiled.memberships
  have hpermissions : ((Command.addMember a village member).run stamp
      s).realm.storage.tables.permissions = s.storage.tables.permissions := hfiled.permissions
  rintro ⟨m, hm, hright⟩
  rw [hmemberships, ExtTreeMap.getElem?_insert_self] at hm
  obtain rfl := Option.some.inj hm
  rw [hpermissions] at hright
  rcases hright with hrole | hrow
  · cases hrole
  · have hnone := h.permit_eq_none c fun hmem => free ⟨village,hmem⟩
    obtain ⟨row, hsome⟩ := mem_iff_exists_getElem?_eq_some.mp hrow
    cases hnone.symm.trans hsome

/-- A player in no village is taken in by whoever may do so. -/
theorem Realm.Orderly.plan?_addMember (h : s.Orderly)
    (right : s.storage.tables.Empowers ⟨village,a.id⟩ .inviteMembers)
    (free : ¬s.storage.tables.Houses member.id) :
    ((Command.addMember a village member).request stamp).plan? s =
      some ((Plan.addMember a.id village member stamp).map .membership) := by
  obtain ⟨m, hm, -⟩ := id right
  obtain ⟨-, hactive⟩ := h.home_of_mem (mem_of_getElem?_eq_some hm)
  have hcheck : s.directory.checkInvitation a.id village member = .ok () :=
    Directory.checkInvitation_eq_ok_iff.mpr ⟨hactive,h.hasCapability_iff_empowers.mpr right,
      fun hm => free (h.mem_villageOf_iff.mp hm)⟩
  rw [Command.request, Request.plan?_map, Option.map_eq_some_iff]
  refine ⟨_, ?_,rfl⟩
  simp only [Request.addMember, Request.plan?_lock, Request.plan?_look, Request.plan?_require]
  exact ⟨(),hcheck,rfl⟩

end Joining

/-- In every state that a server comes to: a player who was taken in by a village, was then handed
capabilities, lost some or got other roles, in any number of steps that were taken or refused, and was
at last put out or left, leaves the tables, the cache and the directory just as they were before. He has
no capability in the village, and whoever may invite others can take him in again, with none. -/
theorem Managed.membership_leaves_nothing {s : Realm} (h : Managed s) {a member : Actor}
    {village : VillageId} {first last : Stamp} {steps : List (Operation × Stamp)}
    {late : Realm} {departure : Command} {joined gone : Answer}
    (added : ((Command.addMember a village member).run first s).result = .ok joined)
    (about : ∀ x ∈ steps, x.1.IsAbout ⟨village,member.id⟩)
    (stayed : ((Command.addMember a village member).run first s).realm.runAll steps = late)
    (departs : departure.Departs ⟨village,member.id⟩)
    (left : (departure.run last late).result = .ok gone) :
    let after := (departure.run last late).realm
    (after.storage.tables = s.storage.tables ∧ after.cache = s.cache ∧
      after.directory = s.directory) ∧
    (∀ c, after.directory.hasCapability ⟨village,member.id⟩ c = false) ∧
    s.storage.tables.Empowers ⟨village,a.id⟩ .inviteMembers ∧
    ∀ (b : Actor) (stamp : Stamp), s.storage.tables.Empowers ⟨village,b.id⟩ .inviteMembers →
      (Command.addMember b village member).Accepted stamp after →
      let again := (Command.addMember b village member).run stamp after
      (∃ answer, again.result = .ok answer) ∧
        ∀ c, again.realm.directory.hasCapability ⟨village,member.id⟩ c = false := by
  intro after
  let key : MemberKey := ⟨village,member.id⟩
  have hentered := h.run (.command (.addMember a village member)) first
  have hlate : Managed late := stayed ▸ hentered.runAll steps
  have hafter : Managed after := hlate.run (.command departure) last
  obtain ⟨p, hp, -⟩ := Command.done_of_ok added
  obtain ⟨hright, hfree⟩ := hp.joins h.orderly
  have hstay : s.storage.tables.AgreesBut late.storage.tables key :=
    (Command.agreesBut_addMember a village member).trans
      (stayed ▸ hentered.agreesBut_runAll about)
  -- He cannot leave another village, as he was in none and nothing was written about one since.
  obtain ⟨hleave, hempty⟩ := departs.leaves
    (fun _ home => hstay.home_eq hlate.orderly hfree home) left
  have hout : key ∉ s.storage.tables.memberships := fun hm => hfree ⟨village,hm⟩
  have hsame := Realm.eq_of_agreesBut h hafter (hstay.trans hleave) hout hempty
  refine ⟨hsame,fun c => ?_,hright,fun b stamp hb accepted => ?_⟩
  · rw [Bool.eq_false_iff, Ne, hafter.orderly.hasCapability_iff_empowers]
    rintro ⟨m, hm, -⟩
    exact hempty (mem_of_getElem?_eq_some hm)
  · intro again
    have hagain : Managed again.realm := hafter.run (.command (.addMember b village member)) stamp
    have hfree' : ¬after.storage.tables.Houses member.id := hsame.1 ▸ hfree
    have hdone := accepted.done (hafter.orderly.plan?_addMember (hsame.1 ▸ hb) hfree')
    refine ⟨⟨_,hdone.result⟩,fun c => ?_⟩
    rw [Bool.eq_false_iff, Ne, hagain.orderly.hasCapability_iff_empowers]
    exact Realm.powerless_of_joined hafter.orderly hfree' hdone c

namespace Sample

def dan : Actor := player 4 "Dan"

def dansStay : List (Operation × Stamp) :=
  [(.command (.grant ann ⟨.ofNat 5⟩ dan.id .build),stamp 10),
    (.command (.grant ann ⟨.ofNat 5⟩ dan.id .inviteMembers),stamp 11),
    (.command (.setRole ann ⟨.ofNat 5⟩ dan.id .deputyMayor),stamp 12),
    (.command (.revoke ann ⟨.ofNat 5⟩ dan.id .build),stamp 13),
    (.command (.revoke ben ⟨.ofNat 5⟩ dan.id .inviteMembers),stamp 14)]

/-- Dan is granted two capabilities and made a deputy mayor, one of the two is taken back, and Ben
is refused when he tries the same. All of it is about Dan. -/
theorem isAbout_dansStay : ∀ x ∈ dansStay, x.1.IsAbout ⟨⟨.ofNat 5⟩,dan.id⟩ := by
  simp only [dansStay, List.forall_mem_cons]
  exact ⟨.grant _ _,.grant _ _,.setRole _ _,.revoke _ _,.revoke _ _,nofun⟩

def dansVillage : Realm :=
  ((Command.addMember ann ⟨.ofNat 5⟩ dan).run (stamp 9) commons).realm.runAll dansStay

/-- The village is what it was before, whether Ann puts him out or he leaves, and after that she can
take him in again. -/
theorem commons_membership_leaves_nothing :
    Managed commons ∧
    dansVillage.directory.hasCapability ⟨⟨.ofNat 5⟩,dan.id⟩ .inviteMembers = true ∧
    ((Command.kick ann ⟨.ofNat 5⟩ dan.id).run (stamp 15) dansVillage).realm.directory =
      commons.directory ∧
    let after := ((Command.leave dan).run (stamp 15) dansVillage).realm
    after.storage.tables = commons.storage.tables ∧
    (Command.addMember ann ⟨.ofNat 5⟩ dan).Accepted (stamp 16) after ∧
    ∀ c, ((Command.addMember ann ⟨.ofNat 5⟩ dan).run (stamp 16) after).realm.directory.hasCapability
      ⟨⟨.ofNat 5⟩,dan.id⟩ c = false := by
  have hjoined : ((Command.addMember ann ⟨.ofNat 5⟩ dan).run (stamp 9) commons).result =
      .ok (.membership (.join ⟨.ofNat 5⟩ dan .member (.ofSeconds 9))) := by
    decide +kernel
  have hkicked : ((Command.kick ann ⟨.ofNat 5⟩ dan.id).run (stamp 15) dansVillage).result =
      .ok .done := by
    decide +kernel
  have hleft : ((Command.leave dan).run (stamp 15) dansVillage).result =
      .ok (.left ⟨.ofNat 5⟩) := by
    decide +kernel
  let after := ((Command.leave dan).run (stamp 15) dansVillage).realm
  have hlate : Managed dansVillage :=
    (calm_commons.managed.run (.command (.addMember ann ⟨.ofNat 5⟩ dan)) (stamp 9)).runAll dansStay
  have hcalm : after.Calm :=
    ⟨hlate.run (.command (.leave dan)) (stamp 15),by decide +kernel⟩
  have hstayed : ((Command.addMember ann ⟨.ofNat 5⟩ dan).run (stamp 9) commons).realm.runAll
      dansStay = dansVillage := rfl
  have hkick : (Command.kick ann ⟨.ofNat 5⟩ dan.id).Departs ⟨⟨.ofNat 5⟩,dan.id⟩ := .kick ann
  obtain ⟨⟨-, -, hdirectory⟩, -⟩ := calm_commons.managed.membership_leaves_nothing hjoined
    isAbout_dansStay hstayed hkick hkicked
  obtain ⟨⟨htables, -⟩, -, hann, hagain⟩ := calm_commons.managed.membership_leaves_nothing hjoined
    isAbout_dansStay hstayed (.leave rfl) hleft
  have haccepted : (Command.addMember ann ⟨.ofNat 5⟩ dan).Accepted (stamp 16) after :=
    hcalm.accepted nofun
  exact ⟨calm_commons.managed,by decide +kernel,hdirectory,htables,haccepted,
    (hagain ann (stamp 16) hann haccepted).2⟩

end Sample

end Freehold
