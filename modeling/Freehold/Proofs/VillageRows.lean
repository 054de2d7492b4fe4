import Freehold.Proofs.DirectoryMirror

/-!
What a command makes of the rows of a village that is on record: the row of the village itself, the
seats of its members and the permits that those were handed. For each of the three there is a table of
what can happen to it, with the right that was used. Who may change a village, and how, is read off
these tables.
-/

namespace Freehold
open Std

namespace Directory

def IsDeputy (d : Directory) (village : VillageId) (player : PlayerId) : Prop :=
  ∃ m, d.members[(⟨village,player⟩ : MemberKey)]? = some m ∧ m.role = .deputyMayor

def Manages (d : Directory) (village : VillageId) (player : PlayerId) (c : Capability) : Prop :=
  d.IsMayor village player ∨
    d.IsDeputy village player ∧ d.Holds village player .managePermissions ∧ c.isMayorOnly = false

variable {d : Directory} {village : VillageId} {player : PlayerId} {c : Capability}

/-- A mayor may hand out anything, and a deputy who may manage permissions whatever is not for the
mayor alone. -/
theorem manages_of_mayManage {m : Membership}
    (hm : d.members[(⟨village,player⟩ : MemberKey)]? = some m)
    (h : d.mayManage ⟨village,player⟩ m.role c = true) : d.Manages village player c := by
  cases hr : m.role with
  | mayor => exact .inl ⟨m,hm,hr⟩
  | deputyMayor =>
    simp only [mayManage, hr, Bool.and_eq_true, Bool.not_eq_true'] at h
    exact .inr ⟨⟨m,hm,hr⟩,holds_of_hasCapability h.2,h.1⟩
  | member => simp [mayManage, hr] at h

theorem IsMayor.mem (h : d.IsMayor village player) : (⟨village,player⟩ : MemberKey) ∈ d.members := by
  obtain ⟨m, hm, -⟩ := h
  exact mem_of_getElem?_eq_some hm

theorem Holds.mem (h : d.Holds village player c) : (⟨village,player⟩ : MemberKey) ∈ d.members :=
  h.elim IsMayor.mem And.left

theorem Manages.mem (h : d.Manages village player c) :
    (⟨village,player⟩ : MemberKey) ∈ d.members :=
  h.elim IsMayor.mem fun hd => hd.2.1.mem

end Directory

namespace Realm.Orderly
variable {s : Realm} (h : s.Orderly)
include h

theorem row_eq {id : VillageId} {v w : Village} (hv : s.storage.tables.villages[id]? = some v)
    (hw : s.directory.villages[id]? = some w) : w = v :=
  Option.some.inj (((h.mirrors.villages id w).mp hw).1.symm.trans hv)

theorem seat_eq {key : MemberKey} {m : Membership} (hm : s.directory.members[key]? = some m) :
    s.storage.tables.memberships[key]? = some m := by
  rw [← h.mirrors.members]
  exact hm

end Realm.Orderly

namespace Operation

inductive RowAfter (stamp : Stamp) (d : Directory) (id : VillageId) (v : Village) :
    Operation → Village → Prop where
  | kept {o : Operation} : RowAfter stamp d id v o v
  | transferred {a : Actor} {next : PlayerId} (office : d.IsMayor id a.id) :
    RowAfter stamp d id v (.command (.transfer a id next))
      { v with mayor := next, updatedAt := stamp.now }
  | renamed {a : Actor} {name : String} (authority : d.Holds id a.id .renameVillage) :
    RowAfter stamp d id v (.command (.rename a id name))
      { v with name := name, updatedAt := stamp.now }
  | ended {a : Actor} (office : d.IsMayor id a.id) :
    RowAfter stamp d id v (.command (.disband a id))
      { v with active := false, updatedAt := stamp.now }

inductive SeatAfter (stamp : Stamp) (d : Directory) (id : VillageId) (player : PlayerId) :
    Operation → Option Membership → Option Membership → Prop where
  | kept {o : Operation} {seat : Option Membership} : SeatAfter stamp d id player o seat seat
  | joined {a member : Actor} (named : member.id = player)
    (authority : d.Holds id a.id .inviteMembers) :
    SeatAfter stamp d id player (.command (.addMember a id member)) none
      (some (.join id member .member stamp.now))
  | left {a : Actor} {m : Membership} (self : a.id = player) :
    SeatAfter stamp d id player (.command (.leave a)) (some m) none
  | kicked {a : Actor} {m : Membership} (authority : d.Holds id a.id .kickMembers)
    (plain : ¬d.IsMayor id player) :
    SeatAfter stamp d id player (.command (.kick a id player)) (some m) none
  | ended {a : Actor} {m : Membership} (office : d.IsMayor id a.id) :
    SeatAfter stamp d id player (.command (.disband a id)) (some m) none
  | outgoing {a : Actor} {next : PlayerId} {m : Membership} (office : d.IsMayor id a.id)
    (self : a.id = player) :
    SeatAfter stamp d id player (.command (.transfer a id next)) (some m)
      (some (m.withRole .member))
  | incoming {a : Actor} {m : Membership} (office : d.IsMayor id a.id) :
    SeatAfter stamp d id player (.command (.transfer a id player)) (some m)
      (some (m.withRole .mayor))
  | assigned {a : Actor} {role : Role} {m : Membership} (office : d.IsMayor id a.id)
    (lower : role ≠ .mayor) :
    SeatAfter stamp d id player (.command (.setRole a id player role)) (some m)
      (some (m.withRole role))

inductive PermitAfter (stamp : Stamp) (d : Directory) (t : Store) (id : VillageId)
    (player : PlayerId) (k : Capability) :
    Operation → Option Permission → Option Permission → Prop where
  | kept {o : Operation} {permit : Option Permission} :
    PermitAfter stamp d t id player k o permit permit
  | granted {a : Actor} {permit : Option Permission} (right : d.Manages id a.id k) :
    PermitAfter stamp d t id player k (.command (.grant a id player k)) permit
      (some ⟨id,player,k,a.id,stamp.now⟩)
  | revoked {a : Actor} {permit : Option Permission} (right : d.Manages id a.id k) :
    PermitAfter stamp d t id player k (.command (.revoke a id player k)) permit none
  -- Whoever is no longer a member has no permit.
  | lost {o : Operation} {permit : Option Permission}
    (gone : (⟨id,player⟩ : MemberKey) ∉ t.memberships) :
    PermitAfter stamp d t id player k o permit none

structure Governs (stamp : Stamp) (s : Realm) (t : Store) (id : VillageId) (v : Village)
    (o : Operation) : Prop where
  row : ∃ w, t.villages[id]? = some w ∧ o.RowAfter stamp s.directory id v w
  seats : ∀ player, o.SeatAfter stamp s.directory id player
    s.storage.tables.memberships[(⟨id,player⟩ : MemberKey)]?
    t.memberships[(⟨id,player⟩ : MemberKey)]?
  permits : ∀ player k, o.PermitAfter stamp s.directory t id player k
    s.storage.tables.permissions[(⟨⟨id,player⟩,k⟩ : PermissionKey)]?
    t.permissions[(⟨⟨id,player⟩,k⟩ : PermissionKey)]?

section Filing
variable {stamp : Stamp} {s : Realm} {o : Operation} {t : Store} {id : VillageId} {v : Village}
  (hv : s.storage.tables.villages[id]? = some v)
include hv

/-- Rows that are not filed stay, so the tables have to be checked for what is filed only. -/
theorem governs_of_filed {f : Filings} (hf : s.storage.tables.Filed t f)
    (hrows : ∀ w ∈ f.villages, w.id = id → o.RowAfter stamp s.directory id v w)
    (hseats : ∀ x ∈ f.seats, ∀ player, x.1 = ⟨id,player⟩ →
      o.SeatAfter stamp s.directory id player
        s.storage.tables.memberships[(⟨id,player⟩ : MemberKey)]? x.2)
    (hpermits : ∀ x ∈ f.permits, ∀ player k, x.1 = ⟨⟨id,player⟩,k⟩ →
      o.PermitAfter stamp s.directory t id player k
        s.storage.tables.permissions[(⟨⟨id,player⟩,k⟩ : PermissionKey)]? x.2) :
    o.Governs stamp s t id v where
  row := by
    have ht : t.villages =
        (f.villages.map fun w => (w.id,some w)).foldl setRow s.storage.tables.villages := by
      rw [hf.villages, List.foldl_map]
      rfl
    rw [ht]
    rcases getElem?_foldl_setRow_cases (f.villages.map fun w => (w.id,some w))
      s.storage.tables.villages id with h | ⟨x,hx,hk,h⟩
    · exact ⟨v,h.trans hv,.kept⟩
    · obtain ⟨w, hw, rfl⟩ := List.mem_map.mp hx
      exact ⟨w,h,hrows w hw hk⟩
  seats player := by
    rw [hf.memberships]
    rcases getElem?_foldl_setRow_cases f.seats s.storage.tables.memberships ⟨id,player⟩
      with h | ⟨x,hx,hk,h⟩
    · rw [h]
      exact .kept
    · rw [h]
      exact hseats x hx player hk
  permits player k := by
    rw [hf.permissions]
    rcases getElem?_foldl_setRow_cases f.permits s.storage.tables.permissions
      ⟨⟨id,player⟩,k⟩ with h | ⟨x,hx,hk,h⟩
    · rw [h]
      exact .kept
    · rw [h]
      exact hpermits x hx player k hk

/-- A command that files nothing about villages leaves all their rows alone. -/
theorem governs_of_nothing_filed (hf : s.storage.tables.Filed t {}) : o.Governs stamp s t id v :=
  governs_of_filed hv hf (List.forall_mem_nil _) (List.forall_mem_nil _) (List.forall_mem_nil _)

theorem governs_of_seat {place : MemberKey} {seat : Option Membership}
    (hf : s.storage.tables.Filed t { seats := [(place,seat)] })
    (hseat : ∀ player, place = ⟨id,player⟩ → o.SeatAfter stamp s.directory id player
      s.storage.tables.memberships[(⟨id,player⟩ : MemberKey)]? seat) :
    o.Governs stamp s t id v :=
  governs_of_filed hv hf (List.forall_mem_nil _) (List.forall_mem_singleton.mpr hseat)
    (List.forall_mem_nil _)

theorem governs_of_permit {key : PermissionKey} {permit : Option Permission}
    (hf : s.storage.tables.Filed t { permits := [(key,permit)] })
    (hpermit : ∀ player k, key = ⟨⟨id,player⟩,k⟩ → o.PermitAfter stamp s.directory t id player k
      s.storage.tables.permissions[(⟨⟨id,player⟩,k⟩ : PermissionKey)]? permit) :
    o.Governs stamp s t id v :=
  governs_of_filed hv hf (List.forall_mem_nil _) (List.forall_mem_nil _)
    (List.forall_mem_singleton.mpr hpermit)

/-- A member goes, and with him all that was handed to him. -/
theorem governs_of_removal {place : MemberKey} {set : CapabilitySet}
    (hf : s.storage.tables.Filed t
      { seats := [(place,none)]
        permits := set.toList.map fun c => (⟨place,c⟩,none) })
    (hseat : ∀ player, place = ⟨id,player⟩ → o.SeatAfter stamp s.directory id player
      s.storage.tables.memberships[(⟨id,player⟩ : MemberKey)]? none) :
    o.Governs stamp s t id v := by
  refine governs_of_filed hv hf (List.forall_mem_nil _) (List.forall_mem_singleton.mpr hseat) ?_
  rw [List.forall_mem_map]
  intro c _ player k hk
  have hplace : place = ⟨id,player⟩ := (PermissionKey.mk.inj hk).1
  apply PermitAfter.lost
  rw [hf.memberships, ← hplace]
  exact fun hmem => (ExtTreeMap.mem_erase.mp hmem).1 compare_self

/-- A village ends by the hand of its mayor. Its own row stays, and no other one about it. -/
theorem governs_of_disband (h : s.Orderly) {a : Actor} {w : Village}
    (active : s.directory.villages[w.id]? = some w) (office : s.directory.IsMayor w.id a.id)
    (hf : s.storage.tables.Filed t
      { villages := [{ w with active := false, updatedAt := stamp.now }]
        seats := (s.directory.membersOf w.id).map fun p => (⟨w.id,p⟩,none)
        permits := (s.directory.grantsIn w.id).map fun key => (key,none) }) :
    (command (.disband a w.id)).Governs stamp s t id v := by
  refine governs_of_filed hv hf ?_ ?_ ?_
  · refine List.forall_mem_singleton.mpr ?_
    rintro rfl
    obtain rfl := h.row_eq hv active
    exact .ended office
  · rw [List.forall_mem_map]
    intro p hp player hk
    obtain ⟨rfl, rfl⟩ := MemberKey.mk.inj hk
    obtain ⟨m, hm⟩ := mem_iff_exists_getElem?_eq_some.mp (Directory.mem_membersOf.mp hp)
    rw [h.seat_eq hm]
    exact .ended office
  · rw [List.forall_mem_map]
    intro key hkey player k hk
    obtain ⟨hvillage, -⟩ := Directory.mem_grantsIn.mp hkey
    have hid : w.id = id := hvillage.symm.trans (congrArg (·.place.village) hk)
    -- Every member of the village was taken out, this one included.
    apply PermitAfter.lost
    rw [hf.memberships, List.foldl_map, ← hid]
    intro hmem
    obtain ⟨hthere, hout⟩ := mem_foldl_erase.mp hmem
    rw [← h.mirrors.members] at hthere
    exact hout player (Directory.mem_membersOf.mpr hthere) rfl

/-- The office goes from the mayor to a member, and both roles with it. -/
theorem governs_of_transfer (h : s.Orderly) {a : Actor} {next : PlayerId} {w : Village}
    {old new : Membership} (active : s.directory.villages[w.id]? = some w)
    (member : s.directory.members[(⟨w.id,a.id⟩ : MemberKey)]? = some old) (office : old.role = .mayor)
    (heir : s.directory.members[(⟨w.id,next⟩ : MemberKey)]? = some new)
    (hf : s.storage.tables.Filed t
      { villages := [{ w with mayor := next, updatedAt := stamp.now }]
        seats := [(old.key,some (old.withRole .member)),(new.key,some (new.withRole .mayor))] }) :
    (command (.transfer a w.id next)).Governs stamp s t id v := by
  have hmayor : s.directory.IsMayor w.id a.id := ⟨old,member,office⟩
  have hout : old.key = ⟨w.id,a.id⟩ := h.sound.keyed.members _ old member
  have hin : new.key = ⟨w.id,next⟩ := h.sound.keyed.members _ new heir
  refine governs_of_filed hv hf ?_ ?_ (List.forall_mem_nil _)
  · refine List.forall_mem_singleton.mpr ?_
    rintro rfl
    obtain rfl := h.row_eq hv active
    exact .transferred hmayor
  -- Two seats are filed, that of the mayor who goes and that of the next one.
  · refine List.forall_mem_cons.mpr ⟨fun player hk => ?_,
      List.forall_mem_singleton.mpr fun player hk => ?_⟩
    · obtain ⟨rfl, rfl⟩ := MemberKey.mk.inj (hout.symm.trans hk)
      rw [h.seat_eq member]
      exact .outgoing hmayor rfl
    · obtain ⟨rfl, rfl⟩ := MemberKey.mk.inj (hin.symm.trans hk)
      rw [h.seat_eq heir]
      exact .incoming hmayor

end Filing

theorem governs_of_comesTo {stamp : Stamp} {s : Realm} {c : Command} {p : Plan Answer} {t : Store}
    (hc : c.ComesTo stamp s p) (h : s.Orderly)
    (hw : s.storage.tables.writeAll p.batch = .ok t) {id : VillageId} {v : Village}
    (hv : s.storage.tables.villages[id]? = some v) :
    (command c).Governs stamp s t id v := by
  have hf : s.storage.tables.Filed t (Batch.filings p.batch) := Store.filed_of_writeAll hw
  cases hc with
  | claim | claimWithLimit | claimNext | unclaim | expand => exact governs_of_nothing_filed hv hf
  | returnCells =>
    rw [Plan.batch_map, Plan.filings_returnCells] at hf
    exact governs_of_nothing_filed hv hf
  | found =>
    rw [Plan.batch_map, Plan.filings_found] at hf
    -- The store takes the row of a new village only where there is none, so it is another one.
    have hfresh : stamp.village ∉ s.storage.tables.villages :=
      (Store.writeAll_cons_eq_ok_iff.mp hw).1
    have hne : stamp.village ≠ id := by
      rintro rfl
      exact hfresh (mem_of_getElem?_eq_some hv)
    refine governs_of_filed hv hf ?_ ?_ (List.forall_mem_nil _)
    · exact List.forall_mem_singleton.mpr fun hid => absurd hid hne
    · exact List.forall_mem_singleton.mpr
        fun player hk => absurd (congrArg MemberKey.village hk) hne
  | @disband a village w mayor active member office =>
    rw [Plan.batch_map, Plan.filings_disband] at hf
    -- The row goes under the id that it carries, which is the one that was asked for.
    obtain rfl : w.id = village := h.sound.keyed.villages village w active
    exact governs_of_disband hv h active ⟨mayor,member,of_decide_eq_true office⟩ hf
  | @transfer a village next w old new active member office other heir =>
    obtain rfl : w.id = village := h.sound.keyed.villages village w active
    exact governs_of_transfer hv h active member (of_decide_eq_true office) heir hf
  | @addMember a member village w active allowed free =>
    refine governs_of_seat hv hf fun player hk => ?_
    obtain ⟨rfl, rfl⟩ := MemberKey.mk.inj hk
    -- A player who is at home nowhere has no seat here.
    have hnone : (⟨village,member.id⟩ : MemberKey) ∉ s.storage.tables.memberships := by
      rw [← h.mirrors.members, ← h.sound.housed]
      exact fun hhome => free (mem_of_getElem?_eq_some hhome)
    have hinvites : s.directory.Holds village a.id .inviteMembers :=
      Directory.holds_of_hasCapability allowed
    change SeatAfter stamp s.directory village member.id _
      s.storage.tables.memberships[(⟨village,member.id⟩ : MemberKey)]? _
    rw [ExtTreeMap.getElem?_eq_none hnone]
    exact .joined rfl hinvites
  | @kick a village target w m active allowed other member plain =>
    change s.storage.tables.Filed t (Batch.filings (Write.removal s.directory _)) at hf
    rw [Batch.filings_removal] at hf
    refine governs_of_removal hv hf fun player hk => ?_
    obtain ⟨rfl, rfl⟩ := MemberKey.mk.inj hk
    rw [h.seat_eq member]
    exact .kicked (Directory.holds_of_hasCapability allowed)
      (Directory.not_isMayor_of_plain member plain)
  | @setRole a village target role w own m lower active acting office other member =>
    have hkey : (m.withRole role).key = ⟨village,target⟩ := h.sound.keyed.members _ m member
    refine governs_of_seat hv hf fun player hk => ?_
    obtain ⟨rfl, rfl⟩ := MemberKey.mk.inj (hkey.symm.trans hk)
    rw [h.seat_eq member]
    exact .assigned ⟨own,acting,of_decide_eq_true office⟩ lower
  | @leave a village m home member plain =>
    change s.storage.tables.Filed t (Batch.filings (Write.removal s.directory _)) at hf
    rw [Batch.filings_removal] at hf
    refine governs_of_removal hv hf fun player hk => ?_
    obtain ⟨rfl, rfl⟩ := MemberKey.mk.inj hk
    rw [h.seat_eq member]
    exact .left rfl
  | @rename a village name w named active allowed =>
    rw [Plan.batch_map, Plan.filings_rename] at hf
    obtain rfl : w.id = village := h.sound.keyed.villages village w active
    refine governs_of_filed hv hf (List.forall_mem_singleton.mpr ?_) (List.forall_mem_nil _)
      (List.forall_mem_nil _)
    rintro rfl
    obtain rfl := h.row_eq hv active
    exact .renamed (Directory.holds_of_hasCapability allowed)
  | @grant a village target k w own m active acting allowed member plain =>
    refine governs_of_permit hv hf fun player c hk => ?_
    obtain ⟨hplace, rfl⟩ := PermissionKey.mk.inj hk
    obtain ⟨rfl, rfl⟩ := MemberKey.mk.inj hplace
    exact .granted (Directory.manages_of_mayManage acting allowed)
  | @revoke a village target k w own m active acting allowed member plain granted =>
    refine governs_of_permit hv hf fun player c hk => ?_
    obtain ⟨hplace, rfl⟩ := PermissionKey.mk.inj hk
    obtain ⟨rfl, rfl⟩ := MemberKey.mk.inj hplace
    exact .revoked (Directory.manages_of_mayManage acting allowed)

section Outsiders
variable {stamp : Stamp} {d : Directory} {t : Store} {id : VillageId} {c : Command}
  {player : PlayerId} {k : Capability}

/-- Whoever changes something about a village is one of its members. -/
theorem RowAfter.eq_of_notMem {v w : Village} (h : (command c).RowAfter stamp d id v w)
    (hn : (⟨id,c.actor.id⟩ : MemberKey) ∉ d.members) : w = v := by
  cases h with
  | kept => rfl
  | transferred office | ended office => exact absurd office.mem hn
  | renamed authority => exact absurd authority.mem hn

/-- A player who is not a member changes nobody's seat. -/
theorem SeatAfter.eq_of_notMem {seat seat' : Option Membership}
    (h : (command c).SeatAfter stamp d id player seat seat')
    (hseat : d.members[(⟨id,player⟩ : MemberKey)]? = seat)
    (hn : (⟨id,c.actor.id⟩ : MemberKey) ∉ d.members) : seat' = seat := by
  cases h with
  | kept => rfl
  | joined _ authority | kicked authority => exact absurd authority.mem hn
  | left self =>
    subst self
    exact absurd (mem_of_getElem?_eq_some hseat) hn
  | ended office | outgoing office | incoming office | assigned office =>
    exact absurd office.mem hn

/-- A player who is not a member changes nothing that was handed out. -/
theorem PermitAfter.eq_of_notMem {permit permit' : Option Permission}
    (h : (command c).PermitAfter stamp d t id player k permit permit')
    (hlost : (⟨id,player⟩ : MemberKey) ∉ t.memberships → permit = none)
    (hn : (⟨id,c.actor.id⟩ : MemberKey) ∉ d.members) : permit' = permit := by
  cases h with
  | kept => rfl
  | granted right | revoked right => exact absurd right.mem hn
  | lost gone => exact (hlost gone).symm

end Outsiders

end Operation

/-- What an operation makes of the rows of a village. One that is no command leaves them alone. -/
theorem Realm.Orderly.governs {s : Realm} (h : s.Orderly) (o : Operation) (stamp : Stamp)
    {id : VillageId} {v : Village} (hv : s.storage.tables.villages[id]? = some v) :
    o.Governs stamp s (o.run stamp s).realm.storage.tables id v := by
  rcases h.sync.run_cases o stamp with hr | ⟨c,p,rfl,hc,hp⟩
  · rw [hr.tables]
    exact ⟨⟨v,hv,.kept⟩,fun player => .kept,fun player k => .kept⟩
  · exact Operation.governs_of_comesTo hc h hp.written hv

end Freehold
