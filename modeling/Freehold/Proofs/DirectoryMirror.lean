import Freehold.Proofs.DirectoryRebuilt

/-!
The directory mirrors the store. Its villages are the active ones of the store, its members are the
memberships of the store, and a capability is handed out in it when the store has a row that says so.
What a plan files in the store is what it changes in the directory, so both move together. Hence a
directory that is rebuilt is the one that was there before.
-/

namespace Freehold
open Std

namespace Directory

def ActiveOf (listed all : ExtTreeMap VillageId Village) : Prop :=
  ∀ (id : VillageId) (v : Village),
    listed[id]? = some v ↔ all[id]? = some v ∧ v.active = true

def Permits (d : Directory) (table : ExtTreeMap PermissionKey Permission) : Prop :=
  ∀ key c, c ∈ d.granted key ↔ (⟨key,c⟩ : PermissionKey) ∈ table

structure Mirrors (d : Directory) (t : Store) : Prop where
  villages : ActiveOf d.villages t.villages
  members : d.members = t.memberships
  grants : d.Permits t.permissions

variable {d : Directory} {t t' : Store} {listed all : ExtTreeMap VillageId Village} {v : Village}
  {table : ExtTreeMap PermissionKey Permission} {key : MemberKey}

theorem ActiveOf.insert (h : ActiveOf listed all) (ha : v.active = true) :
    ActiveOf (listed.insert v.id v) (all.insert v.id v) := by
  intro id row
  rw [getElem?_insert_eq_some_iff, getElem?_insert_eq_some_iff, h id row]
  constructor
  · rintro (⟨hid,rfl⟩ | ⟨hid,hrow,hactive⟩)
    · exact ⟨.inl ⟨hid,rfl⟩,ha⟩
    · exact ⟨.inr ⟨hid,hrow⟩,hactive⟩
  · rintro ⟨⟨hid,rfl⟩ | ⟨hid,hrow⟩, hactive⟩
    · exact .inl ⟨hid,rfl⟩
    · exact .inr ⟨hid,hrow,hactive⟩

/-- A village that is written as inactive is listed no longer. -/
theorem ActiveOf.retire (h : ActiveOf listed all) (ha : v.active = false) :
    ActiveOf (listed.erase v.id) (all.insert v.id v) := by
  intro id row
  rw [getElem?_erase_eq_some_iff, getElem?_insert_eq_some_iff, h id row]
  constructor
  · rintro ⟨hid, hrow, hactive⟩
    exact ⟨.inr ⟨hid,hrow⟩,hactive⟩
  · rintro ⟨⟨-,rfl⟩ | ⟨hid,hrow⟩, hactive⟩
    · exact absurd (ha.symm.trans hactive) Bool.false_ne_true
    · exact ⟨hid,hrow,hactive⟩

theorem Permits.grant (h : d.Permits table) (p : Permission) :
    (d.grant p.key.place p.capability).Permits (table.insert p.key p) := by
  intro key c
  have hkey : p.key = ⟨key,c⟩ ↔ p.key.place = key ∧ p.capability = c := by
    rw [Permission.key, PermissionKey.mk.injEq]
  rw [mem_granted_grant, h key c, ← hkey, ExtTreeMap.mem_insert, Std.compare_eq_iff_eq]

theorem Permits.revoke (h : d.Permits table) (key : MemberKey) (c : Capability) :
    (d.revoke key c).Permits (table.erase ⟨key,c⟩) := by
  intro k other
  rw [mem_granted_revoke, h k other, ExtTreeMap.mem_erase, and_comm]
  simp

/-- A member who goes loses what the store has for him, row by row. -/
theorem Permits.removeMember (h : d.Permits table) (key : MemberKey) :
    (d.removeMember key).Permits
      ((d.granted key).toList.foldl (fun t c => t.erase ⟨key,c⟩) table) := by
  intro k c
  rw [mem_granted_removeMember, mem_foldl_erase, ← h k c]
  refine and_congr_right fun hc => ?_
  simp only [ExtTreeSet.mem_toList, ne_eq, PermissionKey.mk.injEq, not_and]
  constructor
  · intro hne c' _ hk
    exact absurd hk hne
  · rintro hall rfl
    exact hall c hc rfl rfl

/-- A village that ends takes along what the store has for its members. -/
theorem Permits.removeVillage (h : d.Permits table) (village : VillageId) :
    (d.removeVillage village).Permits
      ((d.grantsIn village).foldl (fun t key => t.erase key) table) := by
  intro k c
  rw [mem_granted_removeVillage, mem_foldl_erase, ← h k c]
  refine and_congr_right fun hc => ?_
  constructor
  · rintro hn r hr rfl
    obtain ⟨hv, hm, -⟩ := mem_grantsIn.mp hr
    exact hn ⟨hv,hm⟩
  · rintro hall ⟨hv, hm⟩
    exact hall ⟨k,c⟩ (mem_grantsIn.mpr ⟨hv,hm,hc⟩) rfl

/-! ### Filings and changes that go together -/

namespace Mirrors
variable {m : Membership} {c : Capability} (h : d.Mirrors t)
include h

theorem of_nothing_filed (hf : t.Filed t' {}) : d.Mirrors t' where
  villages := hf.villages ▸ h.villages
  members := hf.memberships ▸ h.members
  grants := hf.permissions ▸ h.grants

theorem found (ha : v.active = true)
    (hf : t.Filed t' { villages := [v], seats := [(m.key,some m)] }) :
    ((d.insertVillage v).upsertMember m).Mirrors t' where
  villages := hf.villages ▸ h.villages.insert ha
  members := by
    rw [hf.memberships, ← h.members]
    rfl
  grants := hf.permissions ▸ h.grants

theorem upsertMember (hf : t.Filed t' { seats := [(m.key,some m)] }) :
    (d.upsertMember m).Mirrors t' where
  villages := hf.villages ▸ h.villages
  members := by
    rw [hf.memberships, ← h.members]
    rfl
  grants := hf.permissions ▸ h.grants

theorem removeMember (hf : t.Filed t'
      { seats := [(key,none)]
        permits := (d.granted key).toList.map fun c => (⟨key,c⟩,none) }) :
    (d.removeMember key).Mirrors t' where
  villages := hf.villages ▸ h.villages
  members := by
    rw [hf.memberships, ← h.members]
    rfl
  grants := by
    rw [hf.permissions, List.foldl_map]
    exact h.grants.removeMember key

theorem updateVillage (ha : v.active = true) (hf : t.Filed t' { villages := [v] }) :
    (d.updateVillage v).Mirrors t' where
  villages := by
    rw [villages_updateVillage, hf.villages]
    exact h.villages.insert ha
  members := by
    rw [members_updateVillage, hf.memberships]
    exact h.members
  grants := by
    intro key c
    have hsame : (d.updateVillage v).granted key = d.granted key := by
      rw [granted, grants_updateVillage, granted]
    rw [hsame, hf.permissions]
    exact h.grants key c

/-- Two members are written again, and then the row of their village. -/
theorem transfer {m' : Membership} (ha : v.active = true)
    (hf : t.Filed t' { villages := [v], seats := [(m.key,some m),(m'.key,some m')] }) :
    (((d.upsertMember m).upsertMember m').updateVillage v).Mirrors t' := by
  -- The row of the village comes last, so there is a store in between with only the members written.
  let between : Store := { t with memberships := (t.memberships.insert m.key m).insert m'.key m' }
  have hb : ((d.upsertMember m).upsertMember m').Mirrors between :=
    ⟨h.villages,congrArg (fun t => (t.insert m.key m).insert m'.key m') h.members,h.grants⟩
  exact hb.updateVillage ha ⟨hf.villages,hf.memberships,hf.permissions⟩

/-- A village that ends is kept on record as inactive, and its members and grants are not. -/
theorem removeVillage (ha : v.active = false) (hf : t.Filed t'
      { villages := [v]
        seats := (d.membersOf v.id).map fun p => (⟨v.id,p⟩,none)
        permits := (d.grantsIn v.id).map fun key => (key,none) }) :
    (d.removeVillage v.id).Mirrors t' where
  villages := by
    rw [villages_removeVillage, hf.villages]
    exact h.villages.retire ha
  members := by
    rw [removeVillage_eq, hf.memberships, List.foldl_map, ← h.members]
    rfl
  grants := by
    rw [hf.permissions, List.foldl_map]
    exact h.grants.removeVillage v.id

theorem grant {p : Permission} (hf : t.Filed t' { permits := [(p.key,some p)] }) :
    (d.grant p.key.place p.capability).Mirrors t' :=
  ⟨hf.villages ▸ h.villages,hf.memberships ▸ h.members,hf.permissions ▸ h.grants.grant p⟩

theorem revoke (hf : t.Filed t' { permits := [(⟨key,c⟩,none)] }) :
    (d.revoke key c).Mirrors t' :=
  ⟨hf.villages ▸ h.villages,hf.memberships ▸ h.members,hf.permissions ▸ h.grants.revoke key c⟩

end Mirrors

/-- A village that the store has no row of is not known to the directory either. -/
theorem Mirrors.notMem_villages (h : d.Mirrors t) {id : VillageId} (hn : id ∉ t.villages) :
    id ∉ d.villages := by
  intro hmem
  obtain ⟨v, hv⟩ := mem_iff_exists_getElem?_eq_some.mp hmem
  exact hn (mem_of_getElem?_eq_some ((h.villages id v).mp hv).1)

theorem mirrors_empty : Mirrors {} {} where
  villages := by simp [ActiveOf]
  members := rfl
  grants := by simp [Permits, granted]

/-- A sound directory is the one that is rebuilt from the rows of the store that it mirrors. -/
theorem Mirrors.build_eq (h : d.Mirrors t) (hd : d.Sound) (hk : t.RowsKeyed)
    {villages : List Village} {memberships : List Membership} {permissions : List Permission}
    (hvillages : villages.Perm t.villages.values)
    (hmembers : memberships.Perm t.memberships.values)
    (hpermits : permissions.Perm t.permissions.values) :
    build villages memberships permissions = d := by
  apply hd.build_eq
  · intro v
    rw [hvillages.mem_iff, mem_values_iff hk.villages]
    exact (h.villages v.id v).symm
  · intro m
    rw [hmembers.mem_iff, mem_values_iff hk.memberships, h.members]
  · intro key c
    rw [h.grants key c, mem_iff_exists_getElem?_eq_some]
    have hrow (p : Permission) : p ∈ permissions ↔ t.permissions[p.key]? = some p := by
      rw [hpermits.mem_iff, mem_values_iff hk.permissions]
    constructor
    · rintro ⟨p, hp, hkey⟩
      exact ⟨p,hkey ▸ (hrow p).mp hp⟩
    · rintro ⟨p, hp⟩
      have hkey : p.key = ⟨key,c⟩ := hk.permissions _ p hp
      exact ⟨p,(hrow p).mpr (hkey ▸ hp),hkey⟩

end Directory

structure Realm.Orderly (s : Realm) : Prop where
  sync : s.InSync
  sound : s.directory.Sound
  mirrors : s.directory.Mirrors s.storage.tables

namespace Command.ComesTo
variable {stamp : Stamp} {s : Realm} {c : Command} {p : Plan Answer} {t : Store}

/-- The directory is changed as the tables about villages are, by every plan. -/
theorem mirrors (hc : c.ComesTo stamp s p) (h : s.Orderly)
    (hw : s.storage.tables.writeAll p.batch = .ok t) :
    (p.directoryChange s.directory).Mirrors t := by
  have hf : s.storage.tables.Filed t (Batch.filings p.batch) := Store.filed_of_writeAll hw
  have hm : s.directory.Mirrors s.storage.tables := h.mirrors
  cases hc with
  | claim | claimWithLimit | claimNext | unclaim | expand => exact hm.of_nothing_filed hf
  | returnCells =>
    rw [Plan.batch_map, Plan.filings_returnCells] at hf
    exact hm.of_nothing_filed hf
  | found =>
    rw [Plan.batch_map, Plan.filings_found] at hf
    exact hm.found rfl hf
  | @disband a village v mayor active =>
    rw [Plan.batch_map, Plan.filings_disband] at hf
    -- The row goes under the id that it carries, the members under the one that was asked for.
    obtain rfl : v.id = village := h.sound.keyed.villages village v active
    exact hm.removeVillage (v := { v with active := false, updatedAt := stamp.now }) rfl hf
  | @transfer a village next v old new active =>
    have ha : v.active = true := h.sound.seated.active village v active
    exact hm.transfer (v := { v with mayor := next, updatedAt := stamp.now }) ha hf
  | addMember | setRole => exact hm.upsertMember hf
  | kick | leave =>
    change s.storage.tables.Filed t (Batch.filings (Write.removal s.directory _)) at hf
    rw [Batch.filings_removal] at hf
    exact hm.removeMember hf
  | @rename a village name v named active =>
    rw [Plan.batch_map, Plan.filings_rename] at hf
    have ha : v.active = true := h.sound.seated.active village v active
    exact hm.updateVillage (v := { v with name := name, updatedAt := stamp.now }) ha hf
  | grant => exact hm.grant hf
  | revoke => exact hm.revoke hf

/-- What is checked before a plan is carried out keeps the directory sound. -/
theorem sound (hc : c.ComesTo stamp s p) (h : s.Orderly)
    (hw : s.storage.tables.writeAll p.batch = .ok t) : (p.directoryChange s.directory).Sound := by
  have hd : s.directory.Sound := h.sound
  cases hc with
  | claim | claimWithLimit | claimNext | unclaim | expand | returnCells => exact hd
  | found _ _ unused free =>
    -- The store took the row of the village, so there was none, active or not.
    have hstore : stamp.village ∉ s.storage.tables.villages :=
      (Store.writeAll_cons_eq_ok_iff.mp hw).1
    exact hd.found (h.mirrors.notMem_villages hstore) unused free rfl rfl rfl rfl
  | disband => exact hd.removeVillage _
  | @transfer a village next v old new active member office _ heir =>
    obtain rfl : v.id = village := hd.keyed.villages village v active
    exact hd.transfer (v := { v with mayor := next, updatedAt := stamp.now }) active
      (hd.seated.active _ v active) rfl rfl member heir office
  | @addMember a member village v active allowed free =>
    have hthere : village ∈ s.directory.villages := mem_of_getElem?_eq_some active
    refine hd.upsertMember (m := .join village member .member stamp.now) hthere rfl nofun ?_ ?_
    · rintro ⟨m, hm, -⟩
      have hhome := (hd.housed member.id village).mpr (mem_of_getElem?_eq_some hm)
      exact free (mem_of_getElem?_eq_some hhome)
    · intro id hid
      exact absurd (mem_of_getElem?_eq_some hid) free
  | @setRole a village target role v own m lower active acting office other member =>
    -- The village has one mayor, who is the one acting here.
    have hplain : ¬s.directory.IsMayor village target := by
      intro hmayor
      have hown : s.directory.IsMayor village a.id := ⟨own,acting,of_decide_eq_true office⟩
      have htarget : target = v.mayor := (hd.presided village v active target).mp hmayor
      have hactor : a.id = v.mayor := (hd.presided village v active a.id).mp hown
      exact other (htarget.trans hactor.symm)
    have hmem : (⟨village,target⟩ : MemberKey) ∈ s.directory.members :=
      mem_of_getElem?_eq_some member
    obtain ⟨rfl, rfl⟩ := MemberKey.mk.inj (hd.keyed.members _ m member)
    exact hd.upsertMember (m := m.withRole role) (mem_of_getElem?_eq_some active)
      (hd.seated.seat _ m member).1 lower hplain fun id hid => hd.housed.eq_of_home hmem hid
  | kick _ _ _ member plain | leave _ member plain =>
    exact hd.removeMember (mem_of_getElem?_eq_some member)
      (Directory.not_isMayor_of_plain member plain)
  | @rename a village name v named active allowed unused =>
    obtain rfl : v.id = village := hd.keyed.villages village v active
    exact hd.rename (v := { v with name := name, updatedAt := stamp.now }) active
      (hd.seated.active _ v active) rfl unused
  | grant _ _ _ member => exact hd.grant (mem_of_getElem?_eq_some member)
  | revoke => exact hd.revoke

end Command.ComesTo

namespace Realm.Orderly
variable {s t : Realm}

/-- A directory that is read anew is the one that was remembered. -/
theorem directory_eq (h : s.Orderly) (hr : s.Recalls t) : t.directory = s.directory := by
  rcases hr.directory with hd | hd
  · exact hd
  · exact hd.trans (h.mirrors.build_eq h.sound h.sync.keyed (.refl _) (.refl _) (.refl _))

theorem recalls (h : s.Orderly) (hr : s.Recalls t) : t.Orderly where
  sync := h.sync.recalls hr
  sound := h.directory_eq hr ▸ h.sound
  mirrors := by
    rw [h.directory_eq hr, hr.tables]
    exact h.mirrors

theorem run (h : s.Orderly) (o : Operation) (stamp : Stamp) : (o.run stamp s).realm.Orderly := by
  rcases h.sync.run_cases o stamp with hr | ⟨c,p,rfl,hc,hp⟩
  · exact h.recalls hr
  · refine ⟨h.sync.done hp hc.changes_batch, ?_, ?_⟩
    · exact hp.directory ▸ hc.sound h hp.written
    · exact hp.directory ▸ hc.mirrors h hp.written

end Realm.Orderly

namespace Managed
variable {s : Realm}

/-- In every state that a server comes to, store, cache and directory agree and the directory is
sound. -/
theorem orderly (h : Managed s) : s.Orderly := by
  induction h with
  | @start s empty started =>
    have hm : s.forget.directory.Mirrors s.forget.storage.tables := by
      change Directory.Mirrors {} s.storage.tables
      rw [empty]
      exact Directory.mirrors_empty
    have hf : s.forget.Orderly := ⟨inSync_of_empty empty rfl,Directory.sound_empty,hm⟩
    exact hf.recalls (Realm.recalls_start started)
  | run _ o stamp ih => exact ih.run o stamp

/-- In every state that a server comes to, each active village has one mayor, who is the one that its
row names; names lead to the villages that bear them and to no others, so no two have one name, and
players to the village that they are members of, so nobody is in two; every row stands under its own
key; and capabilities are kept for members only, and never an empty set of them. -/
theorem directory_structure (h : Managed s) :
    (∀ (id : VillageId) (v : Village), s.directory.villages[id]? = some v →
      v.id = id ∧ v.active = true ∧ s.directory.IsMayor id v.mayor ∧
        ∃! player, s.directory.IsMayor id player) ∧
    (∀ name id, s.directory.names[name]? = some id ↔
      ∃ v, s.directory.villages[id]? = some v ∧ VillageName.key v.name = name) ∧
    (∀ (id id' : VillageId) (v v' : Village), s.directory.villages[id]? = some v →
      s.directory.villages[id']? = some v' →
      VillageName.key v.name = VillageName.key v'.name → id = id') ∧
    (∀ player id, s.directory.villageOf[player]? = some id ↔
      (⟨id,player⟩ : MemberKey) ∈ s.directory.members) ∧
    (∀ player id id', (⟨id,player⟩ : MemberKey) ∈ s.directory.members →
      (⟨id',player⟩ : MemberKey) ∈ s.directory.members → id = id') ∧
    (∀ (key : MemberKey) (m : Membership), s.directory.members[key]? = some m →
      m.village = key.village ∧ m.member = key.member ∧ key.village ∈ s.directory.villages) ∧
    ∀ (key : MemberKey) (set : CapabilitySet), s.directory.grants[key]? = some set →
      key ∈ s.directory.members ∧ set ≠ ∅ := by
  obtain ⟨keyed, named, housed, entitled, seated, presided⟩ := h.orderly.sound
  refine ⟨?_, named, ?_, housed, ?_, ?_, entitled⟩
  · intro id v hv
    have hmayor : s.directory.IsMayor id v.mayor := (presided id v hv v.mayor).mpr rfl
    refine ⟨keyed.villages id v hv,seated.active id v hv,hmayor,v.mayor,hmayor, ?_⟩
    exact fun player hp => (presided id v hv player).mp hp
  · intro id id' v v' hv hv' hk
    exact named.eq_of_key_eq hv hv' hk
  · intro player id id' hm hm'
    exact housed.eq_of_mem hm hm'
  · intro key m hm
    obtain rfl := keyed.members key m hm
    exact ⟨rfl,rfl,(seated.seat _ m hm).2⟩

end Managed

namespace Sample

def oakham : VillageId := ⟨.ofNat 3⟩

def cay : Actor := player 3 "Cay"

def parish : Realm :=
  hamlet.runAll
    [(.command (.addMember ann oakham ben),stamp 9),
      (.command (.grant ann oakham ben.id .inviteMembers),stamp 10),
      (.command (.setRole ann oakham ben.id .deputyMayor),stamp 11),
      (.command (.addMember ben oakham cay),stamp 12),
      (.command (.grant ann oakham cay.id .expandLand),stamp 13),
      (.command (.rename ann oakham "Oak Vale"),stamp 14),
      (.command (.leave cay),stamp 15),
      (.reload,stamp 16)]

theorem managed_parish : Managed parish := managed_hamlet.runAll _

/-- The village later on, under a new name and with Ben as its deputy, who may invite others. Cay
had joined and could add land, and has left again. -/
theorem parish_directory_structure :
    Managed parish ∧
    parish.directory.IsMayor oakham ann.id ∧
    (∃! player, parish.directory.IsMayor oakham player) ∧
    parish.directory.names["oak vale"]? = some oakham ∧
    (∃ v, parish.directory.villages[oakham]? = some v ∧ VillageName.key v.name = "oak vale") ∧
    parish.directory.villageOf[ben.id]? = some oakham ∧
    (⟨oakham,ben.id⟩ : MemberKey) ∈ parish.directory.members := by
  obtain ⟨hvillages, hnames, -, hhomes, -⟩ := managed_parish.directory_structure
  have hrow : (parish.directory.villages[oakham]?).map (·.mayor) = some ann.id := by
    decide +kernel
  have hname : parish.directory.names["oak vale"]? = some oakham := by
    decide +kernel
  have hhome : parish.directory.villageOf[ben.id]? = some oakham := by
    decide +kernel
  obtain ⟨v, hv, hann⟩ := Option.map_eq_some_iff.mp hrow
  obtain ⟨-, -, hmayor, hone⟩ := hvillages oakham v hv
  exact ⟨managed_parish,hann ▸ hmayor,hone,hname,(hnames _ _).mp hname,hhome,
    (hhomes _ _).mp hhome⟩

end Sample

/-- In every state that a server comes to, the directory has the active villages of the store, all
memberships of the store, and the capabilities for which the store has a row. So no membership is left
of a village that was disbanded or of a player who went, and no capability of someone who is no member.
-/
theorem Managed.directory_mirrors_store {s : Realm} (h : Managed s) :
    (∀ (id : VillageId) (v : Village), s.directory.villages[id]? = some v ↔
      s.storage.tables.villages[id]? = some v ∧ v.active = true) ∧
    (∀ (key : MemberKey) (m : Membership), s.directory.members[key]? = some m ↔
      s.storage.tables.memberships[key]? = some m) ∧
    (∀ village player c, c ∈ s.directory.granted ⟨village,player⟩ ↔
      ∃ row ∈ s.storage.tables.permissions.values,
        row.village = village ∧ row.member = player ∧ row.capability = c) ∧
    (∀ (key : MemberKey), key ∈ s.storage.tables.memberships →
      s.directory.villageOf[key.member]? = some key.village ∧
      ∃ v, s.storage.tables.villages[key.village]? = some v ∧ v.active = true) ∧
    ∀ (key : PermissionKey), key ∈ s.storage.tables.permissions →
      key.place ∈ s.storage.tables.memberships := by
  obtain ⟨sync, sound, mirrors⟩ := h.orderly
  refine ⟨mirrors.villages, ?_, ?_, ?_, ?_⟩
  · intro key m
    rw [mirrors.members]
  · intro village player c
    rw [mirrors.grants ⟨village,player⟩ c, mem_iff_exists_getElem?_eq_some]
    constructor
    · rintro ⟨row, hrow⟩
      have hkey : row.key = ⟨⟨village,player⟩,c⟩ := sync.keyed.permissions _ row hrow
      obtain ⟨hplace, hc⟩ := PermissionKey.mk.inj hkey
      obtain ⟨hv, hp⟩ := MemberKey.mk.inj hplace
      exact ⟨row,(mem_values_iff sync.keyed.permissions).mpr (hkey ▸ hrow),hv,hp,hc⟩
    · rintro ⟨row, hrow, rfl, rfl, rfl⟩
      exact ⟨row,(mem_values_iff sync.keyed.permissions).mp hrow⟩
  · intro key hkey
    rw [← mirrors.members] at hkey
    refine ⟨(sound.housed _ _).mpr hkey, ?_⟩
    obtain ⟨m, hm⟩ := mem_iff_exists_getElem?_eq_some.mp hkey
    have hmem : key.village ∈ s.directory.villages := (sound.seated.seat key m hm).2
    obtain ⟨v, hv⟩ := mem_iff_exists_getElem?_eq_some.mp hmem
    exact ⟨v,(mirrors.villages _ v).mp hv⟩
  · intro key hkey
    rw [← mirrors.members]
    exact sound.entitled.mem_of_granted ((mirrors.grants key.place key.capability).mpr hkey)

namespace Sample

/-- Ben may invite others, as a row of the store says, and nothing is left of Cay. -/
theorem parish_directory_mirrors_store :
    Managed parish ∧
    (∃ row ∈ parish.storage.tables.permissions.values,
      row.village = oakham ∧ row.member = ben.id ∧ row.capability = .inviteMembers) ∧
    (∃ v, parish.storage.tables.villages[oakham]? = some v ∧ v.active = true) ∧
    parish.directory.members[(⟨oakham,cay.id⟩ : MemberKey)]? = none ∧
    (⟨oakham,cay.id⟩ : MemberKey) ∉ parish.storage.tables.memberships ∧
    (⟨⟨oakham,cay.id⟩,.expandLand⟩ : PermissionKey) ∉ parish.storage.tables.permissions := by
  obtain ⟨-, hmembers, hgrants, hhomes, hplaces⟩ := managed_parish.directory_mirrors_store
  have hben : .inviteMembers ∈ parish.directory.granted ⟨oakham,ben.id⟩ := by
    decide +kernel
  have hmember : (⟨oakham,ben.id⟩ : MemberKey) ∈ parish.storage.tables.memberships := by
    decide +kernel
  have hcay : parish.directory.members[(⟨oakham,cay.id⟩ : MemberKey)]? = none := by
    decide +kernel
  have hgone : (⟨oakham,cay.id⟩ : MemberKey) ∉ parish.storage.tables.memberships := by
    intro hm
    obtain ⟨m, hm⟩ := mem_iff_exists_getElem?_eq_some.mp hm
    rw [← hmembers, hcay] at hm
    cases hm
  have hrow := (hgrants oakham ben.id .inviteMembers).mp hben
  have hlost : (⟨⟨oakham,cay.id⟩,.expandLand⟩ : PermissionKey) ∉
      parish.storage.tables.permissions := by
    intro hp
    exact hgone (hplaces ⟨⟨oakham,cay.id⟩,.expandLand⟩ hp)
  exact ⟨managed_parish,hrow,(hhomes _ hmember).2,hcay,hgone,hlost⟩

end Sample

end Freehold
