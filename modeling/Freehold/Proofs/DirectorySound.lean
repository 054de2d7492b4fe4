import Freehold.Proofs.DirectoryChanges
import Freehold.Proofs.Ownership

/-!
What holds a directory together. Names and homes are indices: the first is read off the villages, the
second off the members. Each village has one mayor, the player that its own row names, and
capabilities are kept for members only. Each rule is kept by the changes that are made to a directory,
under what is checked before them.
-/

namespace Freehold.Directory
open Std

def Named (d : Directory) : Prop :=
  ∀ name id, d.names[name]? = some id ↔
    ∃ v, d.villages[id]? = some v ∧ VillageName.key v.name = name

def Housed (d : Directory) : Prop :=
  ∀ player id, d.villageOf[player]? = some id ↔ (⟨id,player⟩ : MemberKey) ∈ d.members

def Entitled (d : Directory) : Prop :=
  ∀ key set, d.grants[key]? = some set → key ∈ d.members ∧ set ≠ ∅

structure Seated (d : Directory) : Prop where
  active : ∀ (id : VillageId) (v : Village), d.villages[id]? = some v → v.active = true
  seat : ∀ (key : MemberKey) (m : Membership), d.members[key]? = some m →
    m.active = true ∧ key.village ∈ d.villages

def Presided (d : Directory) : Prop :=
  ∀ (id : VillageId) (v : Village), d.villages[id]? = some v →
    ∀ player, d.IsMayor id player ↔ player = v.mayor

structure Sound (d : Directory) : Prop where
  keyed : d.RowsKeyed
  named : d.Named
  housed : d.Housed
  entitled : d.Entitled
  seated : d.Seated
  presided : d.Presided

variable {d : Directory} {v : Village} {m : Membership} {key : MemberKey} {village : VillageId}
  {c : Capability}

/-! ### Names -/

/-- Two villages with one name are one village. -/
theorem Named.eq_of_key_eq (h : d.Named) {id id' : VillageId} {v v' : Village}
    (hv : d.villages[id]? = some v) (hv' : d.villages[id']? = some v')
    (hk : VillageName.key v.name = VillageName.key v'.name) : id = id' := by
  have hn : d.names[VillageName.key v.name]? = some id := (h _ _).mpr ⟨v,hv,rfl⟩
  have hn' : d.names[VillageName.key v.name]? = some id' := (h _ _).mpr ⟨v',hv',hk.symm⟩
  exact Option.some.inj (hn.symm.trans hn')

/-- Dropping the name of a village leaves the names that lead elsewhere. -/
theorem Named.getElem?_dropName (h : d.Named) {name : String} {id : VillageId} :
    (d.dropName village).names[name]? = some id ↔ d.names[name]? = some id ∧ id ≠ village := by
  unfold dropName
  cases hv : d.villages[village]? with
  | none =>
    refine ⟨fun hn => ⟨hn, ?_⟩, And.left⟩
    rintro rfl
    obtain ⟨v, hv', -⟩ := (h _ _).mp hn
    rw [hv] at hv'
    cases hv'
  | some v =>
    have hown : d.names[VillageName.key v.name]? = some village := (h _ _).mpr ⟨v,hv,rfl⟩
    dsimp only
    rw [ExtTreeMap.getElem?_erase]
    by_cases hk : VillageName.key v.name = name
    · -- This is the name that is dropped, and it led to the village.
      subst hk
      simp only [compare_self, reduceIte, reduceCtorEq, hown, Option.some.injEq, false_iff]
      rintro ⟨rfl, hne⟩
      exact hne rfl
    · simp only [Std.compare_eq_iff_eq, hk, if_false]
      refine ⟨fun hn => ⟨hn, ?_⟩, And.left⟩
      rintro rfl
      obtain ⟨v', hv', hk'⟩ := (h _ _).mp hn
      rw [hv] at hv'
      cases hv'
      exact hk hk'

/-- A name leads to the village that bears it, and to no other. So a new name must not lead to
another village yet. -/
theorem Named.updateVillage (h : d.Named)
    (hfree : ∀ id, d.names[VillageName.key v.name]? = some id → id = v.id) :
    (d.updateVillage v).Named := by
  intro name id
  have hnames : (d.updateVillage v).names =
      (d.dropName v.id).names.insert (VillageName.key v.name) v.id := rfl
  rw [hnames, villages_updateVillage, ExtTreeMap.getElem?_insert, ExtTreeMap.getElem?_insert]
  simp only [Std.compare_eq_iff_eq]
  by_cases hid : v.id = id
  · subst hid
    by_cases hk : VillageName.key v.name = name
    · simp [hk]
    · simp [hk, h.getElem?_dropName]
  · rw [if_neg hid, ← h name id]
    by_cases hk : VillageName.key v.name = name
    · -- The new name led to no other village before.
      subst hk
      simp only [reduceIte, Option.some.injEq, hid, false_iff]
      exact fun hn => hid (hfree id hn).symm
    · rw [if_neg hk, h.getElem?_dropName]
      exact ⟨And.left,fun hn => ⟨hn,Ne.symm hid⟩⟩

/-- A village that was not there has no name to drop. -/
theorem updateVillage_of_notMem (h : v.id ∉ d.villages) : d.updateVillage v = d.insertVillage v := by
  rw [ExtTreeMap.mem_iff_isSome_getElem?, Option.not_isSome_iff_eq_none] at h
  rw [Directory.updateVillage, dropName, h]

theorem Named.removeVillage (h : d.Named) (village : VillageId) : (d.removeVillage village).Named := by
  intro name id
  rw [names_removeVillage, villages_removeVillage, h.getElem?_dropName, h name id,
    ExtTreeMap.getElem?_erase]
  by_cases hid : village = id
  · simp [hid]
  · simp [hid, Ne.symm hid]

/-! ### Homes -/

/-- A player is a member of one village at most, the one that he is led to. -/
theorem Housed.eq_of_mem (h : d.Housed) {player : PlayerId} {id id' : VillageId}
    (hm : (⟨id,player⟩ : MemberKey) ∈ d.members) (hm' : (⟨id',player⟩ : MemberKey) ∈ d.members) :
    id = id' :=
  Option.some.inj (((h _ _).mpr hm).symm.trans ((h _ _).mpr hm'))

/-- Where a member is at home. -/
theorem Housed.eq_of_home (h : d.Housed) {player : PlayerId} {id : VillageId}
    (hm : (⟨village,player⟩ : MemberKey) ∈ d.members) (hid : d.villageOf[player]? = some id) :
    id = village :=
  h.eq_of_mem ((h _ _).mp hid) hm

theorem Housed.upsertMember (h : d.Housed)
    (hfree : ∀ id, d.villageOf[m.member]? = some id → id = m.village) :
    (d.upsertMember m).Housed := by
  intro player id
  unfold Directory.upsertMember
  rw [ExtTreeMap.getElem?_insert, ExtTreeMap.mem_insert]
  simp only [Std.compare_eq_iff_eq, Membership.key, MemberKey.mk.injEq]
  by_cases hp : m.member = player
  · subst hp
    rw [if_pos rfl, Option.some.injEq, ← h m.member id]
    constructor
    · rintro rfl
      exact .inl ⟨rfl,rfl⟩
    · rintro (⟨hv,-⟩ | hv)
      · exact hv
      · exact (hfree id hv).symm
  · simp [hp, h player id]

theorem Housed.updateVillage (h : d.Housed) : (d.updateVillage v).Housed := by
  intro player id
  rw [villageOf_updateVillage, members_updateVillage]
  exact h player id

theorem Housed.removeMember (h : d.Housed) (hm : key ∈ d.members) : (d.removeMember key).Housed := by
  intro player id
  unfold Directory.removeMember
  rw [ExtTreeMap.getElem?_erase, ExtTreeMap.mem_erase]
  by_cases hp : key.member = player
  · -- The player was at home in this village only.
    subst hp
    have honly : (⟨id,key.member⟩ : MemberKey) ∈ d.members → key = ⟨id,key.member⟩ :=
      fun hm' => congrArg (MemberKey.mk · key.member) (h.eq_of_mem hm hm')
    simpa using fun hne hm' => hne (honly hm')
  · have hne : key ≠ ⟨id,player⟩ := fun hk => hp (congrArg MemberKey.member hk)
    simp [hp, hne, h player id]

theorem Housed.removeVillage (h : d.Housed) (village : VillageId) :
    (d.removeVillage village).Housed := by
  intro player id
  rw [getElem?_villageOf_removeVillage, h player id, mem_members_removeVillage]
  refine and_congr_right fun hm => ?_
  constructor
  · rintro hn rfl
    exact hn hm
  · intro hne hm'
    exact hne (h.eq_of_mem hm hm')

/-! ### Grants -/

/-- Only members hold capabilities. -/
theorem Entitled.mem_of_granted (h : d.Entitled) (hc : c ∈ d.granted key) : key ∈ d.members := by
  obtain ⟨set, hs, -⟩ := mem_granted_iff.mp hc
  exact (h key set hs).1

/-- A row of capabilities is kept when there is any. -/
theorem Entitled.getElem?_grants (h : d.Entitled) :
    d.grants[key]? = if d.granted key = ∅ then none else some (d.granted key) := by
  unfold granted
  cases hs : d.grants[key]? with
  | none => simp
  | some set => simp [(h key set hs).2]

theorem Entitled.upsertMember (h : d.Entitled) : (d.upsertMember m).Entitled := by
  intro key set hs
  obtain ⟨hm, hne⟩ := h key set hs
  exact ⟨ExtTreeMap.mem_insert.mpr (.inr hm),hne⟩

theorem Entitled.updateVillage (h : d.Entitled) : (d.updateVillage v).Entitled := by
  intro key set hs
  rw [grants_updateVillage] at hs
  rw [members_updateVillage]
  exact h key set hs

/-- No empty row is left behind by a member who goes. -/
theorem Entitled.removeMember (h : d.Entitled) : (d.removeMember key).Entitled := by
  intro k set hs
  obtain ⟨hk, hs⟩ := getElem?_erase_eq_some_iff.mp hs
  obtain ⟨hm, hne⟩ := h k set hs
  exact ⟨ExtTreeMap.mem_erase.mpr ⟨by simpa using hk,hm⟩,hne⟩

theorem Entitled.removeVillage (h : d.Entitled) (village : VillageId) :
    (d.removeVillage village).Entitled := by
  intro key set hs
  obtain ⟨hs, hn⟩ := getElem?_grants_removeVillage.mp hs
  obtain ⟨hm, hne⟩ := h key set hs
  exact ⟨mem_members_removeVillage.mpr ⟨hm,fun hv => hn ⟨hv,hm⟩⟩,hne⟩

theorem Entitled.grant (h : d.Entitled) (hm : key ∈ d.members) : (d.grant key c).Entitled := by
  intro k set hs
  rcases getElem?_insert_eq_some_iff.mp hs with ⟨rfl,rfl⟩ | ⟨-,hs⟩
  · exact ⟨hm,ExtTreeSet.ne_empty_of_mem ExtTreeSet.mem_insert_self⟩
  · exact h k set hs

theorem Entitled.revoke (h : d.Entitled) : (d.revoke key c).Entitled := by
  intro k set hs
  rcases getElem?_putSet_eq_some_iff.mp hs with ⟨rfl,rfl,hleft⟩ | ⟨-,hs⟩
  · refine ⟨?_, hleft⟩
    -- Something is left, so there was a row before.
    cases hrow : d.grants[key]? with
    | none => simp [granted, hrow] at hleft
    | some set => exact (h key set hrow).1
  · exact h k set hs

/-! ### Seats -/

theorem Seated.insertVillage (h : d.Seated) (ha : v.active = true) : (d.insertVillage v).Seated where
  active := by
    intro id row hrow
    rcases getElem?_insert_eq_some_iff.mp hrow with ⟨-,rfl⟩ | ⟨-,hrow⟩
    · exact ha
    · exact h.active id row hrow
  seat := by
    intro key m hm
    obtain ⟨hactive, hmem⟩ := h.seat key m hm
    exact ⟨hactive,ExtTreeMap.mem_insert.mpr (.inr hmem)⟩

theorem Seated.updateVillage (h : d.Seated) (ha : v.active = true) : (d.updateVillage v).Seated := by
  have hd : (d.dropName v.id).Seated := ⟨by simpa using h.active,by simpa using h.seat⟩
  exact hd.insertVillage ha

/-- The village of a member has to be there, and both are active. -/
theorem Seated.upsertMember (h : d.Seated) (hv : m.village ∈ d.villages) (ha : m.active = true) :
    (d.upsertMember m).Seated where
  active := h.active
  seat := by
    intro key row hrow
    rcases getElem?_insert_eq_some_iff.mp hrow with ⟨rfl,rfl⟩ | ⟨-,hrow⟩
    · exact ⟨ha,hv⟩
    · exact h.seat key row hrow

theorem Seated.removeMember (h : d.Seated) : (d.removeMember key).Seated where
  active := h.active
  seat := by
    intro k row hrow
    exact h.seat k row (getElem?_erase_eq_some_iff.mp hrow).2

theorem Seated.removeVillage (h : d.Seated) (village : VillageId) :
    (d.removeVillage village).Seated where
  active := by
    intro id row hrow
    rw [villages_removeVillage, getElem?_erase_eq_some_iff] at hrow
    exact h.active id row hrow.2
  seat := by
    intro key row hrow
    obtain ⟨hrow, hne⟩ := getElem?_members_removeVillage.mp hrow
    obtain ⟨hactive, hmem⟩ := h.seat key row hrow
    rw [villages_removeVillage, ExtTreeMap.mem_erase]
    exact ⟨hactive,by simpa using Ne.symm hne,hmem⟩

/-! ### Mayors -/

section Mayors
variable {player : PlayerId}

theorem not_isMayor_of_plain (hm : d.members[(⟨village,player⟩ : MemberKey)]? = some m)
    (hplain : m.isMayor = false) : ¬d.IsMayor village player := by
  rintro ⟨row, hrow, hr⟩
  rw [hm] at hrow
  cases hrow
  exact of_decide_eq_false hplain hr

/-- The role that is written decides about the office of its member, and of nobody else. -/
theorem isMayor_upsertMember :
    (d.upsertMember m).IsMayor village player ↔
      if m.key = ⟨village,player⟩ then m.role = .mayor else d.IsMayor village player := by
  unfold IsMayor Directory.upsertMember
  by_cases hk : m.key = ⟨village,player⟩ <;> simp [ExtTreeMap.getElem?_insert, hk]

theorem isMayor_updateVillage :
    (d.updateVillage v).IsMayor village player ↔ d.IsMayor village player := by
  unfold IsMayor
  rw [members_updateVillage]

theorem isMayor_removeMember :
    (d.removeMember key).IsMayor village player ↔
      d.IsMayor village player ∧ key ≠ ⟨village,player⟩ := by
  unfold IsMayor Directory.removeMember
  by_cases hk : key = ⟨village,player⟩ <;> simp [ExtTreeMap.getElem?_erase, hk]

theorem isMayor_removeVillage {id : VillageId} :
    (d.removeVillage village).IsMayor id player ↔ d.IsMayor id player ∧ id ≠ village := by
  unfold IsMayor
  simp only [getElem?_members_removeVillage]
  constructor
  · rintro ⟨m, ⟨hm, hne⟩, hr⟩
    exact ⟨⟨m,hm,hr⟩,hne⟩
  · rintro ⟨⟨m, hm, hr⟩, hne⟩
    exact ⟨m,⟨hm,hne⟩,hr⟩

end Mayors

/-- A new member who is not the mayor, or a member whose role changes below the mayor's. -/
theorem Presided.upsertMember (h : d.Presided) (hr : m.role ≠ .mayor)
    (hold : ¬d.IsMayor m.village m.member) : (d.upsertMember m).Presided := by
  intro id v hv player
  rw [isMayor_upsertMember, ← h id v hv player]
  split
  · next hk =>
    obtain ⟨rfl, rfl⟩ := MemberKey.mk.inj hk
    exact iff_of_false hr hold
  · rfl

/-- A new village, whose first member is its mayor. -/
theorem Presided.found (h : d.Presided) (hs : d.Seated) (hv : v.id ∉ d.villages)
    (hkey : m.key = ⟨v.id,v.mayor⟩) (hr : m.role = .mayor) :
    ((d.insertVillage v).upsertMember m).Presided := by
  intro id row hrow player
  rw [isMayor_upsertMember, hkey]
  rcases getElem?_insert_eq_some_iff.mp hrow with ⟨rfl,rfl⟩ | ⟨hid,hrow⟩
  · by_cases hp : v.mayor = player
    · simp [hp, hr]
    · -- The village is new, so nobody was its mayor before.
      have hnobody : ¬d.IsMayor v.id player := by
        rintro ⟨old, hold, -⟩
        exact hv (hs.seat _ old hold).2
      simp only [MemberKey.mk.injEq, hp, and_false, if_false]
      exact iff_of_false hnobody (Ne.symm hp)
  · simp only [MemberKey.mk.injEq, hid, false_and, if_false]
    exact h id row hrow player

/-- The row of one village is written again and names the mayor that the village has now. Who the
mayors of the other villages are is known from before. -/
theorem Presided.updateVillage (h : ∀ id row, d.villages[id]? = some row → id ≠ v.id →
      ∀ player, d.IsMayor id player ↔ player = row.mayor)
    (hmayor : ∀ player, d.IsMayor v.id player ↔ player = v.mayor) :
    (d.updateVillage v).Presided := by
  intro id row hrow player
  rw [villages_updateVillage, getElem?_insert_eq_some_iff] at hrow
  rw [isMayor_updateVillage]
  rcases hrow with ⟨rfl,rfl⟩ | ⟨hne,hrow⟩
  · exact hmayor player
  · exact h id row hrow (Ne.symm hne) player

/-- The office passes from one member to another, and the row of the village says so. -/
theorem Presided.transfer (h : d.Presided) {outgoing incoming : Membership} {was : Village}
    (hv : d.villages[v.id]? = some was) (hm : v.mayor = incoming.member)
    (hout : outgoing.village = v.id) (hin : incoming.village = v.id)
    (hoffice : d.IsMayor v.id outgoing.member) :
    (((d.upsertMember (outgoing.withRole .member)).upsertMember
      (incoming.withRole .mayor)).updateVillage v).Presided := by
  have hkout : (outgoing.withRole .member).key = ⟨v.id,outgoing.member⟩ :=
    congrArg (MemberKey.mk · outgoing.member) hout
  have hkin : (incoming.withRole .mayor).key = ⟨v.id,incoming.member⟩ :=
    congrArg (MemberKey.mk · incoming.member) hin
  apply Presided.updateVillage
  · intro id row hrow hid player
    rw [isMayor_upsertMember, isMayor_upsertMember, hkin, hkout]
    simp only [MemberKey.mk.injEq, Ne.symm hid, false_and, if_false]
    exact h id row hrow player
  · intro player
    rw [isMayor_upsertMember, isMayor_upsertMember, hkin, hkout, hm, h v.id was hv player]
    have hwas : outgoing.member = was.mayor := (h v.id was hv _).mp hoffice
    -- The old mayor holds the office no longer, and nobody else held it before.
    by_cases hp : incoming.member = player
    · simp [hp, Membership.withRole]
    · by_cases hq : outgoing.member = player
      · simp [hp, hq, Ne.symm hp, Membership.withRole]
      · have hn : player ≠ was.mayor := fun he => hq (hwas.trans he.symm)
        simp [hp, hq, hn, Ne.symm hp]

/-- A village keeps its one mayor when somebody else goes. -/
theorem Presided.removeMember (h : d.Presided) (hplain : ¬d.IsMayor key.village key.member) :
    (d.removeMember key).Presided := by
  intro id v hv player
  rw [isMayor_removeMember, ← h id v hv player, and_iff_left_iff_imp]
  rintro hmayor rfl
  exact hplain hmayor

theorem Presided.removeVillage (h : d.Presided) (village : VillageId) :
    (d.removeVillage village).Presided := by
  intro id v hv player
  rw [villages_removeVillage, getElem?_erase_eq_some_iff] at hv
  rw [isMayor_removeVillage, ← h id v hv.2 player, and_iff_left (Ne.symm hv.1)]

/-! ### The whole directory -/

theorem sound_empty : Sound {} where
  keyed := rowsKeyed_empty
  named := by simp [Named]
  housed := by simp [Housed]
  entitled := by simp [Entitled]
  seated := ⟨by simp,by simp⟩
  presided := by simp [Presided]

namespace Sound

/-- A new village under a free name, with a founder who was in none. -/
theorem found (h : d.Sound) (hv : v.id ∉ d.villages) (hname : VillageName.key v.name ∉ d.names)
    (hfree : m.member ∉ d.villageOf) (hactive : v.active = true) (ha : m.active = true)
    (hkey : m.key = ⟨v.id,v.mayor⟩) (hr : m.role = .mayor) :
    ((d.insertVillage v).upsertMember m).Sound where
  keyed := (h.keyed.insertVillage v).upsertMember m
  named := by
    have hn : (d.updateVillage v).Named := by
      refine h.named.updateVillage fun id hid => ?_
      exact absurd (mem_of_getElem?_eq_some hid) hname
    rw [updateVillage_of_notMem hv] at hn
    exact hn
  housed := by
    refine Housed.upsertMember (d := d.insertVillage v) h.housed fun id hid => ?_
    exact absurd (mem_of_getElem?_eq_some hid) hfree
  entitled := Entitled.upsertMember (d := d.insertVillage v) h.entitled
  seated := by
    have hmem : m.village ∈ (d.insertVillage v).villages := by
      rw [show m.village = v.id from congrArg MemberKey.village hkey]
      exact ExtTreeMap.mem_insert_self
    exact (h.seated.insertVillage hactive).upsertMember hmem ha
  presided := h.presided.found h.seated hv hkey hr

/-- A member without the office of mayor, who is at home here or nowhere. -/
theorem upsertMember (h : d.Sound) (hv : m.village ∈ d.villages) (ha : m.active = true)
    (hr : m.role ≠ .mayor) (hold : ¬d.IsMayor m.village m.member)
    (hfree : ∀ id, d.villageOf[m.member]? = some id → id = m.village) :
    (d.upsertMember m).Sound where
  keyed := h.keyed.upsertMember m
  named := h.named
  housed := h.housed.upsertMember hfree
  entitled := h.entitled.upsertMember
  seated := h.seated.upsertMember hv ha
  presided := h.presided.upsertMember hr hold

theorem removeMember (h : d.Sound) (hm : key ∈ d.members)
    (hplain : ¬d.IsMayor key.village key.member) : (d.removeMember key).Sound where
  keyed := h.keyed.removeMember key
  named := h.named
  housed := h.housed.removeMember hm
  entitled := h.entitled.removeMember
  seated := h.seated.removeMember
  presided := h.presided.removeMember hplain

theorem removeVillage (h : d.Sound) (village : VillageId) : (d.removeVillage village).Sound where
  keyed := h.keyed.removeVillage village
  named := h.named.removeVillage village
  housed := h.housed.removeVillage village
  entitled := h.entitled.removeVillage village
  seated := h.seated.removeVillage village
  presided := h.presided.removeVillage village

/-- A village whose row is written again under a name that leads to no other village. -/
theorem rename (h : d.Sound) {was : Village} (hv : d.villages[v.id]? = some was)
    (hactive : v.active = true) (hm : v.mayor = was.mayor)
    (hname : ∀ id, d.names[VillageName.key v.name]? = some id → id = v.id) :
    (d.updateVillage v).Sound where
  keyed := h.keyed.updateVillage v
  named := h.named.updateVillage hname
  housed := h.housed.updateVillage
  entitled := h.entitled.updateVillage
  seated := h.seated.updateVillage hactive
  presided := Presided.updateVillage (fun id row hrow _ => h.presided id row hrow)
    (hm ▸ h.presided v.id was hv)

/-- The office of mayor passes from one member to another, and the name stays. -/
theorem transfer (h : d.Sound) {outgoing incoming : Membership} {player next : PlayerId}
    {was : Village} (hv : d.villages[v.id]? = some was) (hactive : v.active = true)
    (hname : v.name = was.name) (hm : v.mayor = next)
    (hout : d.members[(⟨v.id,player⟩ : MemberKey)]? = some outgoing)
    (hin : d.members[(⟨v.id,next⟩ : MemberKey)]? = some incoming)
    (hoffice : outgoing.isMayor = true) :
    (((d.upsertMember (outgoing.withRole .member)).upsertMember
      (incoming.withRole .mayor)).updateVillage v).Sound := by
  obtain ⟨hvout, rfl⟩ := MemberKey.mk.inj (h.keyed.members _ _ hout)
  obtain ⟨hvin, rfl⟩ := MemberKey.mk.inj (h.keyed.members _ _ hin)
  have hthere : v.id ∈ d.villages := mem_of_getElem?_eq_some hv
  let first := d.upsertMember (outgoing.withRole .member)
  have hhoused : (first.upsertMember (incoming.withRole .mayor)).Housed := by
    have hfirst : first.Housed := h.housed.upsertMember fun id hid =>
      (h.housed.eq_of_home (mem_of_getElem?_eq_some hout) hid).trans hvout.symm
    refine hfirst.upsertMember fun id hid => ?_
    have hmem : (⟨v.id,incoming.member⟩ : MemberKey) ∈ first.members :=
      ExtTreeMap.mem_insert.mpr (.inr (mem_of_getElem?_eq_some hin))
    exact (hfirst.eq_of_home hmem hid).trans hvin.symm
  have hentitled : (first.upsertMember (incoming.withRole .mayor)).Entitled :=
    h.entitled.upsertMember.upsertMember
  have hnamed : (first.upsertMember (incoming.withRole .mayor)).Named := h.named
  have hseated : first.Seated :=
    h.seated.upsertMember (m := outgoing.withRole .member) (hvout ▸ hthere)
      (h.seated.seat _ _ hout).1
  refine ⟨((h.keyed.upsertMember _).upsertMember _).updateVillage v, ?_, ?_, ?_, ?_, ?_⟩
  · refine hnamed.updateVillage fun id hid => ?_
    obtain ⟨other, hother, hk⟩ := (h.named _ id).mp hid
    exact h.named.eq_of_key_eq hother hv (hk.trans (congrArg VillageName.key hname))
  · exact hhoused.updateVillage
  · exact hentitled.updateVillage
  · exact (hseated.upsertMember (m := incoming.withRole .mayor) (hvin ▸ hthere)
      (h.seated.seat _ _ hin).1).updateVillage hactive
  · exact h.presided.transfer hv hm hvout hvin ⟨outgoing,hout,of_decide_eq_true hoffice⟩

theorem grant (h : d.Sound) (hm : key ∈ d.members) : (d.grant key c).Sound :=
  ⟨⟨h.keyed.villages,h.keyed.members⟩,h.named,h.housed,h.entitled.grant hm,
    ⟨h.seated.active,h.seated.seat⟩,h.presided⟩

theorem revoke (h : d.Sound) : (d.revoke key c).Sound :=
  ⟨⟨h.keyed.villages,h.keyed.members⟩,h.named,h.housed,h.entitled.revoke,
    ⟨h.seated.active,h.seated.seat⟩,h.presided⟩

end Sound

end Freehold.Directory
