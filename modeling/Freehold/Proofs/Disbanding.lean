import Freehold.Proofs.Founding

/-!
Disbanding a village, exactly. Its mayor gets all of its land, and what the store and the directory had
about the village, its members and their capabilities is gone, down to the name, which is free again.
The rows of every other village stay. To anyone else it is refused, and nothing changes.
-/

namespace Freehold
open Std

/-- Where cells only pass on, no claim is lost and none is gained. -/
theorem Store.Passes.mem_claims_iff {t t' : Store} {cells : List Cell} {old new : Owner}
    {name reason : String} {actor : PlayerId} {stamp : Stamp}
    (h : t.Passes t' cells old new name actor reason stamp) (cell : Cell) :
    cell ∈ t'.claims ↔ cell ∈ t.claims := by
  by_cases hc : cell ∈ cells
  · obtain ⟨claim, hbefore, -, hafter⟩ := h.passed cell hc
    exact ⟨fun _ => mem_of_getElem?_eq_some hbefore,fun _ => mem_of_getElem?_eq_some hafter⟩
  · simp only [mem_iff_exists_getElem?_eq_some, h.kept cell hc]

namespace Realm

structure Disbands (s t : Realm) (id : VillageId) (v : Village) (mayor : Membership)
    (stamp : Stamp) : Prop where
  land : ∀ cell, cell ∈ s.cache.landOf id ↔ s.storage.tables.ownerOf cell = some (.village id)
  passes : s.storage.tables.Passes t.storage.tables (s.cache.landOf id) (.village id)
    (.personal v.mayor) mayor.memberName v.mayor "village disbanded" stamp
  -- No claim is lost, and none is new.
  claimed : ∀ cell, cell ∈ t.storage.tables.claims ↔ cell ∈ s.storage.tables.claims
  cached : t.cache.byCell = t.storage.tables.claims
  marks : t.cache.marks = s.cache.marks
  -- The row of the village stays on record.
  retired : t.storage.tables.villages =
    s.storage.tables.villages.insert id { v with active := false, updatedAt := stamp.now }
  unlisted : t.directory.villages = s.directory.villages.erase id
  vacated : ∀ player, (⟨id,player⟩ : MemberKey) ∉ t.storage.tables.memberships
  seats : ∀ key : MemberKey, key.village ≠ id →
    t.storage.tables.memberships[key]? = s.storage.tables.memberships[key]?
  withdrawn : ∀ player c, (⟨⟨id,player⟩,c⟩ : PermissionKey) ∉ t.storage.tables.permissions
  permits : ∀ key : PermissionKey, key.place.village ≠ id →
    t.storage.tables.permissions[key]? = s.storage.tables.permissions[key]?
  members : t.directory.members = t.storage.tables.memberships
  homes : ∀ (player : PlayerId) (other : VillageId), t.directory.villageOf[player]? = some other ↔
    s.directory.villageOf[player]? = some other ∧ other ≠ id
  granted : ∀ (key : MemberKey) c,
    c ∈ t.directory.granted key ↔ c ∈ s.directory.granted key ∧ key.village ≠ id
  names : ∀ (name : String) (other : VillageId), t.directory.names[name]? = some other ↔
    s.directory.names[name]? = some other ∧ other ≠ id
  nameFree : ¬t.storage.tables.HasName v.name
  membersFree : ∀ player, (⟨id,player⟩ : MemberKey) ∈ s.storage.tables.memberships →
    ¬t.storage.tables.Houses player
  config : t.config = s.config
  trusted : t.trusted = s.trusted
  elevated : t.elevated = s.elevated

end Realm

/-! ### A directory without one of its villages -/

namespace Directory.Sound
variable {d : Directory} {village id : VillageId} {player : PlayerId} {key : MemberKey}
  {c : Capability}

/-- In a sound directory those who are led to a village are its members, so nobody else loses his
home when it ends. -/
theorem getElem?_villageOf_removeVillage (h : d.Sound) :
    (d.removeVillage village).villageOf[player]? = some id ↔
      d.villageOf[player]? = some id ∧ id ≠ village := by
  rw [Directory.getElem?_villageOf_removeVillage]
  refine and_congr_right fun hhome => not_congr ?_
  constructor
  · intro hmem
    exact h.housed.eq_of_home hmem hhome
  · rintro rfl
    exact (h.housed player _).mp hhome

theorem mem_granted_removeVillage (h : d.Sound) :
    c ∈ (d.removeVillage village).granted key ↔ c ∈ d.granted key ∧ key.village ≠ village := by
  rw [Directory.mem_granted_removeVillage]
  refine and_congr_right fun hc => ?_
  have hmem := h.entitled.mem_of_granted hc
  exact ⟨fun hno hvillage => hno ⟨hvillage,hmem⟩,fun hno hboth => hno hboth.1⟩

theorem getElem?_names_removeVillage (h : d.Sound) {name : String} :
    (d.removeVillage village).names[name]? = some id ↔ d.names[name]? = some id ∧ id ≠ village := by
  rw [names_removeVillage]
  exact h.named.getElem?_dropName

end Directory.Sound

/-- Taking back all that was granted in a village leaves the store with what was granted in others. -/
theorem Realm.Orderly.getElem?_permissions_erase {s : Realm} (h : s.Orderly) {village : VillageId}
    {key : PermissionKey} {row : Permission} :
    ((s.directory.grantsIn village).foldl (fun t k => t.erase k)
        s.storage.tables.permissions)[key]? = some row ↔
      s.storage.tables.permissions[key]? = some row ∧ key.place.village ≠ village := by
  refine getElem?_foldl_erase_eq_some_iff.trans (and_congr_right fun hrow => ?_)
  have hgranted := (h.mirrors.grants key.place key.capability).mpr (mem_of_getElem?_eq_some hrow)
  constructor
  · intro hall hvillage
    have hmem := h.sound.entitled.mem_of_granted hgranted
    exact hall key (Directory.mem_grantsIn.mpr ⟨hvillage,hmem,hgranted⟩) rfl
  · rintro hne other ho rfl
    exact hne (Directory.mem_grantsIn.mp ho).1

/-! ### The verdict on the end of a village -/

abbrev Realm.ending (s : Realm) (v : Village) (mayor : Membership) (actor : PlayerId)
    (stamp : Stamp) : Plan Unit :=
  .disband v mayor (s.directory.membersOf v.id) (s.directory.grantsIn v.id)
    (s.stillOwned v.id (s.cache.landOf v.id)).1 (s.cache.landOf v.id).length actor stamp

/-- Whoever is not the mayor is told so, as a member or as a stranger. -/
theorem Directory.requireMayor_of_not_isMayor {d : Directory} {village : VillageId}
    {actor : PlayerId} (h : ¬d.IsMayor village actor) (error : Error) (note : Note) :
    d.requireMayor village actor error note = .error ⟨error,some note⟩ := by
  rw [requireMayor, membership?]
  cases hm : d.members[(⟨village,actor⟩ : MemberKey)]? with
  | none => rfl
  | some m =>
    have hplain : m.isMayor = false := by
      rw [Bool.eq_false_iff]
      exact fun ho => h ⟨m,hm,of_decide_eq_true ho⟩
    simp only [hplain]
    rfl

namespace Request
variable {s : Realm} {a : Actor} {village : VillageId} {v : Village} {stamp : Stamp}

theorem verdict_disband_of_not_isMayor (hv : s.directory.villages[village]? = some v)
    (hm : ¬s.directory.IsMayor village a.id) :
    (disband a village stamp).verdict s =
      .error (.unauthorized "only the mayor can disband the village") := by
  have hactive : s.directory.activeVillage village = .ok v :=
    Directory.activeVillage_eq_ok_iff.mpr hv
  simp only [disband, verdict_lock, verdict_look, verdict_require, hactive,
    Directory.requireMayor_of_not_isMayor hm]
  rfl

theorem plan?_disband {mayor : Membership} (hv : s.directory.villages[v.id]? = some v)
    (hm : s.directory.members[(⟨v.id,a.id⟩ : MemberKey)]? = some mayor)
    (ho : mayor.isMayor = true) :
    (disband a v.id stamp).plan? s = some (s.ending v mayor a.id stamp) := by
  simp only [disband, plan?_lock, plan?_look, plan?_require, plan?_lockCells, plan?_noteAll,
    plan?_commit, Directory.activeVillage_eq_ok_iff, Directory.requireMayor_eq_ok_iff]
  exact ⟨v,hv,mayor,⟨hm,ho⟩,rfl⟩

/-- The end of a village asks for no cell that might be vacant. -/
theorem not_asksFor_disband (cell : Cell) : ¬(disband a village stamp).AsksFor cell s := by
  simp [disband]

end Request

namespace Realm
variable {s : Realm} {village : VillageId}

/-- All cells that the cache lists for a village are still its own, while nobody else acts. -/
theorem InSync.map_cell_stillOwned (h : s.InSync) (he : s.cache.Exact) :
    (s.stillOwned village (s.cache.landOf village)).1.map (·.cell) = s.cache.landOf village := by
  let owned (cell : Cell) := (s.cache.owner? cell).filter fun c => c.owner = .village village
  have hall (cells : List Cell) (hc : ∀ cell ∈ cells, cell ∈ s.cache.landOf village) :
      (s.stillOwned village cells).1.map (·.cell) = cells := by
    induction cells with
    | nil => rfl
    | cons cell cells ih =>
      obtain ⟨claim, hfound, howner⟩ := he.mem_landOf.mp (hc cell List.mem_cons_self)
      have hkept : owned cell = some claim :=
        Option.filter_eq_some_iff.mpr ⟨hfound,decide_eq_true howner⟩
      have hcons : (s.stillOwned village (cell :: cells)).1 =
          claim :: (s.stillOwned village cells).1 :=
        List.filterMap_cons_some (f := owned) hkept
      rw [hcons, List.map_cons, h.cell_eq hfound, ih fun c hm => hc c (List.mem_cons_of_mem _ hm)]
  exact hall _ fun _ hc => hc

/-- All land of a village passes to its mayor when the village ends. -/
theorem InSync.passes_ending (h : s.InSync) (he : s.cache.Exact) {v : Village} {mayor : Membership}
    {actor : PlayerId} {stamp : Stamp} {t : Store}
    (hw : s.storage.tables.writeAll (s.ending v mayor actor stamp).batch = .ok t) :
    s.storage.tables.Passes t (s.cache.landOf v.id) (.village v.id) (.personal mayor.member)
      mayor.memberName actor "village disbanded" stamp := by
  have hn : ((s.stillOwned v.id (s.cache.landOf v.id)).1.map (·.cell)).Nodup :=
    nodup_stillOwned h (nodup_toList _)
  have hp := Store.passes_of_writeAll h hw Plan.changes_disband Plan.entries_disband hn
    fun _ hc => owned_of_mem_stillOwned h hc
  rwa [h.map_cell_stillOwned he] at hp

/-- With a village the directory loses its members, and so did the store. -/
theorem Orderly.getElem?_memberships_of_removed {t : Realm} (h : s.Orderly) (h' : t.Orderly)
    (hd : t.directory = s.directory.removeVillage village) {key : MemberKey} {m : Membership} :
    t.storage.tables.memberships[key]? = some m ↔
      s.storage.tables.memberships[key]? = some m ∧ key.village ≠ village := by
  rw [← h'.mirrors.members, ← h.mirrors.members, hd]
  exact Directory.getElem?_members_removeVillage

/-- The end of a village whose plan the store took. -/
theorem disbands_of_done (h : Managed s) {a : Actor} {v : Village} {mayor : Membership}
    {stamp : Stamp} (hv : s.directory.villages[v.id]? = some v)
    (hm : s.directory.members[(⟨v.id,a.id⟩ : MemberKey)]? = some mayor) (ha : a.id = v.mayor)
    (hd : ((Command.disband a v.id).request stamp).Done s
      ((s.ending v mayor a.id stamp).map fun _ => .done)) :
    s.Disbands ((Command.disband a v.id).run stamp s).realm v.id v mayor stamp := by
  let t := ((Command.disband a v.id).run stamp s).realm
  obtain ⟨sync, sound, mirrors⟩ := h.orderly
  have horderly : t.Orderly := (h.run (.command (.disband a v.id)) stamp).orderly
  have hw : s.storage.tables.writeAll (s.ending v mayor a.id stamp).batch =
      .ok t.storage.tables := hd.written
  have hfiled : s.storage.tables.Filed t.storage.tables _ := Store.filed_of_writeAll hw
  rw [Plan.filings_disband] at hfiled
  have hdirectory : t.directory = s.directory.removeVillage v.id := hd.directory
  have hmember : mayor.member = v.mayor := by
    rw [← ha]
    exact congrArg MemberKey.member (sound.keyed.members _ mayor hm)
  have hpasses : s.storage.tables.Passes t.storage.tables (s.cache.landOf v.id) (.village v.id)
      (.personal v.mayor) mayor.memberName v.mayor "village disbanded" stamp := by
    have hp := sync.passes_ending h.exact hw
    rwa [hmember, ha] at hp
  -- What is left about members and their capabilities is that of the other villages.
  have hseats (key : MemberKey) (m : Membership) :
      t.storage.tables.memberships[key]? = some m ↔
        s.storage.tables.memberships[key]? = some m ∧ key.village ≠ v.id :=
    h.orderly.getElem?_memberships_of_removed horderly hdirectory
  have hpermits (key : PermissionKey) (row : Permission) :
      t.storage.tables.permissions[key]? = some row ↔
        s.storage.tables.permissions[key]? = some row ∧ key.place.village ≠ v.id := by
    rw [hfiled.permissions, List.foldl_map]
    exact h.orderly.getElem?_permissions_erase
  have hnames (name : String) (other : VillageId) :
      t.directory.names[name]? = some other ↔
        s.directory.names[name]? = some other ∧ other ≠ v.id := by
    rw [hdirectory]
    exact sound.getElem?_names_removeVillage
  have hhomes (player : PlayerId) (other : VillageId) :
      t.directory.villageOf[player]? = some other ↔
        s.directory.villageOf[player]? = some other ∧ other ≠ v.id := by
    rw [hdirectory]
    exact sound.getElem?_villageOf_removeVillage
  constructor
  case land => exact fun cell => sync.mem_landOf h.exact
  case passes => exact hpasses
  case claimed => exact hpasses.mem_claims_iff
  case cached => exact horderly.sync.claims
  case marks => rw [horderly.sync.marks, hpasses.marks, sync.marks]
  case retired => exact hfiled.villages
  case unlisted => rw [hdirectory, Directory.villages_removeVillage]
  case vacated =>
    intro player hmem
    obtain ⟨m, hm⟩ := mem_iff_exists_getElem?_eq_some.mp hmem
    exact ((hseats _ m).mp hm).2 rfl
  case seats =>
    intro key hne
    apply Option.ext
    intro m
    rw [hseats key m]
    exact and_iff_left hne
  case withdrawn =>
    intro player c hmem
    obtain ⟨row, hrow⟩ := mem_iff_exists_getElem?_eq_some.mp hmem
    exact ((hpermits _ row).mp hrow).2 rfl
  case permits =>
    intro key hne
    apply Option.ext
    intro row
    rw [hpermits key row]
    exact and_iff_left hne
  case members => exact horderly.mirrors.members
  case homes => exact hhomes
  case granted =>
    intro key c
    rw [hdirectory]
    exact sound.mem_granted_removeVillage
  case names => exact hnames
  case nameFree =>
    rw [← horderly.mem_names_iff, mem_iff_exists_getElem?_eq_some]
    rintro ⟨other, ho⟩
    obtain ⟨hname, hne⟩ := (hnames _ other).mp ho
    have hown : s.directory.names[VillageName.key v.name]? = some v.id :=
      (sound.named _ _).mpr ⟨v,hv,rfl⟩
    exact hne (Option.some.inj (hname.symm.trans hown))
  case membersFree =>
    intro player hmem
    rw [← horderly.mem_villageOf_iff, mem_iff_exists_getElem?_eq_some]
    rintro ⟨other, ho⟩
    obtain ⟨hhome, hne⟩ := (hhomes player other).mp ho
    rw [← mirrors.members] at hmem
    exact hne (sound.housed.eq_of_home hmem hhome)
  case config => exact hd.config
  case trusted => exact hd.trusted
  case elevated => exact hd.elevated

end Realm

/-- In every state that a server comes to, an active village is ended by its mayor, given a store that
takes the batch: each cell of its land is then hers under the name of her membership, with its cost and
time of creation and one entry in the audit trail, its row is inactive, nothing else is left of it, its
name and its members are free, and all that is about others stays. Anyone else is refused, and nothing
changes. -/
theorem Managed.disbanding_exact {s : Realm} (h : Managed s) {id : VillageId} {v : Village}
    (hv : s.storage.tables.villages[id]? = some v) (active : v.active = true) (a : Actor)
    (stamp : Stamp) :
    let after := (Command.disband a id).run stamp s
    (a.id = v.mayor → (Command.disband a id).Accepted stamp s →
      after.result = .ok .done ∧
      ∃ mayor : Membership,
        s.storage.tables.memberships[(⟨id,v.mayor⟩ : MemberKey)]? = some mayor ∧
        s.Disbands after.realm id v mayor stamp) ∧
    (a.id ≠ v.mayor →
      after.result = .error (.unauthorized "only the mayor can disband the village") ∧
      after.realm = s) := by
  intro after
  obtain ⟨sync, sound, mirrors⟩ := h.orderly
  obtain rfl : v.id = id := sync.keyed.villages id v hv
  have hlisted : s.directory.villages[v.id]? = some v := (mirrors.villages _ v).mpr ⟨hv,active⟩
  have hpresided := sound.presided _ v hlisted a.id
  constructor
  · intro ha accepted
    obtain ⟨mayor, hm, hrole⟩ := hpresided.mpr ha
    have hplan : ((Command.disband a v.id).request stamp).plan? s =
        some ((s.ending v mayor a.id stamp).map fun _ => .done) := by
      rw [Command.request, Request.plan?_map,
        Request.plan?_disband hlisted hm (decide_eq_true hrole)]
      rfl
    have hd := accepted.done hplan
    refine ⟨hd.result,mayor, ?_,Realm.disbands_of_done h hlisted hm ha hd⟩
    rw [← mirrors.members, ← ha]
    exact hm
  · intro ha
    have hno : ¬s.directory.IsMayor v.id a.id := fun ho => ha (hpresided.mp ho)
    have hverdict : ((Command.disband a v.id).request stamp).verdict s =
        .error (.unauthorized "only the mayor can disband the village") := by
      rw [Command.request, Request.verdict_map, Request.verdict_disband_of_not_isMayor hlisted hno]
      rfl
    refine ⟨Request.result_run_of_verdict_error hverdict,
      Request.realm_run_of_verdict_error (fun cell => ?_) hverdict⟩
    rw [Command.request, Request.asksFor_map]
    exact Request.not_asksFor_disband cell

namespace Sample

def borough : Realm :=
  ({ config := {} } : Realm).start.realm.runAll
    [(.command (.claim ann (road 0) (.free 1)),stamp 1),
      (.command (.claim ann (road 1) (.free 2)),stamp 2),
      (.command (.found ann "Oakham" [road 1,road 0]),stamp 3),
      (.command (.addMember ann oakham ben),stamp 4),
      (.command (.addMember ann oakham cay),stamp 5),
      (.command (.grant ann oakham ben.id .inviteMembers),stamp 6),
      (.command (.grant ann oakham cay.id .expandLand),stamp 7),
      (.command (.expand cay (road 2) (.paid .ironIngot 64)),stamp 8)]

/-- Ben and Cay are members of the village that Ann founded, each with something that she
granted. -/
theorem calm_borough : borough.Calm := ⟨(Managed.start rfl rfl).runAll _,by decide +kernel⟩

/-- Ann ends the village of three cells and three members. Ben cannot. -/
theorem borough_disbanding_exact :
    Managed borough ∧
    (Command.disband ann oakham).Accepted (stamp 9) borough ∧
    ∃ v mayor, borough.storage.tables.villages[oakham]? = some v ∧ v.active = true ∧
      ann.id = v.mayor ∧ ben.id ≠ v.mayor ∧
      borough.Disbands ((Command.disband ann oakham).run (stamp 9) borough).realm oakham v mayor
        (stamp 9) ∧
      ((Command.disband ben oakham).run (stamp 9) borough).realm = borough := by
  have haccepted : (Command.disband ann oakham).Accepted (stamp 9) borough :=
    calm_borough.accepted nofun
  have hrow : (borough.storage.tables.villages[oakham]?).map (fun v => (v.mayor,v.active)) =
      some (ann.id,true) := by
    decide +kernel
  obtain ⟨v, hv, hpair⟩ := Option.map_eq_some_iff.mp hrow
  obtain ⟨hmayor, hactive⟩ := Prod.mk.inj hpair
  have hben : ben.id ≠ v.mayor := by
    rw [hmayor]
    decide
  obtain ⟨-, mayor, -, hends⟩ :=
    (calm_borough.managed.disbanding_exact hv hactive ann (stamp 9)).1 hmayor.symm haccepted
  obtain ⟨-, hsame⟩ := (calm_borough.managed.disbanding_exact hv hactive ben (stamp 9)).2 hben
  exact ⟨calm_borough.managed,haccepted,v,mayor,hv,hactive,hmayor.symm,hben,hends,hsame⟩

end Sample

end Freehold
