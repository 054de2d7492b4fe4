import Freehold.Proofs.DirectorySound

/-!
What a directory is known from. Its villages, its members and the capabilities of each member
determine a sound directory, so it is what it is rebuilt to from rows that say no more and no less.
-/

namespace Freehold.Directory
open Std

variable {d d' : Directory}

/-- The rows of capabilities are known from the capabilities. -/
theorem eq_of_entitled (h : d.Entitled) (h' : d'.Entitled) (hvillages : d.villages = d'.villages)
    (hnames : d.names = d'.names) (hmembers : d.members = d'.members)
    (hhomes : d.villageOf = d'.villageOf)
    (hgranted : ∀ key c, c ∈ d.granted key ↔ c ∈ d'.granted key) : d = d' := by
  have hgrants : d.grants = d'.grants := by
    apply ExtTreeMap.ext_getElem?
    intro key
    have hset : d.granted key = d'.granted key := ExtTreeSet.ext_mem (hgranted key)
    rw [h.getElem?_grants, h'.getElem?_grants, hset]
  cases d
  cases d'
  cases hvillages
  cases hnames
  cases hmembers
  cases hhomes
  cases hgrants
  rfl

theorem foldl_insertVillage (villages : List Village) (d : Directory) :
    villages.foldl Directory.insertVillage d =
      { d with
        villages := villages.foldl (fun t v => t.insert v.id v) d.villages
        names := villages.foldl (fun t v => t.insert (VillageName.key v.name) v.id) d.names } := by
  induction villages generalizing d with
  | nil => rfl
  | cons v villages ih => exact ih (d.insertVillage v)

/-- Members whose villages are there are all taken in. -/
theorem foldl_upsertMember {memberships : List Membership} {d : Directory}
    (h : ∀ m ∈ memberships, m.village ∈ d.villages) :
    memberships.foldl (fun d m => if m.village ∈ d.villages then d.upsertMember m else d) d =
      { d with
        members := memberships.foldl (fun t m => t.insert m.key m) d.members
        villageOf := memberships.foldl (fun t m => t.insert m.member m.village) d.villageOf } := by
  induction memberships generalizing d with
  | nil => rfl
  | cons m memberships ih =>
    rw [List.foldl_cons, if_pos (h m List.mem_cons_self)]
    exact ih fun m' hm' => h m' (List.mem_cons_of_mem _ hm')

/-- What is handed to members adds to what they have, and to nothing else. -/
theorem foldl_grant {permissions : List Permission} {d : Directory} (he : d.Entitled)
    (h : ∀ p ∈ permissions, p.key.place ∈ d.members) :
    ∃ grants, permissions.foldl (fun d p =>
        if p.key.place ∈ d.members then d.grant p.key.place p.capability else d) d =
      { d with grants := grants } ∧ Entitled { d with grants := grants } ∧
      ∀ key c, c ∈ ({ d with grants := grants } : Directory).granted key ↔
        c ∈ d.granted key ∨ ∃ p ∈ permissions, p.key = ⟨key,c⟩ := by
  induction permissions generalizing d with
  | nil => exact ⟨d.grants,rfl,he,by simp⟩
  | cons p permissions ih =>
    have hplace : p.key.place ∈ d.members := h p List.mem_cons_self
    have hrest : ∀ p' ∈ permissions, p'.key.place ∈ (d.grant p.key.place p.capability).members :=
      fun p' hp' => h p' (List.mem_cons_of_mem _ hp')
    obtain ⟨grants, hfold, hentitled, hgranted⟩ := ih (he.grant hplace) hrest
    refine ⟨grants, ?_, hentitled, ?_⟩
    · rw [List.foldl_cons, if_pos hplace]
      exact hfold
    · intro key c
      have hfirst : p.key = ⟨key,c⟩ ↔ p.key.place = key ∧ p.capability = c := by
        rw [Permission.key, PermissionKey.mk.injEq]
      refine (hgranted key c).trans ?_
      rw [mem_granted_grant, ← hfirst]
      simp only [List.mem_cons, or_and_right, exists_or, exists_eq_left]
      rw [or_assoc, or_left_comm]

/-- A sound directory is what it is rebuilt to from its rows, in whatever order they come. -/
theorem Sound.build_eq (h : d.Sound) {villages : List Village} {memberships : List Membership}
    {permissions : List Permission}
    (hvillages : ∀ v, v ∈ villages ∧ v.active = true ↔ d.villages[v.id]? = some v)
    (hmembers : ∀ m, m ∈ memberships ↔ d.members[m.key]? = some m)
    (hgranted : ∀ key c, (∃ p ∈ permissions, p.key = ⟨key,c⟩) ↔ c ∈ d.granted key) :
    build villages memberships permissions = d := by
  have hrow : ∀ id v, d.villages[id]? = some v ↔ v ∈ villages.filter (·.active) ∧ v.id = id := by
    intro id v
    rw [List.mem_filter, hvillages v]
    constructor
    · intro hv
      have hid : v.id = id := h.keyed.villages id v hv
      exact ⟨hid ▸ hv,hid⟩
    · rintro ⟨hv, rfl⟩
      exact hv
  have hseat : ∀ key m, d.members[key]? = some m ↔ m ∈ memberships ∧ m.key = key := by
    intro key m
    rw [hmembers m]
    constructor
    · intro hm
      have hkey : m.key = key := h.keyed.members key m hm
      exact ⟨hkey ▸ hm,hkey⟩
    · rintro ⟨hm, rfl⟩
      exact hm
  -- Each of the first four maps is read off the rows.
  have hv : (villages.filter (·.active)).foldl (fun t v => t.insert v.id v) ∅ = d.villages := by
    apply foldl_insert_eq
    intro id v
    rw [hrow]
    grind
  have hn : (villages.filter (·.active)).foldl
      (fun t v => t.insert (VillageName.key v.name) v.id) ∅ = d.names := by
    apply foldl_insert_eq
    intro name id
    rw [h.named name id]
    simp only [hrow]
    grind
  have hm : memberships.foldl (fun t m => t.insert m.key m) ∅ = d.members := by
    apply foldl_insert_eq
    intro key m
    rw [hseat]
    grind
  have hh : memberships.foldl (fun t m => t.insert m.member m.village) ∅ = d.villageOf := by
    apply foldl_insert_eq
    intro player id
    rw [h.housed player id, mem_iff_exists_getElem?_eq_some]
    simp only [hseat, Membership.key, MemberKey.mk.injEq]
    grind
  have hall : memberships.filter (·.active) = memberships := by
    rw [List.filter_eq_self]
    intro m hm
    exact (h.seated.seat _ m ((hmembers m).mp hm)).1
  have hthere : ∀ m ∈ memberships, m.village ∈ d.villages :=
    fun m hm => (h.seated.seat _ m ((hmembers m).mp hm)).2
  have hplace : ∀ p ∈ permissions, p.key.place ∈ d.members :=
    fun p hp => h.entitled.mem_of_granted ((hgranted _ _).mp ⟨p,hp,rfl⟩)
  -- The capabilities come last, when all members are there to take them.
  let bare : Directory := { d with grants := ∅ }
  have hbare : bare.Entitled := by
    intro key set hs
    simp [bare] at hs
  obtain ⟨grants, hfold, hentitled, hmem⟩ := foldl_grant hbare hplace
  have hbuild : build villages memberships permissions = { bare with grants := grants } := by
    rw [build, foldl_insertVillage, hall]
    dsimp only
    rw [hv, hn, foldl_upsertMember (d := { villages := d.villages, names := d.names }) hthere]
    dsimp only
    rw [hm, hh]
    exact hfold
  rw [hbuild]
  refine eq_of_entitled hentitled h.entitled rfl rfl rfl rfl ?_
  intro key c
  rw [hmem key c, ← hgranted key c]
  simp [bare, granted]

end Freehold.Directory
