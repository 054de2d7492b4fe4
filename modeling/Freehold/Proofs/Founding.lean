import Freehold.Proofs.Regions
import Freehold.Proofs.Passing
import Freehold.Proofs.VillageLand

/-!
Founding a village, exactly. There are six things that it takes, checked in a fixed order, and the
first one that is missing is what the founder is told. Where all are there and the store takes the
batch, the listed cells become the land of the new village, whose only member is its mayor, and nothing
else changes.
-/

namespace Freehold
open Std

namespace Store

def HasName (t : Store) (name : String) : Prop :=
  ∃ (id : VillageId) (v : Village), t.villages[id]? = some v ∧ v.active = true ∧
    VillageName.key v.name = VillageName.key name

def Houses (t : Store) (player : PlayerId) : Prop :=
  ∃ village, (⟨village,player⟩ : MemberKey) ∈ t.memberships

end Store

namespace Realm

structure MayFound (s : Realm) (founder : Actor) (name : String) (cells : List Cell) : Prop where
  named : s.checkName name = .ok ()
  given : cells ≠ []
  unused : ¬s.storage.tables.HasName name
  free : ¬s.storage.tables.Houses founder.id
  own : ∀ cell ∈ cells, s.storage.tables.ownerOf cell = some (.personal founder.id)
  region : ∀ a ∈ cells, ∀ b ∈ cells, Region.Joined (· ∈ cells) a b

inductive RefusesFounding (s : Realm) (founder : Actor) (name : String) (cells : List Cell) :
    Error → Prop where
  -- What is missing first is told, in the order of the checks.
  | badName {e : Error} (bad : s.checkName name = .error e) : RefusesFounding s founder name cells e
  | noCells (named : s.checkName name = .ok ()) (none : cells = []) :
    RefusesFounding s founder name cells (.missing "cells")
  | nameTaken (named : s.checkName name = .ok ()) (given : cells ≠ [])
    (used : s.storage.tables.HasName name) :
    RefusesFounding s founder name cells (Directory.nameTaken name)
  | housed (named : s.checkName name = .ok ()) (given : cells ≠ [])
    (unused : ¬s.storage.tables.HasName name) (housed : s.storage.tables.Houses founder.id) :
    RefusesFounding s founder name cells
      (.validation (.constraintViolation "one_village_per_player"
        (founder.name ++ " already belongs to a village")))
  | foreign {cell : Cell} (named : s.checkName name = .ok ()) (given : cells ≠ [])
    (unused : ¬s.storage.tables.HasName name) (free : ¬s.storage.tables.Houses founder.id)
    (listed : cell ∈ cells)
    (foreign : s.storage.tables.ownerOf cell ≠ some (.personal founder.id))
    (least : ∀ other ∈ cells, s.storage.tables.ownerOf other ≠ some (.personal founder.id) →
      compare other cell ≠ .lt) :
    RefusesFounding s founder name cells (.notAllOwnedByFounder cell)
  | regions (named : s.checkName name = .ok ()) (given : cells ≠ [])
    (unused : ¬s.storage.tables.HasName name) (free : ¬s.storage.tables.Houses founder.id)
    (own : ∀ cell ∈ cells, s.storage.tables.ownerOf cell = some (.personal founder.id))
    (parted : (Region.groups cells).length ≠ 1) :
    RefusesFounding s founder name cells (.notConnected (Region.groups cells).length)

structure Founds (s t : Realm) (founder : Actor) (name : String) (cells : List Cell)
    (stamp : Stamp) : Prop where
  fresh : stamp.village ∉ s.storage.tables.villages
  passes : s.storage.tables.Passes t.storage.tables (Cell.sorted cells) (.personal founder.id)
    (.village stamp.village) name founder.id "village founded" stamp
  land : ∀ cell, t.storage.tables.ownerOf cell = some (.village stamp.village) ↔ cell ∈ cells
  villages : t.storage.tables.villages = s.storage.tables.villages.insert stamp.village
    (.found stamp.village name founder.id stamp.now)
  memberships : t.storage.tables.memberships =
    s.storage.tables.memberships.insert ⟨stamp.village,founder.id⟩
      (.join stamp.village founder .mayor stamp.now)
  alone : ∀ player, (⟨stamp.village,player⟩ : MemberKey) ∈ t.storage.tables.memberships ↔
    player = founder.id
  permissions : t.storage.tables.permissions = s.storage.tables.permissions
  cached : t.cache.byCell = t.storage.tables.claims
  marks : t.cache.marks = s.cache.marks
  directory : t.directory = { s.directory with
    villages := s.directory.villages.insert stamp.village
      (.found stamp.village name founder.id stamp.now)
    names := s.directory.names.insert (VillageName.key name) stamp.village
    members := s.directory.members.insert ⟨stamp.village,founder.id⟩
      (.join stamp.village founder .mayor stamp.now)
    villageOf := s.directory.villageOf.insert founder.id stamp.village }
  config : t.config = s.config
  trusted : t.trusted = s.trusted
  elevated : t.elevated = s.elevated

namespace Orderly
variable {s : Realm} (h : s.Orderly)
include h

/-- A name is taken when some active village of the store bears it, in whatever case. -/
theorem mem_names_iff {name : String} :
    VillageName.key name ∈ s.directory.names ↔ s.storage.tables.HasName name := by
  rw [mem_iff_exists_getElem?_eq_some]
  constructor
  · rintro ⟨id, hid⟩
    obtain ⟨v, hv, hkey⟩ := (h.sound.named _ id).mp hid
    obtain ⟨hrow, hactive⟩ := (h.mirrors.villages id v).mp hv
    exact ⟨id,v,hrow,hactive,hkey⟩
  · rintro ⟨id, v, hrow, hactive, hkey⟩
    exact ⟨id,(h.sound.named _ id).mpr ⟨v,(h.mirrors.villages id v).mpr ⟨hrow,hactive⟩,hkey⟩⟩

theorem mem_villageOf_iff {player : PlayerId} :
    player ∈ s.directory.villageOf ↔ s.storage.tables.Houses player := by
  rw [mem_iff_exists_getElem?_eq_some, Store.Houses, ← h.mirrors.members]
  exact exists_congr fun id => h.sound.housed player id

theorem checkFounding_of_unused {founder : Actor} {name : String}
    (unused : ¬s.storage.tables.HasName name) (free : ¬s.storage.tables.Houses founder.id) :
    s.directory.checkFounding founder name = .ok () :=
  Directory.checkFounding_eq_ok_iff.mpr
    ⟨fun hn => unused (h.mem_names_iff.mp hn),fun hf => free (h.mem_villageOf_iff.mp hf)⟩

/-- No membership is left of a village that is not on record. -/
theorem notMem_memberships {village : VillageId} (hv : village ∉ s.storage.tables.villages)
    (player : PlayerId) : (⟨village,player⟩ : MemberKey) ∉ s.storage.tables.memberships := by
  intro hm
  rw [← h.mirrors.members] at hm
  obtain ⟨m, hm⟩ := mem_iff_exists_getElem?_eq_some.mp hm
  obtain ⟨v, hlisted⟩ := mem_iff_exists_getElem?_eq_some.mp (h.sound.seated.seat _ m hm).2
  exact hv (mem_of_getElem?_eq_some ((h.mirrors.villages village v).mp hlisted).1)

end Orderly

end Realm

/-! ### The verdict on a founding -/

namespace Directory
variable {d : Directory} {founder : Actor} {name : String}

theorem checkFounding_of_taken (h : VillageName.key name ∈ d.names) :
    d.checkFounding founder name = .error ⟨nameTaken name,none⟩ := by
  rw [checkFounding, if_pos h]

theorem checkFounding_of_housed (h : VillageName.key name ∉ d.names)
    (hf : founder.id ∈ d.villageOf) :
    d.checkFounding founder name =
      .error ⟨.validation (.constraintViolation "one_village_per_player"
        (founder.name ++ " already belongs to a village")),none⟩ := by
  rw [checkFounding, if_neg h, checkFree, if_pos hf]

end Directory

namespace Realm
variable {s : Realm} {founder : Actor} {name : String} {cells : List Cell} {cell : Cell}
  {player : PlayerId}

/-- The first cell of an ascending list that is not the founder's is the one that he is told. -/
theorem InSync.foundersClaims_of_foreign (h : s.InSync) (hasc : Cell.Ascending cells)
    (hc : cell ∈ cells) (hf : s.storage.tables.ownerOf cell ≠ some (.personal player))
    (hleast : ∀ other ∈ cells, s.storage.tables.ownerOf other ≠ some (.personal player) →
      compare other cell ≠ .lt) :
    s.foundersClaims player cells = .error (foundersClaims.notOwned player cell) := by
  obtain ⟨before, after, rfl, hown⟩ := hasc.exists_split hc hleast
  clear hasc hc hleast
  -- The cells before it are passed one by one, each with a claim of the founder's.
  induction before with
  | nil =>
    rw [List.nil_append, foundersClaims]
    cases hfound : s.cache.owner? cell with
    | none => rfl
    | some claim =>
      have hne : claim.owner ≠ .personal player := fun ho =>
        hf (h.ownerOf_eq_some_iff.mpr ⟨claim,hfound,ho⟩)
      simp only [if_neg hne]
  | cons first before ih =>
    have hfirst := Classical.not_not.mp (hown first List.mem_cons_self)
    obtain ⟨claim, hfound, howner⟩ := h.ownerOf_eq_some_iff.mp hfirst
    have htail := ih fun c hm => hown c (List.mem_cons_of_mem _ hm)
    rw [List.cons_append, foundersClaims, hfound]
    simp only [if_pos howner, htail]
    rfl

/-- The regions of the claims that were found for listed cells are the regions of the cells. -/
theorem Owns.groups_eq {owner : Owner} {claims : List Claim}
    (ho : s.Owns owner (Cell.sorted cells) claims) (h : s.InSync) :
    Region.groups (claims.map (·.cell)) = Region.groups cells := by
  rw [ho.map_cell h]
  exact Region.groups_congr fun _ => Cell.mem_sorted

theorem checkOneRegion_of_parted {claims : List Claim}
    (h : (Region.groups (claims.map (·.cell))).length ≠ 1) :
    Request.answered (checkOneRegion player claims) =
      .error (.notConnected (Region.groups (claims.map (·.cell))).length) := by
  rw [checkOneRegion, if_neg h]
  rfl

end Realm

namespace Request
variable {α : Type} {s : Realm}

@[simp] theorem verdict_lockCells (cells : List Cell) (next : Request α) :
    (lockCells cells next).verdict s = next.verdict s := by
  induction cells with
  | nil => rfl
  | cons _ _ ih => exact ih

/-- The checks of a founding, in their order. -/
theorem verdict_found (founder : Actor) (name : String) {cells : List Cell} (given : cells ≠ [])
    (stamp : Stamp) :
    (found founder name cells stamp).verdict s = (do
      s.checkName name
      answered (s.directory.checkFounding founder name)
      let claims ← answered (s.foundersClaims founder.id (Cell.sorted cells))
      answered (checkOneRegion founder.id claims)
      return .found founder name claims stamp) := by
  simp only [found, verdict_look, verdict_demand, if_neg given, verdict_lock, verdict_require,
    verdict_lockCells, verdict_commit]
  rfl

/-- A founding asks for no cell that might be vacant. -/
theorem not_asksFor_found (founder : Actor) (name : String) (cells : List Cell) (stamp : Stamp)
    (cell : Cell) : ¬(found founder name cells stamp).AsksFor cell s := by
  by_cases hc : cells = []
  · simp [found, hc]
  · simp [found, hc]

end Request

namespace Realm
variable {s : Realm} {founder : Actor} {name : String} {cells : List Cell} {stamp : Stamp}

/-- With all that it takes, a founding comes to its plan. -/
theorem MayFound.verdict (hm : s.MayFound founder name cells) (h : s.Orderly) (stamp : Stamp) :
    ∃ claims, s.Owns (.personal founder.id) (Cell.sorted cells) claims ∧
      (Request.found founder name cells stamp).verdict s = .ok (.found founder name claims stamp) := by
  have hown (cell) (hc : cell ∈ Cell.sorted cells) :
      s.storage.tables.ownerOf cell = some (.personal founder.id) :=
    hm.own cell (Cell.mem_sorted.mp hc)
  obtain ⟨claims, hclaims⟩ := h.sync.exists_owns_iff.mpr hown
  have hregion : checkOneRegion founder.id claims = .ok () := by
    rw [checkOneRegion_eq_ok_iff, hclaims.groups_eq h.sync]
    exact (Region.length_groups_eq_one_iff cells).mpr ⟨hm.given,hm.region⟩
  refine ⟨claims,hclaims, ?_⟩
  rw [Request.verdict_found founder name hm.given, hm.named,
    h.checkFounding_of_unused hm.unused hm.free, foundersClaims_eq_ok_iff.mpr hclaims]
  change Request.answered (checkOneRegion founder.id claims) >>= _ = _
  rw [hregion]
  rfl

/-- What a founder is told is the verdict on his founding. -/
theorem RefusesFounding.verdict {e : Error} (hr : s.RefusesFounding founder name cells e)
    (h : s.Orderly) : (Request.found founder name cells stamp).verdict s = .error e := by
  cases hr with
  | badName bad => rw [Request.found, Request.verdict_look, Request.verdict_demand, bad]; rfl
  | noCells named none =>
    rw [Request.found, Request.verdict_look, Request.verdict_demand, named, if_pos none]
    rfl
  | nameTaken named given used =>
    rw [Request.verdict_found founder name given, named,
      Directory.checkFounding_of_taken (h.mem_names_iff.mpr used)]
    rfl
  | housed named given unused housed =>
    have hunused : VillageName.key name ∉ s.directory.names := fun hk =>
      unused (h.mem_names_iff.mp hk)
    rw [Request.verdict_found founder name given, named,
      Directory.checkFounding_of_housed hunused (h.mem_villageOf_iff.mpr housed)]
    rfl
  | @foreign cell named given unused free listed foreign least =>
    have hclaims := h.sync.foundersClaims_of_foreign (Cell.Ascending.sorted cells)
      (Cell.mem_sorted.mpr listed) foreign fun other ho => least other (Cell.mem_sorted.mp ho)
    rw [Request.verdict_found founder name given, named, h.checkFounding_of_unused unused free,
      hclaims]
    rfl
  | regions named given unused free own parted =>
    obtain ⟨claims, hclaims⟩ := h.sync.exists_owns_iff.mpr fun cell hc =>
      own cell (Cell.mem_sorted.mp hc)
    have hgroups := hclaims.groups_eq h.sync
    have hregions : Request.answered (checkOneRegion founder.id claims) =
        .error (.notConnected (Region.groups cells).length) := by
      rw [checkOneRegion_of_parted (hgroups ▸ parted), hgroups]
    rw [Request.verdict_found founder name given, named, h.checkFounding_of_unused unused free,
      foundersClaims_eq_ok_iff.mpr hclaims]
    change Request.answered (checkOneRegion founder.id claims) >>= _ = _
    rw [hregions]
    rfl

/-- Of foreign cells among those that are listed, one is the smallest. -/
theorem exists_least_foreign (s : Realm) (owner : Owner)
    (h : ∃ cell ∈ cells, s.storage.tables.ownerOf cell ≠ some owner) :
    ∃ cell ∈ cells, s.storage.tables.ownerOf cell ≠ some owner ∧
      ∀ other ∈ cells, s.storage.tables.ownerOf other ≠ some owner → compare other cell ≠ .lt := by
  let isForeign (cell : Cell) : Bool := s.storage.tables.ownerOf cell ≠ some owner
  have hmem (cell) : cell ∈ (Cell.sorted cells).filter isForeign ↔
      cell ∈ cells ∧ s.storage.tables.ownerOf cell ≠ some owner := by
    rw [List.mem_filter, Cell.mem_sorted, decide_eq_true_iff]
  have hasc : Cell.Ascending ((Cell.sorted cells).filter isForeign) :=
    (Cell.Ascending.sorted cells).sublist List.filter_sublist
  obtain ⟨cell, hc⟩ := h
  cases hf : (Cell.sorted cells).filter isForeign with
  | nil =>
    have hnone := (hmem cell).mpr hc
    rw [hf] at hnone
    cases hnone
  | cons first rest =>
    rw [hf] at hmem hasc
    obtain ⟨hfirst, hforeign⟩ := (hmem first).mp List.mem_cons_self
    refine ⟨first,hfirst,hforeign,fun other ho hno => ?_⟩
    rcases List.mem_cons.mp ((hmem other).mpr ⟨ho,hno⟩) with rfl | hrest
    · rw [compare_self]
      decide
    · exact OrientedCmp.not_lt_of_lt ((List.pairwise_cons.mp hasc).1 other hrest)

/-- A founder has all that it takes, or he lacks something. -/
theorem mayFound_or_refuses (s : Realm) (founder : Actor) (name : String) (cells : List Cell) :
    s.MayFound founder name cells ∨ ∃ e, s.RefusesFounding founder name cells e := by
  cases hname : s.checkName name with
  | error e => exact .inr ⟨e,.badName hname⟩
  | ok _ =>
    by_cases hcells : cells = []
    · exact .inr ⟨_,.noCells hname hcells⟩
    by_cases hused : s.storage.tables.HasName name
    · exact .inr ⟨_,.nameTaken hname hcells hused⟩
    by_cases hhoused : s.storage.tables.Houses founder.id
    · exact .inr ⟨_,.housed hname hcells hused hhoused⟩
    by_cases hown : ∀ cell ∈ cells, s.storage.tables.ownerOf cell = some (.personal founder.id)
    · by_cases hone : (Region.groups cells).length = 1
      · have hregion := ((Region.length_groups_eq_one_iff cells).mp hone).2
        exact .inl ⟨hname,hcells,hused,hhoused,hown,hregion⟩
      · exact .inr ⟨_,.regions hname hcells hused hhoused hown hone⟩
    · push Not at hown
      obtain ⟨cell, hc, hforeign, hleast⟩ := exists_least_foreign s _ hown
      exact .inr ⟨_,.foreign hname hcells hused hhoused hc hforeign hleast⟩

/-- The land of a founding passes from the founder to the village. -/
theorem InSync.passes_found (h : s.InSync) {claims : List Claim} {t : Store}
    (ho : s.Owns (.personal founder.id) (Cell.sorted cells) claims)
    (hw : s.storage.tables.writeAll (Plan.found founder name claims stamp).batch = .ok t) :
    s.storage.tables.Passes t (Cell.sorted cells) (.personal founder.id) (.village stamp.village)
      name founder.id "village founded" stamp := by
  have hcells := ho.map_cell h
  rw [← hcells]
  exact Store.passes_of_writeAll h hw Plan.changes_found Plan.entries_found
    (hcells ▸ Cell.nodup_sorted cells) (ho.owned h)

/-- All village land is of villages on record. -/
theorem ownerOf_ne_of_unrecorded (h : Managed s) {village : VillageId}
    (hv : village ∉ s.storage.tables.villages) (cell : Cell) :
    s.storage.tables.ownerOf cell ≠ some (.village village) := by
  intro howner
  obtain ⟨claim, hc, ho⟩ := Option.map_eq_some_iff.mp howner
  obtain ⟨v, hrow, -⟩ := h.backs hc _ ho
  exact hv (mem_of_getElem?_eq_some ((h.orderly.mirrors.villages _ v).mp hrow).1)

/-- A founding whose plan the store took. -/
theorem founds_of_done (h : Managed s) {claims : List Claim}
    (ho : s.Owns (.personal founder.id) (Cell.sorted cells) claims)
    (hd : ((Command.found founder name cells).request stamp).Done s
      ((Plan.found founder name claims stamp).map .village)) :
    s.Founds ((Command.found founder name cells).run stamp s).realm founder name cells stamp := by
  let t := ((Command.found founder name cells).run stamp s).realm
  have hw : s.storage.tables.writeAll (Plan.found founder name claims stamp).batch =
      .ok t.storage.tables := hd.written
  have hsync : t.InSync := h.inSync.done hd Plan.changes_found
  have hfiled : s.storage.tables.Filed t.storage.tables _ := Store.filed_of_writeAll hw
  rw [Plan.filings_found] at hfiled
  have hfresh : stamp.village ∉ s.storage.tables.villages :=
    (Store.writeAll_cons_eq_ok_iff.mp hw).1
  have hpasses := h.inSync.passes_found ho hw
  have hmemberships : t.storage.tables.memberships =
      s.storage.tables.memberships.insert ⟨stamp.village,founder.id⟩
        (.join stamp.village founder .mayor stamp.now) := hfiled.memberships
  constructor
  case fresh => exact hfresh
  case passes => exact hpasses
  case land =>
    intro cell
    constructor
    · intro howner
      by_contra hc
      apply ownerOf_ne_of_unrecorded h hfresh cell
      rw [← howner, Store.ownerOf, Store.ownerOf,
        hpasses.kept cell fun hm => hc (Cell.mem_sorted.mp hm)]
    · intro hc
      obtain ⟨claim, -, -, hafter⟩ := hpasses.passed cell (Cell.mem_sorted.mpr hc)
      rw [Store.ownerOf, hafter]
      rfl
  case villages => exact hfiled.villages
  case memberships => exact hmemberships
  case alone =>
    intro player
    rw [hmemberships, ExtTreeMap.mem_insert, Std.compare_eq_iff_eq, MemberKey.mk.injEq]
    constructor
    · rintro (⟨-,hp⟩ | hm)
      · exact hp.symm
      · exact absurd hm (h.orderly.notMem_memberships hfresh player)
    · intro hp
      exact .inl ⟨rfl,hp.symm⟩
  case permissions => exact hfiled.permissions
  case cached => exact hsync.claims
  case marks => rw [hsync.marks, hpasses.marks, h.inSync.marks]
  case directory => exact hd.directory
  case config => exact hd.config
  case trusted => exact hd.trusted
  case elevated => exact hd.elevated

end Realm

/-- In every state that a server comes to, and with a store that takes the batch, a village is founded
just when the name is within its bounds and free, cells are listed, the founder is in no village, the
cells are his own and they are one region. Then the distinct cells pass to the new village under its
name, each with one entry in the audit trail, the founder is its only member and mayor, and nothing else
changes. Else the founder is told the first of these that is missing, and nothing changes at all. -/
theorem Managed.founding_exact {s : Realm} (h : Managed s) {founder : Actor} {name : String}
    {cells : List Cell} {stamp : Stamp}
    (accepted : (Command.found founder name cells).Accepted stamp s) :
    let after := (Command.found founder name cells).run stamp s
    ((∃ answer, after.result = .ok answer) ↔ s.MayFound founder name cells) ∧
    (∀ answer, after.result = .ok answer →
      answer = .village (.found stamp.village name founder.id stamp.now) ∧
      s.Founds after.realm founder name cells stamp) ∧
    (∀ e, after.result = .error e ↔ s.RefusesFounding founder name cells e) ∧
    ∀ e, after.result = .error e → after.realm = s := by
  intro after
  have hverdict : ((Command.found founder name cells).request stamp).verdict s =
      ((Request.found founder name cells stamp).verdict s).map (.map .village) :=
    Request.verdict_map _ _
  have hfounds (hm : s.MayFound founder name cells) :
      after.result = .ok (.village (.found stamp.village name founder.id stamp.now)) ∧
        s.Founds after.realm founder name cells stamp := by
    obtain ⟨claims, ho, hv⟩ := hm.verdict h.orderly stamp
    rw [hv] at hverdict
    have hd := accepted.done (Request.plan?_eq_some_iff_verdict.mpr hverdict)
    exact ⟨hd.result,Realm.founds_of_done h ho hd⟩
  have hrefuses (e : Error) (hr : s.RefusesFounding founder name cells e) :
      after.result = .error e ∧ after.realm = s := by
    rw [hr.verdict h.orderly] at hverdict
    refine ⟨Request.result_run_of_verdict_error hverdict,
      Request.realm_run_of_verdict_error (fun cell => ?_) hverdict⟩
    rw [Command.request, Request.asksFor_map]
    exact Request.not_asksFor_found founder name cells stamp cell
  obtain ⟨hmay, hanswer, herror⟩ := Except.decided (s.mayFound_or_refuses founder name cells)
    (fun hm => (hfounds hm).1) fun e hr => (hrefuses e hr).1
  refine ⟨hmay,fun answer ha => ⟨hanswer answer ha, ?_⟩,herror,fun e he => ?_⟩
  · exact (hfounds (hmay.mp ⟨answer,ha⟩)).2
  · exact (hrefuses e ((herror e).mp he)).2

namespace Sample

def homestead : Realm :=
  ({ config := {} } : Realm).start.realm.runAll
    [(.command (.claim ann (road 0) (.free 1)),stamp 1),
      (.command (.claim ann (road 1) (.free 2)),stamp 2),
      (.command (.claim ben (road 5) (.free 1)),stamp 3)]

/-- Ann has two cells of the road, and Ben one that is not next to them. -/
theorem calm_homestead : homestead.Calm := ⟨(Managed.start rfl rfl).runAll _,by decide +kernel⟩

/-- Ann founds a village on her two cells, one of which she lists twice. With Ben's cell on the list she
cannot, and is told of that one. -/
theorem homestead_founding_exact :
    Managed homestead ∧
    (Command.found ann "Oakham" [road 1,road 0,road 1]).Accepted (stamp 4) homestead ∧
    (Command.found ann "Oakham" [road 5,road 1]).Accepted (stamp 4) homestead ∧
    homestead.Founds ((Command.found ann "Oakham" [road 1,road 0,road 1]).run (stamp 4)
      homestead).realm ann "Oakham" [road 1,road 0,road 1] (stamp 4) ∧
    homestead.RefusesFounding ann "Oakham" [road 5,road 1] (.notAllOwnedByFounder (road 5)) := by
  have hfresh : (stamp 4).village ∉ homestead.storage.tables.villages := by decide +kernel
  have haccepted (cells : List Cell) :
      (Command.found ann "Oakham" cells).Accepted (stamp 4) homestead :=
    calm_homestead.accepted fun _ _ _ _ => hfresh
  have hown := calm_homestead.managed.founding_exact (haccepted [road 1,road 0,road 1])
  have hforeign := calm_homestead.managed.founding_exact (haccepted [road 5,road 1])
  exact ⟨calm_homestead.managed,haccepted _,haccepted _,
    (hown.2.1 (.village (.found ⟨.ofNat 4⟩ "Oakham" ann.id (stamp 4).now)) (by decide +kernel)).2,
    (hforeign.2.2.1 _).mp (by decide +kernel)⟩

end Sample

end Freehold
