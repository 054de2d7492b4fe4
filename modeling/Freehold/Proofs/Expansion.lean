import Freehold.Proofs.Founding

/-!
Village land that only grows stays in one piece. A cell is added where it borders on what is there, so
the regions can only become fewer, and a village is founded on one region. What can part its land is the
return or the confiscation of a cell, and of those the audit trail tells.
-/

namespace Freehold
open Std

/-- The audit trail tells of a cell that the village gave back or that was taken from it. -/
def Store.Reduced (t : Store) (village : VillageId) : Prop :=
  ∃ e ∈ t.history, e.previousOwner = some (.village village) ∧
    (e.action = .unclaimed ∨ e.action = .confiscated)

namespace Realm

structure Expands (s t : Realm) (village : VillageId) (cell : Cell) : Prop where
  vacant : s.storage.tables.claims[cell]? = none
  gained : t.storage.tables.ownerOf cell = some (.village village)
  kept : ∀ other, other ≠ cell → t.storage.tables.claims[other]? = s.storage.tables.claims[other]?
  land : ∀ other, other ∈ t.cache.landOf village ↔ other = cell ∨ other ∈ s.cache.landOf village
  -- A village with land gets no more regions.
  regions : s.cache.landOf village ≠ [] →
    (t.villageRegions village).length ≤ (s.villageRegions village).length
  -- Its first cell may lie anywhere.
  first : s.cache.landOf village = [] → t.villageRegions village = [[cell]]

variable {s t : Realm} {village : VillageId} {cell : Cell}

/-- The regions of a village depend on whose the cells are in the store. -/
theorem villageRegions_congr (h : s.InSync) (he : s.cache.Exact) (h' : t.InSync)
    (he' : t.cache.Exact) (hown : ∀ cell, t.storage.tables.ownerOf cell = some (.village village) ↔
      s.storage.tables.ownerOf cell = some (.village village)) :
    t.villageRegions village = s.villageRegions village := by
  apply Region.groups_congr
  intro cell
  rw [h'.mem_landOf he', h.mem_landOf he, hown]

/-- An expansion whose plan the store took adds one cell to the land of the village and leaves the
claims of all other cells alone. -/
theorem expands_of_done (h : Managed s) {a : Actor} {cost : Cost} {stamp : Stamp} {p : Plan Answer}
    (hd : ((Command.expand a cell cost).request stamp).Done s p) :
    ∃ village, s.directory.villageOf[a.id]? = some village ∧
      s.Expands ((Command.expand a cell cost).run stamp s).realm village cell := by
  let t := ((Command.expand a cell cost).run stamp s).realm
  have h' : Managed t := h.run (.command (.expand a cell cost)) stamp
  have hc := Command.ComesTo.of_plan? hd.plan
  cases hc with
  | @expand _ _ _ village v offer home active allowed vacant border =>
    have hclaims : t.storage.tables.claims = s.storage.tables.claims.insert cell
        (.make cell (.village village) v.name cost stamp.now) := Store.claims_writeAll hd.written
    have hgained : t.storage.tables.ownerOf cell = some (.village village) := by
      rw [Store.ownerOf, hclaims, ExtTreeMap.getElem?_insert_self]
      rfl
    have hkept (other : Cell) (hne : other ≠ cell) :
        t.storage.tables.claims[other]? = s.storage.tables.claims[other]? := by
      rw [hclaims, ExtTreeMap.getElem?_insert]
      simp [Ne.symm hne]
    have hland (other : Cell) :
        other ∈ t.cache.landOf village ↔ other = cell ∨ other ∈ s.cache.landOf village := by
      rw [h'.inSync.mem_landOf h'.exact, h.inSync.mem_landOf h.exact]
      by_cases hne : other = cell
      · subst hne
        exact ⟨fun _ => .inl rfl,fun _ => hgained⟩
      · rw [Store.ownerOf, hkept other hne, ← Store.ownerOf]
        exact (or_iff_right hne).symm
    refine ⟨village,home,vacant.stored,hgained,hkept,hland,fun hne => ?_,fun hnone => ?_⟩
    · exact Region.length_groups_of_borders (border.resolve_left hne) hland
    · have hone : Region.groups (t.cache.landOf village) = Region.groups [cell] := by
        apply Region.groups_congr
        intro other
        rw [hland, hnone, List.mem_singleton]
        exact or_iff_left (List.not_mem_nil)
      rw [Realm.villageRegions, hone, Region.groups_singleton]

end Realm

/-- The villages after a plan were there before and are not the one that it ends, or the plan founds
them. -/
theorem Command.ComesTo.mem_villages {stamp : Stamp} {s : Realm} {c : Command} {p : Plan Answer}
    (hc : c.ComesTo stamp s p) (hk : s.directory.RowsKeyed) {id : VillageId}
    (h : id ∈ (p.directoryChange s.directory).villages) :
    (id ∈ s.directory.villages ∧ ∀ a, c ≠ .disband a id) ∨
      ∃ a name cells, c = .found a name cells ∧ id = stamp.village := by
  have hupdated (d : Directory) (row : Village) (hrow : row.id ∈ d.villages)
      (h : id ∈ (d.updateVillage row).villages) : id ∈ d.villages := by
    rw [Directory.villages_updateVillage, ExtTreeMap.mem_insert, Std.compare_eq_iff_eq] at h
    rcases h with rfl | hold
    · exact hrow
    · exact hold
  cases hc with
  | claim | claimWithLimit | claimNext | unclaim | expand | returnCells => exact .inl ⟨h,nofun⟩
  | addMember | setRole | kick | leave | grant | revoke => exact .inl ⟨h,nofun⟩
  | found =>
    rcases ExtTreeMap.mem_insert.mp h with heq | hold
    · exact .inr ⟨_,_,_,rfl,(Std.compare_eq_iff_eq.mp heq).symm⟩
    · exact .inl ⟨hold,nofun⟩
  | @disband a village v mayor active =>
    have hv : v.id = village := hk.villages village v active
    have hout : id ∈ (s.directory.removeVillage v.id).villages := h
    rw [Directory.villages_removeVillage, hv, ExtTreeMap.mem_erase] at hout
    refine .inl ⟨hout.2, ?_⟩
    rintro a' heq
    cases heq
    exact hout.1 compare_self
  | @transfer a village next v old new active =>
    have hv : v.id = village := hk.villages village v active
    have hrow : v.id ∈ s.directory.villages := hv ▸ mem_of_getElem?_eq_some active
    let d := (s.directory.upsertMember (old.withRole .member)).upsertMember (new.withRole .mayor)
    exact .inl ⟨hupdated d { v with mayor := next, updatedAt := stamp.now } hrow h,nofun⟩
  | @rename a village name v named active =>
    have hv : v.id = village := hk.villages village v active
    have hrow : v.id ∈ s.directory.villages := hv ▸ mem_of_getElem?_eq_some active
    exact .inl ⟨hupdated _ { v with name := name, updatedAt := stamp.now } hrow h,nofun⟩

namespace Store
variable {t t' : Store} {cells : List Cell} {old new : Option Owner} {entries : List HistoryEntry}
  {village : VillageId}

/-- The audit trail never forgets. -/
theorem Moves.reduced (h : t.Moves t' cells old new entries) (hr : t.Reduced village) :
    t'.Reduced village := by
  obtain ⟨e, he, hprevious, haction⟩ := hr
  refine ⟨e, ?_,hprevious,haction⟩
  rw [h.history]
  exact List.mem_append_left _ he

/-- A cell that goes from a village to nobody is told of. -/
theorem Moves.reduced_of_removed (h : t.Moves t' cells (some (.village village)) none entries)
    {cell : Cell} (hc : cell ∈ cells) : t'.Reduced village := by
  obtain ⟨e, hfilter, htells⟩ := h.told cell hc
  have he : e ∈ entries := by
    have hmem : e ∈ entries.filter (·.cell = cell) := hfilter ▸ List.mem_singleton_self e
    exact (List.mem_filter.mp hmem).1
  refine ⟨e, ?_,htells.previous,htells.fits.removed.mpr ⟨?_,htells.next⟩⟩
  · rw [h.history]
    exact List.mem_append_right _ he
  · rw [htells.previous]
    nofun

/-- Moves between others leave a village its land. -/
theorem Moves.ownerOf_iff (h : t.Moves t' cells old new entries)
    (ho : ∀ cell ∈ cells, old ≠ some (.village village) ∧ new ≠ some (.village village))
    (cell : Cell) :
    t'.ownerOf cell = some (.village village) ↔ t.ownerOf cell = some (.village village) := by
  by_cases hc : cell ∈ cells
  · obtain ⟨hold, hnew⟩ := ho cell hc
    rw [h.before cell hc, h.after cell hc]
    exact iff_of_false hnew hold
  · rw [h.kept cell hc]

end Store

def Realm.Whole (s : Realm) : Prop :=
  ∀ village ∈ s.directory.villages, ¬s.storage.tables.Reduced village →
    (s.villageRegions village).length = 1

namespace Realm.Whole
variable {s : Realm} {stamp : Stamp} {c : Command} {p : Plan Answer}

/-- A village that was just founded has the one region that was checked. -/
theorem founded (h : Managed s) {a : Actor} {name : String} {cells : List Cell}
    (hc : (Command.found a name cells).ComesTo stamp s p)
    (hd : ((Command.found a name cells).request stamp).Done s p) :
    (((Command.found a name cells).run stamp s).realm.villageRegions stamp.village).length = 1 := by
  let t := ((Command.found a name cells).run stamp s).realm
  have h' : Managed t := h.run (.command (.found a name cells)) stamp
  cases hc with
  | found named given unused free own region =>
    have hland := (Realm.founds_of_done h own hd).land
    have hone : t.villageRegions stamp.village = Region.groups cells := by
      apply Region.groups_congr
      intro cell
      rw [h'.inSync.mem_landOf h'.exact]
      exact hland cell
    rw [hone, ← own.groups_eq h.inSync]
    exact region

/-- A village of one region that gets a cell has one region. -/
theorem expanded (h : Managed s) {a : Actor} {cell : Cell} {cost : Cost} {village : VillageId}
    (hd : ((Command.expand a cell cost).request stamp).Done s p)
    (hown : ((Command.expand a cell cost).run stamp s).realm.storage.tables.ownerOf cell =
      some (.village village))
    (hone : (s.villageRegions village).length = 1) :
    (((Command.expand a cell cost).run stamp s).realm.villageRegions village).length = 1 := by
  let t := ((Command.expand a cell cost).run stamp s).realm
  obtain ⟨other, -, hx⟩ := expands_of_done h hd
  obtain rfl : other = village :=
    Owner.village.inj (Option.some.inj (hx.gained.symm.trans hown))
  obtain ⟨hne, -⟩ := (Region.length_groups_eq_one_iff _).mp hone
  have hle : (t.villageRegions other).length ≤ 1 := hone ▸ hx.regions hne
  -- The cell itself is in one of the regions.
  have hcell : cell ∈ t.cache.landOf other := (hx.land cell).mpr (.inl rfl)
  obtain ⟨region, hr, -⟩ := ((Region.components_groups _).covers cell).mp hcell
  exact Nat.le_antisymm hle (List.length_pos_of_mem hr)

/-- A command that is carried out parts the land of no village, unless the trail then tells why. -/
theorem done (hw : s.Whole) (h : Managed s) (hc : c.ComesTo stamp s p)
    (hd : (c.request stamp).Done s p) : (c.run stamp s).realm.Whole := by
  let t := (c.run stamp s).realm
  have h' : Managed t := h.run (.command c) stamp
  intro village hvillage hnot
  have hlisted : village ∈ (p.directoryChange s.directory).villages := hd.directory ▸ hvillage
  obtain ⟨cells, old, new, entries, hm, hg⟩ := hc.moves h.inSync h.rowsKeyed hd.written
  rcases hc.mem_villages h.rowsKeyed hlisted with ⟨hold,hstays⟩ | ⟨a,name,list,rfl,rfl⟩
  · have hbefore := hw village hold fun hr => hnot (hm.reduced hr)
    by_cases hown : ∃ cell ∈ cells,
        old = some (.village village) ∨ new = some (.village village)
    -- The command has one of the grounds on which village land changes hands.
    · obtain ⟨cell, hcell, hown⟩ := hown
      obtain ⟨g, hg⟩ := hg cell hcell
      cases hg with
      | claim | claimWithLimit | claimNext | release => simp at hown
      | expansion =>
        obtain rfl := Owner.village.inj (Option.some.inj (hown.resolve_left nofun))
        exact expanded h hd (hm.after cell hcell) hbefore
      | founding fresh =>
        obtain rfl := Owner.village.inj (Option.some.inj (hown.resolve_left nofun))
        obtain ⟨v, hv⟩ := mem_iff_exists_getElem?_eq_some.mp hold
        exact absurd (mem_of_getElem?_eq_some ((h.orderly.mirrors.villages _ v).mp hv).1) fresh
      | confiscation | reduction =>
        obtain rfl := Owner.village.inj (Option.some.inj (hown.resolve_right nofun))
        exact absurd (hm.reduced_of_removed hcell) hnot
      | disbanding =>
        obtain rfl := Owner.village.inj (Option.some.inj (hown.resolve_right nofun))
        exact absurd rfl (hstays _)
    · push Not at hown
      rw [villageRegions_congr h.inSync h.exact h'.inSync h'.exact (hm.ownerOf_iff hown)]
      exact hbefore
  · exact founded h hc hd

end Realm.Whole

/-- In every state that a server comes to, villages whose land was never reduced have one region. -/
theorem Managed.whole {s : Realm} (h : Managed s) : s.Whole := by
  induction h with
  | @start s empty started =>
    intro village hvillage
    have htables : s.start.realm.storage.tables = {} :=
      (Realm.recalls_start started).tables.trans empty
    obtain ⟨v, hv⟩ := mem_iff_exists_getElem?_eq_some.mp hvillage
    have hrow := (((Managed.start empty started).orderly.mirrors.villages village v).mp hv).1
    rw [htables] at hrow
    simp at hrow
  | @run s managed o stamp ih =>
    have h' := managed.run o stamp
    rcases managed.inSync.run_cases o stamp with hr | ⟨c,p,rfl,hc,hd⟩
    · intro village hvillage hnot
      rw [managed.orderly.directory_eq hr] at hvillage
      rw [hr.tables] at hnot
      have hsame : (o.run stamp s).realm.villageRegions village = s.villageRegions village := by
        apply Realm.villageRegions_congr managed.inSync managed.exact h'.inSync h'.exact
        intro cell
        rw [hr.tables]
      rw [hsame]
      exact ih village hvillage hnot
    · exact ih.done managed hc hd

/-! ### Cells that do not border on the land -/

section Apart
variable {s : Realm} {a : Actor} {cell : Cell} {cost : Cost} {stamp : Stamp} {village : VillageId}

/-- Where all else is right, a cell apart from the land is refused for the two regions that there
would be. -/
theorem Request.verdict_expand_of_apart (h : s.Orderly)
    (home : s.directory.villageOf[a.id]? = some village)
    (border : ¬(s.cache.landOf village = [] ∨ Region.borders (s.cache.landOf village) cell = true))
    (offer : s.TakesForVillage cost)
    (allowed : s.directory.hasCapability ⟨village,a.id⟩ .expandLand = true)
    (vacant : s.Vacant cell) :
    (expand a cell cost stamp).verdict s = .error (.notConnected 2) := by
  have hseat : (⟨village,a.id⟩ : MemberKey) ∈ s.directory.members :=
    (h.sound.housed a.id village).mp home
  obtain ⟨m, hm⟩ := mem_iff_exists_getElem?_eq_some.mp hseat
  obtain ⟨v, hv⟩ := mem_iff_exists_getElem?_eq_some.mp (h.sound.seated.seat _ m hm).2
  rw [verdict_expand, Realm.checkVillageOffer_eq_ok_iff_takes.mpr offer,
    Directory.ownVillage_eq_ok_iff.mpr home]
  change (answered (s.directory.villageFor village a.id .expandLand) >>= _) = _
  rw [Directory.villageFor_eq_ok_iff.mpr ⟨hv,allowed⟩]
  change (s.vacancy cell >>= _) = _
  rw [vacant.vacancy_eq]
  change (answered (s.checkBorder village cell) >>= _) = _
  rw [Realm.checkBorder, if_neg border]
  rfl

/-- No verdict lets a village have a cell that is apart from its land. -/
theorem Command.exists_error_of_apart (h : s.Orderly)
    (home : s.directory.villageOf[a.id]? = some village)
    (border : ¬(s.cache.landOf village = [] ∨ Region.borders (s.cache.landOf village) cell = true))
    (cost : Cost) (stamp : Stamp) :
    ∃ e, ((Command.expand a cell cost).request stamp).verdict s = .error e ∧
      (s.TakesForVillage cost → s.directory.hasCapability ⟨village,a.id⟩ .expandLand = true →
        s.Vacant cell → e = .notConnected 2) := by
  cases hv : ((Command.expand a cell cost).request stamp).verdict s with
  | ok p =>
    have hc := ComesTo.of_plan? (Request.plan?_eq_some_iff_verdict.mpr hv)
    cases hc with
    | @expand _ _ _ other v _ home' _ _ _ border' =>
      obtain rfl : other = village := Option.some.inj (home'.symm.trans home)
      exact absurd border' border
  | error e =>
    refine ⟨e,rfl,fun offer allowed vacant => ?_⟩
    rw [Command.request, Request.verdict_map,
      Request.verdict_expand_of_apart h home border offer allowed vacant] at hv
    exact (Except.error.inj hv).symm

end Apart

/-- In every state that a server comes to: a cell that is claimed for a village is added to its land and
to nothing else, and the land falls into no more regions than before, or into one if there was none. The
land of an active village, of which no cell was ever given back or confiscated, is one region. And a cell
that is apart from what land the village has is never added, which is what the actor is told if nothing
else is amiss, and nothing changes but how often the store was asked. -/
theorem Managed.expansion_never_parts {s : Realm} (h : Managed s) :
    (∀ a cell cost stamp answer,
      ((Command.expand a cell cost).run stamp s).result = .ok answer →
      ∃ village, s.directory.villageOf[a.id]? = some village ∧
        s.Expands ((Command.expand a cell cost).run stamp s).realm village cell) ∧
    (∀ village ∈ s.directory.villages, ¬s.storage.tables.Reduced village →
      (s.villageRegions village).length = 1) ∧
    ∀ (a : Actor) cell cost stamp village, s.directory.villageOf[a.id]? = some village →
      s.cache.landOf village ≠ [] →
      (∀ other ∈ s.cache.landOf village, other.touches cell = false) →
      let after := (Command.expand a cell cost).run stamp s
      (∃ e, after.result = .error e ∧
        (s.TakesForVillage cost → s.directory.hasCapability ⟨village,a.id⟩ .expandLand = true →
          s.Vacant cell → e = .notConnected 2)) ∧
      ∃ n, after.realm = s.withReads n := by
  refine ⟨fun a cell cost stamp answer hanswer => ?_,h.whole, ?_⟩
  · rcases (Command.expand a cell cost).refused_or_done stamp s with ⟨e,he⟩ | ⟨p,-,hd⟩
    · cases he.result.symm.trans hanswer
    · exact Realm.expands_of_done h hd
  · intro a cell cost stamp village home hland hapart after
    have hborder : ¬(s.cache.landOf village = [] ∨
        Region.borders (s.cache.landOf village) cell = true) := by
      rintro (hnone | hb)
      · exact hland hnone
      · obtain ⟨other, ho, htouch⟩ := List.any_eq_true.mp hb
        rw [hapart other ho] at htouch
        cases htouch
    obtain ⟨e, hv, hcause⟩ := Command.exists_error_of_apart h.orderly home hborder cost stamp
    obtain ⟨hresult, hrealm⟩ := h.inSync.run_of_verdict_error hv
    exact ⟨⟨e,hresult,hcause⟩,hrealm⟩

namespace Sample

def settlement : Realm := homestead.runAll [(.command (.found ann "Oakham" [road 1,road 0]),stamp 4)]

/-- The village gets the next cell of the road and stays in one piece. It does not get one that lies
apart. -/
theorem settlement_expansion_never_parts :
    Managed settlement ∧
    (∃ village, settlement.directory.villageOf[ann.id]? = some village ∧
      settlement.Expands ((Command.expand ann (road 2) (.paid .ironIngot 64)).run (stamp 5)
        settlement).realm village (road 2)) ∧
    (settlement.villageRegions ⟨.ofNat 4⟩).length = 1 ∧
    ((Command.expand ann (road 7) (.paid .ironIngot 64)).run (stamp 5) settlement).result =
      .error (.notConnected 2) := by
  have hmanaged : Managed settlement := calm_homestead.managed.runAll _
  obtain ⟨hexpands, hwhole, hapart⟩ := hmanaged.expansion_never_parts
  have hnever : ¬settlement.storage.tables.Reduced ⟨.ofNat 4⟩ := by
    unfold Store.Reduced
    decide +kernel
  refine ⟨hmanaged, ?_,hwhole _ (by decide +kernel) hnever, ?_⟩
  · have hdone : (((Command.expand ann (road 2) (.paid .ironIngot 64)).run (stamp 5)
        settlement).result.toOption).isSome = true := by
      decide +kernel
    cases hr : ((Command.expand ann (road 2) (.paid .ironIngot 64)).run (stamp 5)
        settlement).result with
    | ok answer => exact hexpands ann (road 2) (.paid .ironIngot 64) (stamp 5) answer hr
    | error e =>
      rw [hr] at hdone
      cases hdone
  · have hfar : (settlement.cache.landOf ⟨.ofNat 4⟩).all (fun c => !c.touches (road 7)) = true := by
      decide +kernel
    have htouch (other) (ho : other ∈ settlement.cache.landOf ⟨.ofNat 4⟩) :
        other.touches (road 7) = false := by
      have hnot := List.all_eq_true.mp hfar other ho
      simpa using hnot
    obtain ⟨⟨e, hresult, hcause⟩, -⟩ := hapart ann (road 7) (.paid .ironIngot 64) (stamp 5)
      ⟨.ofNat 4⟩ (by decide +kernel) (by decide +kernel) htouch
    have hoffer : settlement.TakesForVillage (.paid .ironIngot 64) :=
      ⟨by decide +kernel,by decide +kernel,by decide +kernel,by decide +kernel⟩
    have hvacant : settlement.Vacant (road 7) :=
      ⟨by decide +kernel,by decide +kernel,by decide +kernel⟩
    rw [hresult, hcause hoffer (by decide +kernel) hvacant]

end Sample

end Freehold
