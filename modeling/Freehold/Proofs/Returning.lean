import Freehold.Proofs.Founding
import Freehold.Proofs.Gate

/-!
Giving village land back, exactly. All of the listed cells go or none does. It takes a member who may
reduce the land of his village, and cells that are all its own. If some are not, the smallest of those
is the one that is told, and how it is told depends on whether somebody owns it.
-/

namespace Freehold
open Std

/-- A member may do something in his village, as its mayor or because it was granted to him. -/
def Store.Empowers (t : Store) (key : MemberKey) (c : Capability) : Prop :=
  ∃ m, t.memberships[key]? = some m ∧
    (m.role = .mayor ∨ (⟨key,c⟩ : PermissionKey) ∈ t.permissions)

namespace Realm

structure MayReturn (s : Realm) (actor : PlayerId) (cells : List Cell) (village : VillageId) :
    Prop where
  given : cells ≠ []
  right : s.storage.tables.Empowers ⟨village,actor⟩ .reduceLand
  own : ∀ cell ∈ cells, s.storage.tables.ownerOf cell = some (.village village)

structure FirstOutside (s : Realm) (village : VillageId) (cells : List Cell) (cell : Cell) :
    Prop where
  listed : cell ∈ cells
  outside : s.storage.tables.ownerOf cell ≠ some (.village village)
  least : ∀ other ∈ cells, s.storage.tables.ownerOf other ≠ some (.village village) →
    compare other cell ≠ .lt

inductive RefusesReturn (s : Realm) (actor : PlayerId) (cells : List Cell) : Error → Prop where
  -- What is missing first is told, cells in ascending order.
  | noCells (none : cells = []) : RefusesReturn s actor cells (.missing "cells")
  | homeless (given : cells ≠ []) (homeless : ¬s.storage.tables.Houses actor) :
    RefusesReturn s actor cells (.unauthorized "not a member of any village")
  | powerless {village : VillageId} (given : cells ≠ [])
    (member : (⟨village,actor⟩ : MemberKey) ∈ s.storage.tables.memberships)
    (powerless : ¬s.storage.tables.Empowers ⟨village,actor⟩ .reduceLand) :
    RefusesReturn s actor cells (.unauthorized "REDUCE_LAND required")
  | unclaimed {village : VillageId} {cell : Cell}
    (right : s.storage.tables.Empowers ⟨village,actor⟩ .reduceLand)
    (first : s.FirstOutside village cells cell)
    (unclaimed : s.storage.tables.ownerOf cell = none) :
    RefusesReturn s actor cells (.notFound ("claim at " ++ cell.text))
  | foreign {village : VillageId} {cell : Cell} {owner : Owner}
    (right : s.storage.tables.Empowers ⟨village,actor⟩ .reduceLand)
    (first : s.FirstOutside village cells cell)
    (owned : s.storage.tables.ownerOf cell = some owner) :
    RefusesReturn s actor cells (.unauthorized (cell.text ++ " is not land of this village"))

structure Records (s : Realm) (cells : List Cell) (claims : List Claim) : Prop where
  ascending : Cell.Ascending (claims.map (·.cell))
  listed : ∀ cell, cell ∈ claims.map (·.cell) ↔ cell ∈ cells
  stored : ∀ claim ∈ claims, s.storage.tables.claims[claim.cell]? = some claim

structure Returns (s t : Realm) (actor : PlayerId) (cells : List Cell) (claims : List Claim)
    (reason : Option String) (stamp : Stamp) : Prop where
  gone : ∀ cell ∈ cells, t.storage.tables.claims[cell]? = none
  kept : ∀ cell, cell ∉ cells → t.storage.tables.claims[cell]? = s.storage.tables.claims[cell]?
  history : t.storage.tables.history = s.storage.tables.history ++ claims.map fun c =>
    ⟨stamp.entry c.cell,c.cell,some c.owner,none,actor,.unclaimed,reason,stamp.now⟩
  marks : t.storage.tables.marks = s.storage.tables.marks
  villages : t.storage.tables.villages = s.storage.tables.villages
  memberships : t.storage.tables.memberships = s.storage.tables.memberships
  permissions : t.storage.tables.permissions = s.storage.tables.permissions
  cached : t.cache.byCell = t.storage.tables.claims
  indexed : t.cache.Exact
  cachedMarks : t.cache.marks = s.cache.marks
  directory : t.directory = s.directory
  config : t.config = s.config
  trusted : t.trusted = s.trusted
  elevated : t.elevated = s.elevated

namespace Orderly
variable {s : Realm} (h : s.Orderly) {key : MemberKey} {c : Capability}
include h

theorem hasCapability_iff_empowers :
    s.directory.hasCapability key c = true ↔ s.storage.tables.Empowers key c := by
  refine h.hasCapability_iff.trans (exists_congr fun m => and_congr_right fun hm => ?_)
  rw [← h.mirrors.members] at hm
  exact and_iff_right (h.sound.seated.seat key m hm).1

/-- The village of a member is listed, and is the one that his home index leads to. -/
theorem home_of_mem (hm : key ∈ s.storage.tables.memberships) :
    s.directory.villageOf[key.member]? = some key.village ∧
      ∃ v, s.directory.villages[key.village]? = some v := by
  rw [← h.mirrors.members] at hm
  obtain ⟨m, hrow⟩ := mem_iff_exists_getElem?_eq_some.mp hm
  refine ⟨(h.sound.housed key.member key.village).mpr hm, ?_⟩
  exact mem_iff_exists_getElem?_eq_some.mp (h.sound.seated.seat key m hrow).2

end Orderly

variable {s : Realm} {actor : PlayerId} {village : VillageId} {cells : List Cell} {cell : Cell}
  {claims : List Claim} {claim : Claim} {stamp : Stamp}

/-! ### The verdict on a return -/

/-- What is wrong after cells of the village is what is told. -/
theorem InSync.villageClaims_append (h : s.InSync) {before rest : List Cell} {r : Refusal}
    (hown : ∀ c ∈ before, s.storage.tables.ownerOf c = some (.village village))
    (hrest : s.villageClaims village rest = .error r) :
    s.villageClaims village (before ++ rest) = .error r := by
  induction before with
  | nil => exact hrest
  | cons first before ih =>
    obtain ⟨claim, hfound, howner⟩ := h.ownerOf_eq_some_iff.mp (hown first List.mem_cons_self)
    have htail := ih fun c hm => hown c (List.mem_cons_of_mem _ hm)
    rw [List.cons_append, villageClaims, hfound]
    simp only [if_pos howner, htail]
    rfl

/-- The first cell outside the village is the one that is told. -/
theorem FirstOutside.villageClaims_eq (hf : s.FirstOutside village cells cell) (h : s.InSync) :
    s.villageClaims village (Cell.sorted cells) =
      match s.storage.tables.ownerOf cell with
      | some _ => .error ⟨.unauthorized (cell.text ++ " is not land of this village"),none⟩
      | none => .error ⟨.notFound ("claim at " ++ cell.text),none⟩ := by
  obtain ⟨before, after, hsplit, hown⟩ := (Cell.Ascending.sorted cells).exists_split
    (Cell.mem_sorted.mpr hf.listed) fun other ho => hf.least other (Cell.mem_sorted.mp ho)
  have hbefore (c : Cell) (hc : c ∈ before) : s.storage.tables.ownerOf c = some (.village village) :=
    Classical.not_not.mp (hown c hc)
  rw [hsplit]
  have houtside := hf.outside
  cases hfound : s.cache.owner? cell with
  | none =>
    have hnone : s.storage.tables.ownerOf cell = none := by
      rw [Store.ownerOf, ← h.claims]
      exact congrArg _ hfound
    rw [hnone]
    exact h.villageClaims_append hbefore (by rw [villageClaims, hfound])
  | some claim =>
    have howner : s.storage.tables.ownerOf cell = some claim.owner := h.ownerOf_eq hfound
    have hne : claim.owner ≠ .village village := by
      rw [howner] at houtside
      exact fun he => houtside (congrArg some he)
    rw [howner]
    exact h.villageClaims_append hbefore (by rw [villageClaims, hfound]; exact if_neg hne)

end Realm

theorem Directory.answered_villageFor_of_powerless {d : Directory} {village : VillageId} {v : Village}
    {actor : PlayerId} {c : Capability} (hv : d.villages[village]? = some v)
    (hc : ¬d.hasCapability ⟨village,actor⟩ c = true) :
    Request.answered (d.villageFor village actor c) =
      .error (.unauthorized (Vocabulary.code c ++ " required")) := by
  rw [villageFor, activeVillage_eq_ok_iff.mpr hv, requireCapability, if_neg hc]
  rfl

namespace Request
variable {s : Realm}

/-- The checks of a return, in their order. -/
theorem verdict_returnCells (a : Actor) {cells : List Cell} (given : cells ≠ [])
    (reason : Option String) (stamp : Stamp) :
    (returnCells a cells reason stamp).verdict s = (do
      let village ← answered (s.directory.ownVillage a.id)
      let _ ← answered (s.directory.villageFor village a.id .reduceLand)
      let claims ← answered (s.villageClaims village (Cell.sorted cells))
      return .returnCells a.id village claims reason stamp) := by
  simp only [returnCells, if_neg given, verdict_look, verdict_require, verdict_lock,
    verdict_lockCells, verdict_commit]
  rfl

/-- A return asks for no cell that might be vacant. -/
theorem not_asksFor_returnCells (a : Actor) (cells : List Cell) (reason : Option String)
    (stamp : Stamp) (cell : Cell) : ¬(returnCells a cells reason stamp).AsksFor cell s := by
  by_cases hc : cells = []
  · simp [returnCells, hc]
  · simp [returnCells, hc]

end Request

namespace Realm
variable {s : Realm} {a : Actor} {village : VillageId} {cells : List Cell} {claims : List Claim}
  {reason : Option String} {stamp : Stamp}

theorem Orderly.villageFor_of_empowers (h : s.Orderly) {player : PlayerId} {c : Capability}
    (hr : s.storage.tables.Empowers ⟨village,player⟩ c) :
    s.directory.villageOf[player]? = some village ∧
      ∃ v, s.directory.villageFor village player c = .ok v := by
  obtain ⟨m, hm, -⟩ := id hr
  obtain ⟨hhome, v, hv⟩ := h.home_of_mem (mem_of_getElem?_eq_some hm)
  refine ⟨hhome,v, ?_⟩
  exact Directory.villageFor_eq_ok_iff.mpr ⟨hv,h.hasCapability_iff_empowers.mpr hr⟩

/-- A member with the right to it comes as far as the listed cells. -/
theorem Orderly.verdict_returnCells (h : s.Orderly) (given : cells ≠ [])
    (right : s.storage.tables.Empowers ⟨village,a.id⟩ .reduceLand) :
    (Request.returnCells a cells reason stamp).verdict s = (do
      let claims ← Request.answered (s.villageClaims village (Cell.sorted cells))
      return .returnCells a.id village claims reason stamp) := by
  obtain ⟨hhome, v, hfor⟩ := h.villageFor_of_empowers right
  rw [Request.verdict_returnCells a given, Directory.ownVillage_eq_ok_iff.mpr hhome]
  change Request.answered (s.directory.villageFor village a.id .reduceLand) >>= _ = _
  rw [hfor]
  rfl

/-- With all that it takes, a return comes to its plan. -/
theorem MayReturn.verdict (hm : s.MayReturn a.id cells village) (h : s.Orderly) :
    ∃ claims, s.Owns (.village village) (Cell.sorted cells) claims ∧
      (Request.returnCells a cells reason stamp).verdict s =
        .ok (.returnCells a.id village claims reason stamp) := by
  obtain ⟨claims, hclaims⟩ := h.sync.exists_owns_iff.mpr fun cell hc =>
    hm.own cell (Cell.mem_sorted.mp hc)
  refine ⟨claims,hclaims, ?_⟩
  rw [h.verdict_returnCells hm.given hm.right, villageClaims_eq_ok_iff.mpr hclaims]
  rfl

/-- What a player is told is the verdict on his return. -/
theorem RefusesReturn.verdict {e : Error} (hr : s.RefusesReturn a.id cells e) (h : s.Orderly) :
    (Request.returnCells a cells reason stamp).verdict s = .error e := by
  cases hr with
  | noCells none =>
    rw [Request.returnCells, if_pos none]
    rfl
  | homeless given homeless =>
    have hhome : s.directory.villageOf[a.id]? = none :=
      ExtTreeMap.getElem?_eq_none fun hm => homeless (h.mem_villageOf_iff.mp hm)
    rw [Request.verdict_returnCells a given, Directory.ownVillage, hhome]
    rfl
  | @powerless village given member powerless =>
    obtain ⟨hhome, v, hv⟩ := h.home_of_mem member
    have hno : ¬s.directory.hasCapability ⟨village,a.id⟩ .reduceLand = true := fun hc =>
      powerless (h.hasCapability_iff_empowers.mp hc)
    rw [Request.verdict_returnCells a given, Directory.ownVillage_eq_ok_iff.mpr hhome]
    change Request.answered (s.directory.villageFor village a.id .reduceLand) >>= _ = _
    rw [Directory.answered_villageFor_of_powerless hv hno]
    rfl
  | unclaimed right first unclaimed =>
    rw [h.verdict_returnCells (List.ne_nil_of_mem first.listed) right,
      first.villageClaims_eq h.sync, unclaimed]
    rfl
  | foreign right first owned =>
    rw [h.verdict_returnCells (List.ne_nil_of_mem first.listed) right,
      first.villageClaims_eq h.sync, owned]
    rfl

/-- A player has all that it takes to give land back, or he lacks something. -/
theorem mayReturn_or_refuses (s : Realm) (actor : PlayerId) (cells : List Cell) :
    (∃ village, s.MayReturn actor cells village) ∨ ∃ e, s.RefusesReturn actor cells e := by
  by_cases hcells : cells = []
  · exact .inr ⟨_,.noCells hcells⟩
  by_cases hhoused : s.storage.tables.Houses actor
  · obtain ⟨village, hmember⟩ := hhoused
    by_cases hright : s.storage.tables.Empowers ⟨village,actor⟩ .reduceLand
    · by_cases hown : ∀ cell ∈ cells, s.storage.tables.ownerOf cell = some (.village village)
      · exact .inl ⟨village,hcells,hright,hown⟩
      · push Not at hown
        obtain ⟨cell, hc, houtside, hleast⟩ := exists_least_foreign s _ hown
        have hfirst : s.FirstOutside village cells cell := ⟨hc,houtside,hleast⟩
        cases howner : s.storage.tables.ownerOf cell with
        | none => exact .inr ⟨_,.unclaimed hright hfirst howner⟩
        | some owner => exact .inr ⟨_,.foreign hright hfirst howner⟩
    · exact .inr ⟨_,.powerless hcells hmember hright⟩
  · exact .inr ⟨_,.homeless hcells hhoused⟩

/-! ### What a return makes of the realm -/

/-- The claims that were found for listed cells are their records. -/
theorem Owns.records {owner : Owner} (ho : s.Owns owner (Cell.sorted cells) claims)
    (h : s.InSync) : s.Records cells claims := by
  have hcells := ho.map_cell h
  refine ⟨hcells ▸ Cell.Ascending.sorted cells,fun cell => ?_,fun claim hc => ?_⟩
  · rw [hcells, Cell.mem_sorted]
  · rw [← h.claims]
    exact (ho.owned h claim hc).1

/-- A return whose plan the store took. -/
theorem Records.returns_of_done (hr : s.Records cells claims) (h : Managed s)
    (hd : ((Command.returnCells a cells reason).request stamp).Done s
      ((Plan.returnCells a.id village claims reason stamp).map .claims)) :
    s.Returns ((Command.returnCells a cells reason).run stamp s).realm a.id cells claims reason
      stamp := by
  let t := ((Command.returnCells a cells reason).run stamp s).realm
  have hmanaged : Managed t := h.run (.command (.returnCells a cells reason)) stamp
  have hw : s.storage.tables.writeAll (Plan.returnCells a.id village claims reason stamp).batch =
      .ok t.storage.tables := hd.written
  let removals : List CacheChange := claims.map fun c => .remove c.cell
  have hchanges : Batch.changes (Plan.returnCells a.id village claims reason stamp).batch =
      removals := Plan.changes_returnCells
  have hcells : removals.map CacheChange.cell = claims.map (·.cell) := List.map_map
  have hfiled : s.storage.tables.Filed t.storage.tables _ := Store.filed_of_writeAll hw
  rw [Plan.filings_returnCells] at hfiled
  have hmarks : t.storage.tables.marks = s.storage.tables.marks := by
    rw [Store.marks_writeAll hw]
    apply CacheChange.foldl_onMarks_eq_self
    rw [hchanges, List.forall_mem_map]
    exact fun _ _ _ => rfl
  constructor
  case gone =>
    intro cell hc
    obtain ⟨claim, hm, rfl⟩ := List.mem_map.mp ((hr.listed cell).mpr hc)
    have hremoval : CacheChange.remove claim.cell ∈ removals := List.mem_map.mpr ⟨claim,hm,rfl⟩
    rw [Store.claims_writeAll hw, hchanges]
    exact CacheChange.getElem?_foldl_onClaims_of_mem _ (hcells ▸ hr.ascending.nodup) hremoval _
  case kept =>
    intro cell hc
    rw [Store.claims_writeAll hw, hchanges]
    apply CacheChange.getElem?_foldl_onClaims_of_notMem
    rw [hcells]
    exact fun hm => hc ((hr.listed cell).mp hm)
  case history =>
    rw [Store.history_writeAll hw, Plan.entries_returnCells]
    rfl
  case marks => exact hmarks
  case villages => exact hfiled.villages
  case memberships => exact hfiled.memberships
  case permissions => exact hfiled.permissions
  case cached => exact hmanaged.inSync.claims
  case indexed => exact hmanaged.exact
  case cachedMarks => rw [hmanaged.inSync.marks, hmarks, h.inSync.marks]
  case directory => exact hd.directory
  case config => exact hd.config
  case trusted => exact hd.trusted
  case elevated => exact hd.elevated

end Realm

/-- In every state that a server comes to, and with a store that takes the batch, cells are given back
just when some are listed, the player is a member of a village with the right to reduce its land, and
all of them are its own. Then he gets the records of the distinct cells in ascending order, just these
cells are free, each has one more entry in the audit trail with his reason, and nothing else changes.
Else nothing changes at all, and among cells that are not the village's the smallest one is told: as
missing if it is unclaimed, as not his to give if somebody owns it. -/
theorem Managed.returning_exact {s : Realm} (h : Managed s) {a : Actor} {cells : List Cell}
    {reason : Option String} {stamp : Stamp}
    (accepted : (Command.returnCells a cells reason).Accepted stamp s) :
    let after := (Command.returnCells a cells reason).run stamp s
    ((∃ answer, after.result = .ok answer) ↔ ∃ village, s.MayReturn a.id cells village) ∧
    (∀ answer, after.result = .ok answer → ∃ claims, answer = .claims claims ∧
      s.Records cells claims ∧ s.Returns after.realm a.id cells claims reason stamp) ∧
    (∀ e, after.result = .error e ↔ s.RefusesReturn a.id cells e) ∧
    ∀ e, after.result = .error e → after.realm = s := by
  intro after
  have hverdict : ((Command.returnCells a cells reason).request stamp).verdict s =
      ((Request.returnCells a cells reason stamp).verdict s).map (.map .claims) :=
    Request.verdict_map _ _
  have hreturns (hm : ∃ village, s.MayReturn a.id cells village) :
      ∃ answer, after.result = .ok answer ∧ ∃ claims, answer = .claims claims ∧
        s.Records cells claims ∧ s.Returns after.realm a.id cells claims reason stamp := by
    obtain ⟨village, hm⟩ := hm
    obtain ⟨claims, ho, hv⟩ := hm.verdict h.orderly
    rw [hv] at hverdict
    have hd := accepted.done (Request.plan?_eq_some_iff_verdict.mpr hverdict)
    have hrecords := ho.records h.inSync
    exact ⟨_,hd.result,claims,rfl,hrecords,hrecords.returns_of_done h hd⟩
  have hrefuses (e : Error) (hr : s.RefusesReturn a.id cells e) :
      after.result = .error e ∧ after.realm = s := by
    rw [hr.verdict h.orderly] at hverdict
    refine ⟨Request.result_run_of_verdict_error hverdict,
      Request.realm_run_of_verdict_error (fun cell => ?_) hverdict⟩
    rw [Command.request, Request.asksFor_map]
    exact Request.not_asksFor_returnCells a cells reason stamp cell
  obtain ⟨hmay, hreturned, herror⟩ := Except.decided_well (s.mayReturn_or_refuses a.id cells)
    hreturns fun e hr => (hrefuses e hr).1
  exact ⟨hmay,hreturned,herror,fun e he => (hrefuses e ((herror e).mp he)).2⟩

namespace Sample

def commons : Realm :=
  ({ config := {} } : Realm).start.realm.runAll
    [(.command (.claim ann (road 0) (.free 1)),stamp 1),
      (.command (.claim ann (road 1) (.free 2)),stamp 2),
      (.command (.claim ann (road 2) (.free 3)),stamp 3),
      (.command (.claim ben (road 3) (.free 1)),stamp 4),
      (.command (.found ann "Oakham" [road 2,road 0,road 1]),stamp 5),
      (.command (.addMember ann ⟨.ofNat 5⟩ ben),stamp 6),
      (.command (.addMember ann ⟨.ofNat 5⟩ cay),stamp 7),
      (.command (.grant ann ⟨.ofNat 5⟩ ben.id .reduceLand),stamp 8)]

/-- Ben may reduce the land of the village that he is in with Ann and Cay. Next to the three cells
of it he has one for himself. -/
theorem calm_commons : commons.Calm := ⟨(Managed.start rfl rfl).runAll _,by decide +kernel⟩

/-- Ben gives two cells back, one of which he lists twice. With a free cell and his own on the list he
is told of his own, which comes first, and with the free one alone of that. Cay has no right to it. -/
theorem commons_returning_exact :
    Managed commons ∧
    (∀ a cells, (Command.returnCells a cells (some "left")).Accepted (stamp 9) commons) ∧
    (∃ claims, commons.Records [road 2,road 1,road 2] claims ∧
      commons.Returns ((Command.returnCells ben [road 2,road 1,road 2] (some "left")).run (stamp 9)
        commons).realm ben.id [road 2,road 1,road 2] claims (some "left") (stamp 9)) ∧
    commons.RefusesReturn ben.id [road 1,road 7,road 3]
      (.unauthorized ((road 3).text ++ " is not land of this village")) ∧
    commons.RefusesReturn ben.id [road 7,road 1] (.notFound ("claim at " ++ (road 7).text)) ∧
    commons.RefusesReturn cay.id [road 1] (.unauthorized "REDUCE_LAND required") := by
  have haccepted (a : Actor) (cells : List Cell) :
      (Command.returnCells a cells (some "left")).Accepted (stamp 9) commons :=
    calm_commons.accepted nofun
  have hreturning (a : Actor) (cells : List Cell) :=
    calm_commons.managed.returning_exact (haccepted a cells)
  have hmay : commons.MayReturn ben.id [road 2,road 1,road 2] ⟨.ofNat 5⟩ := {
    given := nofun
    right := calm_commons.managed.orderly.hasCapability_iff_empowers.mp (by decide +kernel)
    own := by decide +kernel }
  obtain ⟨answer, hanswer⟩ := (hreturning ben [road 2,road 1,road 2]).1.mpr ⟨_,hmay⟩
  obtain ⟨claims, -, hrecords, hreturns⟩ := (hreturning ben _).2.1 answer hanswer
  exact ⟨calm_commons.managed,haccepted,⟨claims,hrecords,hreturns⟩,
    ((hreturning ben _).2.2.1 _).mp (by decide +kernel),
    ((hreturning ben _).2.2.1 _).mp (by decide +kernel),
    ((hreturning cay _).2.2.1 _).mp (by decide +kernel)⟩

end Sample

end Freehold
