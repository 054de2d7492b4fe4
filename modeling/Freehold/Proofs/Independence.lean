import Freehold.Proofs.Acceptance

/-!
Two players who claim or release different cells do not get in each other's way. What is decided about
such a command depends on the cell, and on the mark and the number of cells of the player, and what it
changes is his claim of that cell and his mark. So two such commands can be swapped.
-/

namespace Freehold
open Std

def Command.ownCell? : Command → Option Cell
  | claim _ cell _ | claimWithLimit _ cell _ _ | claimNext _ cell _ _ | unclaim _ cell _ => some cell
  | _ => none

/-! ### What is read -/

structure Realm.Alike (player : PlayerId) (cell : Cell) (s t : Realm) : Prop where
  config : t.config = s.config
  faults : t.storage.faults = s.storage.faults
  cached : t.cache.owner? cell = s.cache.owner? cell
  stored : t.storage.tables.claims[cell]? = s.storage.tables.claims[cell]?
  mark : t.cache.markOf player = s.cache.markOf player
  count : t.cache.countOf player = s.cache.countOf player
  elevated : t.isElevated player = s.isElevated player

namespace Realm.Alike
variable {player : PlayerId} {cell : Cell} {s t : Realm} (h : Alike player cell s t)
include h

theorem checkOffer_eq (cost : Cost) : t.checkOffer cost = s.checkOffer cost := by
  rw [checkOffer, checkOffer, h.config]

theorem quote_eq (requested : Option Tier) : t.quote player requested = s.quote player requested := by
  rw [quote, quote, h.config, h.mark]

theorem vacancy_eq : t.vacancy cell = s.vacancy cell := by
  rw [vacancy, vacancy, h.cached, h.stored, Storage.answer, Storage.answer, h.faults]

theorem checkSlot_eq (cost : Cost) :
    t.checkSlot player cell cost = s.checkSlot player cell cost := by
  rw [checkSlot, checkSlot, h.mark]

theorem checkNewcomer_eq (veteran : Option Bool) :
    t.checkNewcomer player cell veteran = s.checkNewcomer player cell veteran := by
  rw [checkNewcomer.eq_def, checkNewcomer.eq_def, h.count, h.config]

theorem claimAt_eq : t.claimAt cell = s.claimAt cell := by
  rw [claimAt, claimAt, h.cached]

theorem releaseGround_eq (claim : Claim) :
    t.releaseGround player cell claim = s.releaseGround player cell claim := by
  rw [releaseGround, releaseGround, h.elevated]

end Realm.Alike

namespace Request
open Realm
variable {a : Actor} {cell : Cell} {s t : Realm} (h : Alike a.id cell s t) (stamp : Stamp)
include h

/-- Nothing else than the cell, the mark and the number of cells is looked at for a personal
claim. -/
theorem verdict_claimPersonal_eq (cost : Cost) (veteran : Option Bool) :
    (claimPersonal a cell cost veteran stamp).verdict t =
      (claimPersonal a cell cost veteran stamp).verdict s := by
  rw [verdict_claimPersonal, verdict_claimPersonal, h.checkOffer_eq, h.vacancy_eq,
    h.checkSlot_eq, h.checkNewcomer_eq]

theorem verdict_claimNext_eq (requested : Option Tier) (veteran : Bool) :
    (claimNext a cell requested veteran stamp).verdict t =
      (claimNext a cell requested veteran stamp).verdict s := by
  rw [verdict_claimNext, verdict_claimNext, h.quote_eq]
  exact bind_congr fun cost => verdict_claimPersonal_eq h stamp cost (some veteran)

theorem verdict_unclaim_eq (reason : Option String) :
    (unclaim a cell reason stamp).verdict t = (unclaim a cell reason stamp).verdict s := by
  simp only [verdict_unclaim, h.claimAt_eq, h.releaseGround_eq, h.config]

end Request

/-- What is decided about a command on a player's own land is the same in realms that are alike to him. -/
theorem Command.verdict_eq_of_alike {c : Command} {cell : Cell} (hc : c.ownCell? = some cell)
    {s t : Realm} (h : Realm.Alike c.actor.id cell s t) (stamp : Stamp) :
    (c.request stamp).verdict t = (c.request stamp).verdict s := by
  cases c with
  | claim | claimWithLimit =>
    cases hc
    rw [request, Request.verdict_map, Request.verdict_map]
    exact congrArg (Except.map _) (Request.verdict_claimPersonal_eq h stamp _ _)
  | claimNext =>
    cases hc
    rw [request, Request.verdict_map, Request.verdict_map]
    exact congrArg (Except.map _) (Request.verdict_claimNext_eq h stamp _ _)
  | unclaim =>
    cases hc
    rw [request, Request.verdict_map, Request.verdict_map]
    exact congrArg (Except.map _) (Request.verdict_unclaim_eq h stamp _)
  | _ => cases hc

/-! ### What is changed -/

structure Effect where
  changes : List CacheChange := []
  entries : List HistoryEntry := []

def Effect.of : Except Error (Plan Answer) → Effect
  | .ok p => ⟨p.cacheChanges,Batch.entries p.batch⟩
  | .error _ => {}

structure Effect.Within (e : Effect) (s : Realm) (player : PlayerId) (cell : Cell) : Prop where
  cells : ∀ x ∈ e.changes, x.cell = cell
  before : ∀ x ∈ e.changes, ∀ claim, s.cache.owner? x.cell = some claim →
    claim.owner = .personal player
  after : ∀ x ∈ e.changes, ∀ claim, x.claim? = some claim → claim.owner = .personal player
  entries : ∀ entry ∈ e.entries, entry.cell = cell

structure Realm.Follows (s t : Realm) (e : Effect) : Prop where
  config : t.config = s.config
  faults : t.storage.faults = s.storage.faults
  elevated : t.elevated = s.elevated
  directory : t.directory = s.directory
  claims : t.storage.tables.claims =
    e.changes.foldl CacheChange.onClaims s.storage.tables.claims
  marks : t.storage.tables.marks = e.changes.foldl CacheChange.onMarks s.storage.tables.marks
  history : t.storage.tables.history = s.storage.tables.history ++ e.entries

namespace Command
variable {c : Command} {cell : Cell} {s : Realm} {stamp : Stamp} {p : Plan Answer}

namespace ComesTo

/-- A plan on own land changes that one cell, and any claim before or after it is the actor's. -/
theorem within (h : c.ComesTo stamp s p) (hs : s.InSync) (hc : c.ownCell? = some cell)
    (he : s.isElevated c.actor.id = false) :
    (Effect.of (.ok p)).Within s c.actor.id cell := by
  cases h with
  | claim may | claimWithLimit may | claimNext _ may =>
    cases hc
    refine ⟨?_, ?_, ?_, ?_⟩ <;> rintro _ (_ | ⟨_,⟨⟩⟩)
    · rfl
    · intro claim hclaim
      rw [CacheChange.cell, Claim.make, may.vacant.cached] at hclaim
      cases hclaim
    · rintro _ ⟨⟩
      rfl
    · rfl
  | unclaim found allowed =>
    cases hc
    -- Without authority over all land, a player releases only what is his.
    rcases allowed with ⟨howner,-⟩ | ⟨-,hauthority,-⟩
    · refine ⟨?_, ?_, ?_, ?_⟩ <;> rintro _ (_ | ⟨_,⟨⟩⟩)
      · rfl
      · intro claim hclaim
        obtain rfl := Option.some.inj (found.symm.trans hclaim)
        exact howner
      · intro claim hclaim
        cases hclaim
      · exact hs.cell_eq found
    · exact absurd (he.symm.trans hauthority) Bool.false_ne_true
  | _ => cases hc

theorem directoryChange_eq (h : c.ComesTo stamp s p) (hc : c.ownCell? = some cell) :
    p.directoryChange s.directory = s.directory := by
  cases h with
  | claim | claimWithLimit | claimNext | unclaim => rfl
  | _ => cases hc

end ComesTo

theorem ownCell?_found {a : Actor} {name : String} {cells : List Cell} (hc : c.ownCell? = some cell) :
    c ≠ .found a name cells := by
  rintro rfl
  cases hc

end Command

namespace Realm.Calm
variable {c : Command} {cell : Cell} {s : Realm} (h : s.Calm) (hc : c.ownCell? = some cell)
  (stamp : Stamp)
include h hc

/-- The answer and the effect of a command on own land are read off what is decided about it. -/
theorem follows :
    (c.run stamp s).result = ((c.request stamp).verdict s).map (·.answer) ∧
      s.Follows (c.run stamp s).realm (.of ((c.request stamp).verdict s)) := by
  have hsync : s.InSync := h.managed.inSync
  cases hv : (c.request stamp).verdict s with
  | error e =>
    obtain ⟨hresult, n, hrealm⟩ := hsync.run_of_verdict_error hv
    refine ⟨hresult, ?_⟩
    rw [hrealm]
    exact ⟨rfl,rfl,rfl,rfl,rfl,rfl,(List.append_nil _).symm⟩
  | ok p =>
    have hcomes : c.ComesTo stamp s p := .of_plan? (Request.plan?_eq_some_iff_verdict.mpr hv)
    obtain ⟨t, hw, hresult, n, hrealm⟩ := h.run_of_verdict_ok hv fun a name cells hfound =>
      absurd hfound (c.ownCell?_found hc)
    refine ⟨hresult, ?_⟩
    rw [hrealm]
    have hchanges : Batch.changes p.batch = (Effect.of (.ok p)).changes := hcomes.changes_batch
    have hclaims := Store.claims_writeAll hw
    have hmarks := Store.marks_writeAll hw
    rw [hchanges] at hclaims hmarks
    exact ⟨rfl,rfl,rfl,hcomes.directoryChange_eq hc,hclaims,hmarks,Store.history_writeAll hw⟩

theorem within (he : s.isElevated c.actor.id = false) :
    (Effect.of ((c.request stamp).verdict s)).Within s c.actor.id cell := by
  cases hv : (c.request stamp).verdict s with
  | error e =>
    exact ⟨List.forall_mem_nil _,List.forall_mem_nil _,List.forall_mem_nil _,List.forall_mem_nil _⟩
  | ok p =>
    have hcomes : c.ComesTo stamp s p := .of_plan? (Request.plan?_eq_some_iff_verdict.mpr hv)
    exact hcomes.within h.managed.inSync hc he

end Realm.Calm

/-! ### What another player finds afterwards -/

namespace CacheChange
variable {x : CacheChange} {player other : PlayerId}

/-- A claim of one player's does not raise the mark of another. -/
theorem getElem?_onMarks_of_ne (hx : ∀ claim, x.claim? = some claim → claim.owner = .personal player)
    (hne : player ≠ other) (marks : Marks) : (x.onMarks marks)[other]? = marks[other]? := by
  cases x with
  | upsert | remove => rfl
  | insert claim =>
    have howner : claim.owner = .personal player := hx claim rfl
    rw [onMarks, Marks.raise, Claim.freeSlot?, howner]
    cases claim.cost.freeSlot with
    | none => rfl
    | some slot => simp [ExtTreeMap.getElem?_insert, hne]

end CacheChange

namespace Effect.Within
variable {e : Effect} {s t : Realm} {player other : PlayerId} {cell : Cell}

theorem getElem?_marks (h : e.Within s player cell) (hne : player ≠ other) (marks : Marks) :
    (e.changes.foldl CacheChange.onMarks marks)[other]? = marks[other]? := by
  have hall : ∀ x ∈ e.changes, ∀ claim, x.claim? = some claim → claim.owner = .personal player :=
    h.after
  generalize e.changes = changes at hall
  induction changes generalizing marks with
  | nil => rfl
  | cons x changes ih =>
    rw [List.foldl_cons, ih _ fun y hy => hall y (List.mem_cons_of_mem _ hy)]
    exact CacheChange.getElem?_onMarks_of_ne (hall x List.mem_cons_self) hne marks

theorem getElem?_claims (h : e.Within s player cell) {k : Cell} (hne : cell ≠ k)
    (claims : ExtTreeMap Cell Claim) :
    (e.changes.foldl CacheChange.onClaims claims)[k]? = claims[k]? := by
  apply CacheChange.getElem?_foldl_onClaims_of_notMem
  intro hmem
  obtain ⟨x, hx, rfl⟩ := List.mem_map.mp hmem
  exact hne (h.cells x hx).symm

/-- The cells that another player owns are the same as before. -/
theorem cells_eq (h : e.Within s player cell) (hne : player ≠ other) (hs : s.cache.Exact)
    (ht : t.cache.Exact)
    (hclaims : t.cache.byCell = e.changes.foldl CacheChange.onClaims s.cache.byCell) :
    t.cache.byPlayer.cells other = s.cache.byPlayer.cells other := by
  apply ExtTreeSet.ext_mem
  intro k
  rw [ht.players.exact, hs.players.exact, hclaims]
  by_cases hk : k ∈ e.changes.map CacheChange.cell
  · -- Neither before nor after is this cell one of his.
    obtain ⟨x, hx, rfl⟩ := List.mem_map.mp hk
    constructor
    · rintro ⟨claim, hclaim, hother⟩
      rcases CacheChange.eq_some_of_foldl_onClaims hclaim with ⟨y,hy,hnew⟩ | ⟨hn,-⟩
      · rw [h.after y hy claim hnew] at hother
        exact absurd (Option.some.inj hother) hne
      · exact absurd hk hn
    · rintro ⟨claim, hclaim, hother⟩
      rw [h.before x hx claim hclaim] at hother
      exact absurd (Option.some.inj hother) hne
  · rw [CacheChange.getElem?_foldl_onClaims_of_notMem _ hk]

end Effect.Within

/-- After a player's command on one cell, another player finds another cell as it was, and his own mark
and number of cells. -/
theorem Realm.Follows.alike {e : Effect} {s t : Realm} {player other : PlayerId} {cell k : Cell}
    (h : s.Follows t e) (hw : e.Within s player cell) (hs : Managed s) (ht : Managed t)
    (hplayer : player ≠ other) (hcell : cell ≠ k) : Alike other k s t := by
  have hstored : t.storage.tables.claims[k]? = s.storage.tables.claims[k]? := by
    rw [h.claims, hw.getElem?_claims hcell]
  have hland : t.cache.byCell = e.changes.foldl CacheChange.onClaims s.cache.byCell := by
    rw [ht.inSync.claims, hs.inSync.claims, h.claims]
  refine ⟨h.config,h.faults, ?_,hstored, ?_, ?_, ?_⟩
  · rw [Cache.owner?, Cache.owner?, ht.inSync.claims, hs.inSync.claims, hstored]
  · rw [Cache.markOf, Cache.markOf, ht.inSync.marks, hs.inSync.marks, h.marks, Marks.of, Marks.of,
      hw.getElem?_marks hplayer]
  · rw [Cache.countOf, Cache.countOf, hw.cells_eq hplayer hs.exact ht.exact hland]
  · rw [isElevated, isElevated, h.elevated]

/-! ### Two commands in either order -/

section Swap
variable {α β : Type} {f : β → α → β} {xs ys : List α}

theorem foldl_apply_comm {x : α} (h : ∀ y ∈ ys, ∀ b, f (f b x) y = f (f b y) x) (b : β) :
    ys.foldl f (f b x) = f (ys.foldl f b) x := by
  induction ys generalizing b with
  | nil => rfl
  | cons y ys ih =>
    rw [List.foldl_cons, h y List.mem_cons_self, List.foldl_cons]
    exact ih (fun z hz => h z (List.mem_cons_of_mem _ hz)) _

/-- Steps that can be swapped one by one can be swapped all at once. -/
theorem foldl_foldl_comm (h : ∀ x ∈ xs, ∀ y ∈ ys, ∀ b, f (f b x) y = f (f b y) x) (b : β) :
    ys.foldl f (xs.foldl f b) = xs.foldl f (ys.foldl f b) := by
  induction xs generalizing b with
  | nil => rfl
  | cons x xs ih =>
    rw [List.foldl_cons, ih (fun z hz => h z (List.mem_cons_of_mem _ hz)), List.foldl_cons,
      foldl_apply_comm (h x List.mem_cons_self)]

end Swap

namespace CacheChange
variable {x y : CacheChange} {player other : PlayerId}

/-- Changes to two cells can be made in either order. -/
theorem onClaims_comm (hne : x.cell ≠ y.cell) (claims : ExtTreeMap Cell Claim) :
    y.onClaims (x.onClaims claims) = x.onClaims (y.onClaims claims) := by
  apply ExtTreeMap.ext_getElem?
  intro k
  simp only [getElem?_onClaims]
  by_cases hx : x.cell = k
  · rw [if_pos hx, if_pos hx, if_neg fun hy => hne (hx.trans hy.symm)]
  · rw [if_neg hx, if_neg hx]

/-- What a change makes of a mark depends on this mark only. -/
theorem getElem?_onMarks_congr {marks marks' : Marks} (h : marks[player]? = marks'[player]?) :
    (x.onMarks marks)[player]? = (x.onMarks marks')[player]? := by
  cases x with
  | upsert | remove => exact h
  | insert claim =>
    rw [onMarks, onMarks, Marks.raise, Marks.raise]
    cases claim.freeSlot? with
    | none => exact h
    | some use =>
      by_cases hu : use.1 = player
      · simp [Marks.of, hu, h]
      · simp [ExtTreeMap.getElem?_insert, hu, h]

theorem onMarks_comm (hx : ∀ claim, x.claim? = some claim → claim.owner = .personal player)
    (hy : ∀ claim, y.claim? = some claim → claim.owner = .personal other) (hne : player ≠ other)
    (marks : Marks) : y.onMarks (x.onMarks marks) = x.onMarks (y.onMarks marks) := by
  apply ExtTreeMap.ext_getElem?
  intro k
  by_cases hk : player = k
  · -- This mark is touched by the first change only.
    subst hk
    rw [getElem?_onMarks_of_ne hy hne.symm]
    exact getElem?_onMarks_congr (getElem?_onMarks_of_ne hy hne.symm marks).symm
  · rw [getElem?_onMarks_of_ne hx hk]
    exact getElem?_onMarks_congr (getElem?_onMarks_of_ne hx hk marks)

end CacheChange

/-- Entries about two cells are told apart by their cell, whichever come first. -/
theorem filter_append_comm {xs ys : List HistoryEntry} {c d : Cell} (hx : ∀ e ∈ xs, e.cell = c)
    (hy : ∀ e ∈ ys, e.cell = d) (hne : c ≠ d) (k : Cell) :
    (xs ++ ys).filter (fun e => e.cell = k) = (ys ++ xs).filter (fun e => e.cell = k) := by
  have hnone (zs : List HistoryEntry) (z : Cell) (hz : ∀ e ∈ zs, e.cell = z) (hk : z ≠ k) :
      zs.filter (fun e => e.cell = k) = [] := by
    rw [List.filter_eq_nil_iff]
    intro e he
    rw [hz e he]
    simpa using hk
  rw [List.filter_append, List.filter_append]
  by_cases hk : c = k
  · rw [hnone ys d hy fun hd => hne (hk.trans hd.symm), List.append_nil, List.nil_append]
  · rw [hnone xs c hx hk, List.append_nil, List.nil_append]

/-- Two players' effects on two cells end with the same tables and the same directory in either order. -/
theorem Realm.Follows.swap {s left right t u : Realm} {e e' : Effect} {player other : PlayerId}
    {c d : Cell} (hleft : s.Follows left e) (ht : left.Follows t e') (hright : s.Follows right e')
    (hu : right.Follows u e) (he : e.Within s player c) (he' : e'.Within s other d)
    (hplayers : player ≠ other) (hcells : c ≠ d) :
    t.storage.tables.claims = u.storage.tables.claims ∧
    t.storage.tables.marks = u.storage.tables.marks ∧ t.directory = u.directory ∧
    ∀ cell, t.storage.tables.historyOf cell = u.storage.tables.historyOf cell := by
  refine ⟨?_, ?_, ?_, ?_⟩
  · -- The changes of claims commute because the cells differ, those of marks because the players do.
    rw [ht.claims, hleft.claims, hu.claims, hright.claims]
    refine foldl_foldl_comm ?_ _
    intro x hx y hy claims
    exact CacheChange.onClaims_comm (by rw [he.cells x hx, he'.cells y hy]; exact hcells) claims
  · rw [ht.marks, hleft.marks, hu.marks, hright.marks]
    refine foldl_foldl_comm ?_ _
    intro x hx y hy marks
    exact CacheChange.onMarks_comm (he.after x hx) (he'.after y hy) hplayers marks
  · rw [ht.directory, hleft.directory, hu.directory, hright.directory]
  · intro cell
    have hentries := filter_append_comm he.entries he'.entries hcells cell
    rw [Store.historyOf, Store.historyOf, ht.history, hleft.history, hu.history, hright.history,
      List.append_assoc, List.append_assoc, List.filter_append, hentries, ← List.filter_append]

/-- In a state that a server comes to with no failure arranged, two players without authority over all
land claim or release two different cells. Each is answered the same whether he comes first or second,
and both orders end with the same claims, marks, cache and directory, and with the same audit trail of
each cell. -/
theorem Managed.independent_commute {s : Realm} (h : Managed s) (hf : s.storage.faults = {})
    {f g : Command} {c d : Cell} (hc : f.ownCell? = some c) (hd : g.ownCell? = some d)
    (hplayers : f.actor.id ≠ g.actor.id) (hcells : c ≠ d)
    (hfe : s.isElevated f.actor.id = false) (hge : s.isElevated g.actor.id = false)
    (now later : Stamp) :
    let f₁ := f.run now s
    let fg := g.run later f₁.realm
    let g₁ := g.run later s
    let gf := f.run now g₁.realm
    gf.result = f₁.result ∧ fg.result = g₁.result ∧
    fg.realm.storage.tables.claims = gf.realm.storage.tables.claims ∧
    fg.realm.storage.tables.marks = gf.realm.storage.tables.marks ∧
    fg.realm.cache = gf.realm.cache ∧
    fg.realm.directory = gf.realm.directory ∧
    ∀ cell, fg.realm.storage.tables.historyOf cell = gf.realm.storage.tables.historyOf cell := by
  intro f₁ fg g₁ gf
  have hs : s.Calm := ⟨h,hf⟩
  have hf₁ : f₁.realm.Calm := hs.run f now
  have hg₁ : g₁.realm.Calm := hs.run g later
  let ef : Effect := .of ((f.request now).verdict s)
  let eg : Effect := .of ((g.request later).verdict s)
  have hef : ef.Within s f.actor.id c := hs.within hc now hfe
  have heg : eg.Within s g.actor.id d := hs.within hd later hge
  obtain ⟨hfresult, hffirst⟩ := hs.follows hc now
  obtain ⟨hgresult, hgfirst⟩ := hs.follows hd later
  -- Neither command sees that the other one came first.
  have hgalike := hffirst.alike hef h hf₁.managed hplayers hcells
  have hfalike := hgfirst.alike heg h hg₁.managed hplayers.symm hcells.symm
  obtain ⟨hgresult', hgsecond⟩ := hf₁.follows hd later
  obtain ⟨hfresult', hfsecond⟩ := hg₁.follows hc now
  rw [g.verdict_eq_of_alike hd hgalike later] at hgresult' hgsecond
  rw [f.verdict_eq_of_alike hc hfalike now] at hfresult' hfsecond
  obtain ⟨hclaims, hmarks, hdirectory, hhistory⟩ :=
    hffirst.swap hgsecond hgfirst hfsecond hef heg hplayers hcells
  have hfg : Managed fg.realm := (hf₁.run g later).managed
  have hgf : Managed gf.realm := (hg₁.run f now).managed
  have hcache : fg.realm.cache = gf.realm.cache := by
    refine hfg.exact.eq hgf.exact ?_ ?_
    · rw [hfg.inSync.claims, hgf.inSync.claims, hclaims]
    · rw [hfg.inSync.marks, hgf.inSync.marks, hmarks]
  exact ⟨hfresult'.trans hfresult.symm,hgresult'.trans hgresult.symm,hclaims,hmarks,hcache,hdirectory,
    hhistory⟩

namespace Sample

def leaving : Command := .unclaim ben (road 5) none

def arriving : Command := .claimNext cay (road 7) none true

/-- Ben gives a cell back, and Cay claims another one at the cost that she is quoted. -/
theorem hamlet_independent_commute :
    Managed hamlet ∧ hamlet.storage.faults = {} ∧
    leaving.ownCell? = some (road 5) ∧ arriving.ownCell? = some (road 7) ∧
    leaving.actor.id ≠ arriving.actor.id ∧ road 5 ≠ road 7 ∧
    hamlet.isElevated leaving.actor.id = false ∧ hamlet.isElevated arriving.actor.id = false ∧
    (leaving.run (stamp 9) hamlet).result.toOption.isSome = true ∧
    (arriving.run (stamp 10) hamlet).result.toOption.isSome = true ∧
    (leaving.run (stamp 9) (arriving.run (stamp 10) hamlet).realm).result =
      (leaving.run (stamp 9) hamlet).result ∧
    (arriving.run (stamp 10) (leaving.run (stamp 9) hamlet).realm).result =
      (arriving.run (stamp 10) hamlet).result ∧
    (arriving.run (stamp 10) (leaving.run (stamp 9) hamlet).realm).realm.cache =
      (leaving.run (stamp 9) (arriving.run (stamp 10) hamlet).realm).realm.cache := by
  have hf : hamlet.storage.faults = {} := by decide +kernel
  have hplayers : leaving.actor.id ≠ arriving.actor.id := by decide
  have hcells : road 5 ≠ road 7 := by decide
  have hben : hamlet.isElevated leaving.actor.id = false := by decide +kernel
  have hcay : hamlet.isElevated arriving.actor.id = false := by decide +kernel
  obtain ⟨hleaving, harriving, -, -, hcache, -⟩ :=
    managed_hamlet.independent_commute hf (f := leaving) (g := arriving) rfl rfl hplayers hcells
      hben hcay (stamp 9) (stamp 10)
  exact ⟨managed_hamlet,hf,rfl,rfl,hplayers,hcells,hben,hcay,by decide +kernel,by decide +kernel,
    hleaving,harriving,hcache⟩

end Sample

end Freehold
