import Freehold.Proofs.FreeSlots
import Freehold.Proofs.VillageLand

/-!
The life of a claim. Land that passes on is written anew as a whole, and so is land whose village
gets another name. From the claim to the release of a cell, what was paid for it and when it was
claimed stay the same all along. As long as the owner stays, too, nothing changes but the name that
is shown.
-/

namespace Freehold
open Std

/-- The name that an answer gives to the land of an owner, if it does. -/
def newName? (owner : Owner) : Operation × Except Error Answer → Option String
  | (.command (.rename _ village name),.ok _) =>
    if owner = .village village then some name else none
  | _ => none

theorem newName?_of_not_granted {x : Operation × Except Error Answer} {owner : Owner}
    (h : ∀ c answer, x ≠ (.command c,.ok answer)) : newName? owner x = none := by
  unfold newName?
  split
  · exact absurd rfl (h _ _)
  · rfl

inductive Claim.Becomes (old : Claim) (x : Operation × Except Error Answer) (now : Timestamp) :
    Claim → Prop where
  | kept (unnamed : newName? old.owner x = none) : Becomes old x now old
  | renamed {name : String} (named : newName? old.owner x = some name) :
    Becomes old x now { old with ownerName := name }
  | passed {owner : Owner} {name : String} (other : owner ≠ old.owner) :
    Becomes old x now (old.passTo owner name now)

namespace Claim.Becomes
variable {old new : Claim} {x : Operation × Except Error Answer} {now : Timestamp}

/-- The cost of a claim never changes. -/
theorem cost_eq (h : old.Becomes x now new) : new.cost = old.cost := by
  cases h <;> rfl

theorem createdAt_eq (h : old.Becomes x now new) : new.createdAt = old.createdAt := by
  cases h <;> rfl

/-- A claim that stays with its owner changes in nothing but the name, and only for an answer that
gives him a new one. -/
theorem eq_of_owner_eq (h : old.Becomes x now new) (ho : new.owner = old.owner) :
    new = { old with ownerName := (newName? old.owner x).getD old.ownerName } := by
  cases h with
  | kept unnamed => rw [unnamed, Option.getD_none]
  | renamed named => rw [named, Option.getD_some]
  | passed other => exact absurd ho other

end Claim.Becomes

/-! ### One operation -/

/-- What is written over claims of one owner comes from the claim that is there. -/
theorem eq_of_rewritten {s : Realm} {owner : Owner} {claims : List Claim} {f : Claim → Claim}
    {x : CacheChange} {old new : Claim}
    (owned : ∀ c ∈ claims, s.cache.owner? c.cell = some c ∧ c.owner = owner)
    (hx : x ∈ claims.map fun c => .upsert (f c)) (hf : ∀ c, (f c).cell = c.cell)
    (hnew : x.claim? = some new) (hold : s.cache.owner? new.cell = some old) :
    old.owner = owner ∧ f old = new := by
  obtain ⟨before, hb, rfl⟩ := List.mem_map.mp hx
  obtain rfl := Option.some.inj hnew
  obtain ⟨hfound, howner⟩ := owned before hb
  obtain rfl : before = old := Option.some.inj (hfound.symm.trans (hf before ▸ hold))
  exact ⟨howner,rfl⟩

namespace Command.ComesTo
variable {stamp : Stamp} {s : Realm} {c : Command} {p : Plan Answer} {old new : Claim}

/-- What a plan writes of a cell that is claimed is the claim that is there, for another owner or
under the new name of its village. -/
theorem becomes_written (hc : c.ComesTo stamp s p) (h : s.InSync) {x : CacheChange}
    (hx : x ∈ p.cacheChanges) (hnew : x.claim? = some new)
    (hold : s.cache.owner? new.cell = some old) :
    old.Becomes (.command c,.ok p.answer) stamp.now new := by
  cases hc with
  | claim may | claimWithLimit may | claimNext _ may =>
    obtain rfl := List.mem_singleton.mp hx
    obtain rfl := Option.some.inj hnew
    cases may.vacant.cached.symm.trans hold
  | expand _ _ _ _ vacant =>
    obtain rfl := List.mem_singleton.mp hx
    obtain rfl := Option.some.inj hnew
    cases vacant.cached.symm.trans hold
  | found _ _ _ _ own =>
    obtain ⟨howner, rfl⟩ := eq_of_rewritten (own.owned h) hx (fun _ => rfl) hnew hold
    exact .passed (howner ▸ nofun)
  | disband =>
    obtain ⟨howner, rfl⟩ := eq_of_rewritten (fun _ => Realm.owned_of_mem_stillOwned h) hx
      (fun _ => rfl) hnew hold
    exact .passed (howner ▸ nofun)
  | rename =>
    rw [Plan.cacheChanges_map] at hx
    simp only [Plan.rename, List.map_map] at hx
    obtain ⟨howner, rfl⟩ := eq_of_rewritten (fun _ => Realm.owned_of_mem_stillOwned h) hx
      (fun _ => rfl) hnew hold
    exact .renamed (if_pos howner)
  | unclaim =>
    obtain rfl := List.mem_singleton.mp hx
    cases hnew
  | returnCells =>
    obtain ⟨before, -, rfl⟩ := List.mem_map.mp hx
    cases hnew
  | transfer | addMember | kick | setRole | leave | grant | revoke => cases hx

/-- Land that a plan does not write of gets no new name. -/
theorem newName?_of_notMem (hc : c.ComesTo stamp s p) (h : s.InSync) (he : s.cache.Exact)
    {cell : Cell} (hold : s.storage.tables.claims[cell]? = some old)
    (hx : cell ∉ p.cacheChanges.map CacheChange.cell) :
    newName? old.owner (.command c,.ok p.answer) = none := by
  cases hc with
  | rename =>
    refine if_neg fun ho => hx ?_
    -- All land of the village is in the index, so the plan writes of this cell.
    have hstill := h.stillOwned_of_stored he hold ho
    rw [Plan.cacheChanges_map]
    simp only [Plan.rename, List.map_map]
    exact List.mem_map.mpr ⟨old,hstill,h.keyed.claims cell old hold⟩
  | claim | claimWithLimit | claimNext | unclaim | found | disband | transfer | addMember => rfl
  | kick | setRole | leave | expand | returnCells | grant | revoke => rfl

end Command.ComesTo

/-- What a claim can be after an operation: it is as it was, it bears a new name, or it passed to
another owner at that time. -/
theorem Managed.becomes {s : Realm} (h : Managed s) (o : Operation) (stamp : Stamp) {cell : Cell}
    {old new : Claim} (hold : s.storage.tables.claims[cell]? = some old)
    (hnew : (o.run stamp s).realm.storage.tables.claims[cell]? = some new) :
    old.Becomes (o,(o.run stamp s).result) stamp.now new := by
  have hkeyed : new.cell = cell := (h.run o stamp).inSync.keyed.claims cell new hnew
  rcases h.inSync.granted_cases o stamp with ⟨hr,hnot⟩ | ⟨c,p,rfl,hc,hp⟩
  · rw [hr.tables] at hnew
    obtain rfl : old = new := Option.some.inj (hold.symm.trans hnew)
    exact .kept (newName?_of_not_granted hnot)
  · have hresult : ((Operation.command c).run stamp s).result = .ok p.answer := hp.result
    have hclaims : ((Operation.command c).run stamp s).realm.storage.tables.claims =
        p.cacheChanges.foldl CacheChange.onClaims s.storage.tables.claims := hc.claims_eq hp
    rw [hclaims] at hnew
    rw [hresult]
    rcases CacheChange.eq_some_of_foldl_onClaims hnew with ⟨x,hx,hclaim⟩ | ⟨hx,hsame⟩
    · refine hc.becomes_written h.inSync hx hclaim ?_
      rw [h.inSync.owner?_eq, hkeyed]
      exact hold
    · obtain rfl : old = new := Option.some.inj (hold.symm.trans hsame)
      exact .kept (hc.newName?_of_notMem h.inSync h.exact hold hx)

/-! ### A run -/

/-- A cell that is claimed all through a run keeps its cost and the time at which it was claimed. -/
theorem Managed.kept_runAll {s : Realm} (h : Managed s) (operations : List (Operation × Stamp))
    {cell : Cell} {old new : Claim} (hold : s.storage.tables.claims[cell]? = some old)
    (stays : ∀ before, before <+: operations →
      cell ∈ (s.runAll before).storage.tables.claims)
    (hnew : (s.runAll operations).storage.tables.claims[cell]? = some new) :
    new.cost = old.cost ∧ new.createdAt = old.createdAt := by
  induction operations generalizing s old with
  | nil =>
    obtain rfl : old = new := Option.some.inj (hold.symm.trans hnew)
    exact ⟨rfl,rfl⟩
  | cons step operations ih =>
    obtain ⟨o, stamp⟩ := step
    have hfirst : [(o,stamp)] <+: (o,stamp) :: operations :=
      List.prefix_cons_iff.mpr (.inr ⟨[],rfl,List.nil_prefix⟩)
    obtain ⟨next, hnext⟩ := mem_iff_exists_getElem?_eq_some.mp (stays _ hfirst)
    -- The rest of the run starts from the claim that is there after the first operation.
    have hstep := h.becomes o stamp hold hnext
    have hlater := ih (h.run o stamp) hnext
      (fun before hb => stays _ (List.prefix_cons_iff.mpr (.inr ⟨before,rfl,hb⟩))) hnew
    exact ⟨hlater.1.trans hstep.cost_eq,hlater.2.trans hstep.createdAt_eq⟩

/-! ### Marks -/

namespace Realm.InSync
variable {s : Realm}

/-- The mark of a player in the store is raised by one with a free claim that he is granted. -/
theorem marks_of_run (h : s.InSync) (o : Operation) (stamp : Stamp) (player : PlayerId) :
    ((o.run stamp s).realm.storage.tables.marks.of player).toNat =
      (s.storage.tables.marks.of player).toNat +
        if (freeClaim? player (o,(o.run stamp s).result)).isSome then 1 else 0 := by
  have hafter := h.markAfter_run o stamp player
  rw [(h.run o stamp).markOf_eq] at hafter
  rw [← h.markOf_eq]
  generalize (o.run stamp s).realm.storage.tables.marks.of player = mark at hafter ⊢
  cases hafter with
  | kept none => rw [none, Option.isSome_none, if_neg Bool.false_ne_true, Nat.add_zero]
  | raised granted _ next => rw [granted, Option.isSome_some, if_pos rfl, next]

/-- With no free claim granted to anybody the marks stay as they are. -/
theorem marks_run_of_none (h : s.InSync) (o : Operation) (stamp : Stamp)
    (hnone : ∀ player, freeClaim? player (o,(o.run stamp s).result) = none) :
    (o.run stamp s).realm.storage.tables.marks = s.storage.tables.marks := by
  rcases h.run_cases o stamp with hr | ⟨c,p,rfl,hc,hp⟩
  · rw [hr.tables]
  · have hmarks : ((Operation.command c).run stamp s).realm.storage.tables.marks =
        p.cacheChanges.foldl CacheChange.onMarks s.storage.tables.marks := hc.marks_eq hp
    have hresult : ((Operation.command c).run stamp s).result = .ok p.answer := hp.result
    rw [hmarks]
    rcases hc.forSelf_cases with ⟨hself,cell,cost,veteran,rfl,may⟩ | ⟨-,hkept⟩
    · apply Marks.raise_of_none
      rcases may.cost_cases with ⟨-,hslot⟩ | ⟨slot,hfree,-⟩
      · simp [Claim.freeSlot?, Claim.make, hslot]
      · have hgranted := hnone c.actor.id
        rw [hresult] at hgranted
        simp [freeClaim?, hself, hfree, Plan.personal, Plan.claim, Plan.map, Claim.make] at hgranted
    · exact hkept _

end Realm.InSync

structure Store.Continues (t t' : Store) (x : Operation × Except Error Answer) : Prop where
  cost : ∀ (cell : Cell) (old new : Claim), t.claims[cell]? = some old →
    t'.claims[cell]? = some new → new.cost = old.cost
  createdAt : ∀ (cell : Cell) (old new : Claim), t.claims[cell]? = some old →
    t'.claims[cell]? = some new → new.createdAt = old.createdAt
  label : ∀ (cell : Cell) (old new : Claim), t.claims[cell]? = some old →
    t'.claims[cell]? = some new → new.owner = old.owner →
    new = { old with ownerName := (newName? old.owner x).getD old.ownerName }
  marks : ∀ player, (t'.marks.of player).toNat =
    (t.marks.of player).toNat + if (freeClaim? player x).isSome then 1 else 0
  unmarked : (∀ player, freeClaim? player x = none) → t'.marks = t.marks

/-- In every state that a server comes to, and for every operation: a cell that is claimed before
and after it keeps its cost and the time at which it was claimed. If it also keeps its owner, the
claim stays as it is, but for the name of a village that is given a new one. The mark of a player is
raised by one if he is granted a free claim, and no other mark is changed. The cache follows the
store in all this. From the first to the last state of a run, too, a cell that is claimed throughout
keeps its cost and the time at which it was claimed. -/
theorem Managed.claims_keep_identity {s : Realm} (h : Managed s) :
    (∀ o stamp, let after := o.run stamp s
      s.storage.tables.Continues after.realm.storage.tables (o,after.result) ∧
      after.realm.cache.byCell = after.realm.storage.tables.claims ∧
      after.realm.cache.marks = after.realm.storage.tables.marks) ∧
    ∀ operations (cell : Cell) (old new : Claim), s.storage.tables.claims[cell]? = some old →
      (∀ before, before <+: operations → cell ∈ (s.runAll before).storage.tables.claims) →
      (s.runAll operations).storage.tables.claims[cell]? = some new →
      new.cost = old.cost ∧ new.createdAt = old.createdAt := by
  refine ⟨fun o stamp => ?_,fun operations cell old new => h.kept_runAll operations⟩
  have hsync : (o.run stamp s).realm.InSync := (h.run o stamp).inSync
  have hcontinues : s.storage.tables.Continues (o.run stamp s).realm.storage.tables
      (o,(o.run stamp s).result) := {
    cost := fun _ _ _ hold hnew => (h.becomes o stamp hold hnew).cost_eq
    createdAt := fun _ _ _ hold hnew => (h.becomes o stamp hold hnew).createdAt_eq
    label := fun _ _ _ hold hnew => (h.becomes o stamp hold hnew).eq_of_owner_eq
    marks := h.inSync.marks_of_run o stamp
    unmarked := h.inSync.marks_run_of_none o stamp }
  exact ⟨hcontinues,hsync.claims,hsync.marks⟩

namespace Sample

def relabelling : Operation := .command (.rename ann oakham "Oak Hill")

/-- The land of the village shows the new name, and all else of it is as before. -/
theorem parish_claims_keep_identity :
    Managed parish ∧
    let after := relabelling.run (stamp 17) parish
    ∃ old new : Claim, parish.storage.tables.claims[road 2]? = some old ∧
      after.realm.storage.tables.claims[road 2]? = some new ∧
      new = { old with ownerName := "Oak Hill" } ∧ old.ownerName = "Oak Vale" ∧
      after.realm.storage.tables.marks.of ann.id = 2 := by
  have hbefore : (parish.storage.tables.claims[road 2]?).map (fun c => (c.owner,c.ownerName)) =
      some (.village oakham,"Oak Vale") := by
    decide +kernel
  have hafter : ((relabelling.run (stamp 17) parish).realm.storage.tables.claims[road 2]?).map
      (·.owner) = some (.village oakham) := by
    decide +kernel
  have hfree : freeClaim? ann.id (relabelling,(relabelling.run (stamp 17) parish).result) =
      none := by
    decide +kernel
  have htwo : parish.storage.tables.marks.of ann.id = 2 := by
    decide +kernel
  obtain ⟨old, hold, howner⟩ := Option.map_eq_some_iff.mp hbefore
  obtain ⟨new, hnew, hstays⟩ := Option.map_eq_some_iff.mp hafter
  obtain ⟨ho, hshown⟩ := Prod.mk.inj howner
  have hname : newName? old.owner (relabelling,(relabelling.run (stamp 17) parish).result) =
      some "Oak Hill" := by
    rw [ho]
    decide +kernel
  obtain ⟨hone, -⟩ := managed_parish.claims_keep_identity
  obtain ⟨hcontinues, -, -⟩ := hone relabelling (stamp 17)
  have hlabel := hcontinues.label (road 2) old new hold hnew (hstays.trans ho.symm)
  rw [hname, Option.getD_some] at hlabel
  have hmark := hcontinues.marks ann.id
  rw [hfree, htwo] at hmark
  exact ⟨managed_parish,old,new,hold,hnew,hlabel,hshown,UInt32.toNat_inj.mp hmark⟩

end Sample

end Freehold
