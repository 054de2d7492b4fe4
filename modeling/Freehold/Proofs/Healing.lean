import Freehold.Proofs.LandIndex
import Freehold.Proofs.Sync
import Freehold.Proofs.Verdict

/-!
A cache that the store has overtaken. A request that comes to ask for a cell of which only the store
knows a claim is refused, and with that the cache learns the claim: it stands under its cell and in the
index of its owner, and nothing else is touched. The marks are part of what is not touched, so a free
slot that the claim uses up stays unknown to the cache.
-/

namespace Freehold
open Std

namespace Request
variable {α β : Type} {s : Realm} {cell : Cell}

/-- The request comes to ask for the cell, past all that could refuse it before. -/
def AsksFor (cell : Cell) : Request α → Realm → Prop
  | refuse _, _ => False
  | note _ next, s => next.AsksFor cell s
  | look next, s => (next s).AsksFor cell s
  | lock _ next, s => next.AsksFor cell s
  | vacant asked _ _, _ => asked = cell
  | commit _, _ => False

@[simp] theorem asksFor_look (next : Realm → Request α) :
    (look next).AsksFor cell s ↔ (next s).AsksFor cell s := Iff.rfl

@[simp] theorem asksFor_lock (key : LockKey) (next : Request α) :
    (lock key next).AsksFor cell s ↔ next.AsksFor cell s := Iff.rfl

@[simp] theorem asksFor_vacant (asked : Cell) (actor : PlayerId) (next : Request α) :
    (vacant asked actor next).AsksFor cell s ↔ asked = cell := Iff.rfl

@[simp] theorem asksFor_demand (check : Except Error Unit) (next : Request α) :
    (demand check next).AsksFor cell s ↔ check = .ok () ∧ next.AsksFor cell s := by
  cases check with
  | ok u => simp [demand]
  | error e => simp [demand, AsksFor]

/-- Whatever is checked before the cell is asked for has to pass. -/
@[simp] theorem asksFor_require (check : Except Refusal β) (next : β → Request α) :
    (require check next).AsksFor cell s ↔ ∃ b, check = .ok b ∧ (next b).AsksFor cell s := by
  match check with
  | .ok b => simp [require]
  | .error ⟨e,none⟩ => simp [require, AsksFor]
  | .error ⟨e,some n⟩ => simp [require, AsksFor]

@[simp] theorem asksFor_map (f : α → β) (r : Request α) :
    (r.map f).AsksFor cell s ↔ r.AsksFor cell s := by
  induction r generalizing s with
  | refuse | vacant | commit => rfl
  | note _ _ ih | lock _ _ ih => exact ih
  | look _ ih => exact ih s

section Land
variable (a : Actor) (asked : Cell) (cost : Cost) (stamp : Stamp)

/-- A personal claim comes to ask for its cell when its offer passes. -/
theorem asksFor_claimPersonal (veteran : Option Bool) :
    (claimPersonal a asked cost veteran stamp).AsksFor cell s ↔
      s.checkOffer cost = .ok () ∧ asked = cell := by
  simp only [claimPersonal, asksFor_look, asksFor_demand, asksFor_lock, asksFor_vacant]

/-- A claim for a village comes to ask for its cell when the offer passes and the actor may add to
the land of his village. -/
theorem asksFor_expand :
    (expand a asked cost stamp).AsksFor cell s ↔
      s.checkVillageOffer cost = .ok () ∧
      (∃ village, s.directory.ownVillage a.id = .ok village ∧
        ∃ v, s.directory.villageFor village a.id .expandLand = .ok v) ∧ asked = cell := by
  simp only [expand, asksFor_look, asksFor_demand, asksFor_require, asksFor_lock, asksFor_vacant]
  grind

end Land

/-- A request that asks for a cell that cannot be had is refused for that. -/
theorem refused_of_asksFor {r : Request α} (h : r.AsksFor cell s) {e : Error}
    (hv : s.vacancy cell = .error e) : r.Refused s e := by
  -- Up to the question the realm is the one that the request was given.
  have hrun : ∃ n, (r.run s).result = .error e ∧
      (r.run s).realm = { s.withReads n with cache := s.healed e } := by
    induction r with
    | refuse | commit => cases h
    | note _ _ ih | lock _ _ ih => exact ih h
    | look _ ih => exact ih s h
    | vacant asked actor next =>
      cases h
      rcases s.checkVacant_cases cell actor with ⟨-,hc⟩ | ⟨n,events,e',-,hc⟩
      · rw [← s.result_checkVacant cell actor, hc] at hv
        cases hv
      · have he : e' = e := by
          rw [← s.result_checkVacant cell actor, hc] at hv
          exact Except.error.inj hv
        subst he
        rw [run, hc]
        exact ⟨n,rfl,rfl⟩
  obtain ⟨n, hresult, hrealm⟩ := hrun
  exact refused_of_realm_eq (s.withReads n).storage hresult rfl hrealm

end Request

namespace Cache
variable {c : Cache} {claim : Claim}

/-- What a cache knows more than before: one claim, under its cell and in the index of its owner.
The claims of other cells and the marks are the same. -/
structure Learns (before after : Cache) (claim : Claim) : Prop where
  here : after.owner? claim.cell = some claim
  elsewhere : ∀ other, other ≠ claim.cell → after.owner? other = before.owner? other
  players : ∀ player cell, cell ∈ after.cellsOf player ↔
    cell ∈ before.cellsOf player ∨ claim.owner = .personal player ∧ cell = claim.cell
  villages : ∀ village cell, cell ∈ after.landOf village ↔
    cell ∈ before.landOf village ∨ claim.owner = .village village ∧ cell = claim.cell
  marks : after.marks = before.marks

/-- This holds whatever the indices say otherwise. -/
theorem learns_upsert (h : c.owner? claim.cell = none) : c.Learns (c.upsert claim) claim := by
  have hbyCell : (c.upsert claim).byCell = c.byCell.insert claim.cell claim := c.byCell_upsert claim
  -- Nothing is known of the cell, so no earlier claim of it is forgotten first.
  have hremove : c.remove claim.cell = c := by
    simp only [remove, show c.byCell[claim.cell]? = none from h]
  have hupsert := c.upsert_eq claim
  rw [hremove] at hupsert
  refine ⟨?_, ?_, ?_, ?_, c.marks_upsert claim⟩
  · rw [owner?, hbyCell, ExtTreeMap.getElem?_insert_self]
  · intro other hne
    have hne' : ¬claim.cell = other := fun he => hne he.symm
    rw [owner?, hbyCell, ExtTreeMap.getElem?_insert]
    simp [hne', owner?]
  · intro player cell
    have howner : claim.owner.player? = some player ↔ claim.owner = .personal player := by
      cases claim.owner <;> simp [Owner.player?]
    rw [hupsert, cellsOf, ExtTreeSet.mem_toList, LandIndex.mem_cells_having, howner, cellsOf,
      ExtTreeSet.mem_toList]
    grind
  · intro village cell
    have howner : claim.owner.village? = some village ↔ claim.owner = .village village := by
      cases claim.owner <;> simp [Owner.village?]
    rw [hupsert, landOf, ExtTreeSet.mem_toList, LandIndex.mem_cells_having, howner, landOf,
      ExtTreeSet.mem_toList]
    grind

end Cache

/-- A claim that is put into the store behind the cache stands under its own cell, too. -/
theorem Storage.rowsKeyed_seed {s : Storage} (h : s.tables.RowsKeyed) (claim : Claim) :
    (s.seed claim).1.tables.RowsKeyed := by
  unfold seed
  cases hw : s.tables.write (.insertClaim claim) with
  | ok tables =>
    obtain ⟨-, rfl⟩ := Store.write_eq_ok_iff.mp hw
    exact h.put (.insertClaim claim)
  | error e => exact h

namespace Realm
variable {s : Realm} {cell : Cell} {stored : Claim}

/-- A cell that only the store knows a claim of is taken, if the store can be asked. -/
theorem vacancy_of_missed (missed : s.cache.owner? cell = none)
    (held : s.storage.tables.claims[cell]? = some stored) :
    s.vacancy cell = .error (if .claimGet ∈ s.storage.faults.unreadable
      then .persistence .lockPoisoned else .conflict cell stored.ownerName) := by
  unfold vacancy Storage.answer
  rw [missed, held]
  by_cases hu : ReadMethod.claimGet ∈ s.storage.faults.unreadable
  · simp only [if_pos hu]
  · simp only [if_neg hu]

/-- What a player is quoted depends on the rules and his mark alone. -/
theorem quote_eq_of_marks_eq {t : Realm} (hc : t.config = s.config)
    (hm : t.cache.marks = s.cache.marks) (player : PlayerId) (requested : Option Tier) :
    t.quote player requested = s.quote player requested := by
  rw [quote, quote, Cache.markOf, Cache.markOf, hc, hm]

end Realm

/-- A command that comes to ask for a cell of which the store holds a claim that the cache lacks. If
the store can be asked, the answer is a conflict in the name of the stored owner, and the cache learns
the stored claim and nothing else: all marks stay, and so does what anyone is quoted. If it cannot be
asked, the cache stays too. Tables and directory stay in any case. -/
theorem Command.learns_of_asksFor {c : Command} {stamp : Stamp} {s : Realm} {cell : Cell}
    {stored : Claim} (keyed : s.storage.tables.RowsKeyed)
    (missed : s.cache.owner? cell = none)
    (held : s.storage.tables.claims[cell]? = some stored)
    (asks : (c.request stamp).AsksFor cell s) :
    let after := (c.run stamp s).realm
    after.storage.tables = s.storage.tables ∧ after.directory = s.directory ∧
    (.claimGet ∈ s.storage.faults.unreadable →
      (c.run stamp s).result = .error (.persistence .lockPoisoned) ∧ after.cache = s.cache) ∧
    (.claimGet ∉ s.storage.faults.unreadable →
      (c.run stamp s).result = .error (.conflict cell stored.ownerName) ∧
      after.cache.owner? cell = after.storage.tables.claims[cell]? ∧
      s.cache.Learns after.cache stored ∧ after.cache = s.cache.gain stored ∧
      ∀ player requested, after.quote player requested = s.quote player requested) := by
  intro after
  have hvacancy := Realm.vacancy_of_missed missed held
  by_cases hu : ReadMethod.claimGet ∈ s.storage.faults.unreadable
  · rw [if_pos hu] at hvacancy
    have hr := Request.refused_of_asksFor asks hvacancy
    exact ⟨hr.tables,hr.directory,fun _ => ⟨hr.result,hr.cache⟩,fun hn => absurd hu hn⟩
  · rw [if_neg hu] at hvacancy
    have hr := Request.refused_of_asksFor asks hvacancy
    have htables : after.storage.tables = s.storage.tables := hr.tables
    have hcache : after.cache = s.cache.upsert stored :=
      hr.cache.trans (Realm.healed_of_missed ⟨⟨_,rfl⟩,missed,held⟩)
    have hcell : stored.cell = cell := keyed.claims cell stored held
    subst hcell
    have hlearns : s.cache.Learns after.cache stored := by
      rw [hcache]
      exact Cache.learns_upsert missed
    have hgain : after.cache = s.cache.gain stored := hcache.trans (Cache.upsert_eq_gain missed)
    refine ⟨htables, hr.directory, fun hy => absurd hy hu,
      fun _ => ⟨hr.result, ?_, hlearns, hgain, ?_⟩⟩
    · rw [hlearns.here, htables, held]
    · exact Realm.quote_eq_of_marks_eq hr.config hlearns.marks

namespace Sample

def bensClaim : Claim := .make (road 3) (.personal ben.id) ben.name (.free 2) (.ofSeconds 0)

def overtaken : Realm := { hamlet with storage := (hamlet.storage.seed bensClaim).1 }

def reaching : Command := .expand ann (road 3) (.paid .ironIngot 64)

/-- Ann is refused in the name of Ben. Both have what they had, and the cell is known as Ben's. -/
theorem reaching_learns_of_asksFor :
    overtaken.storage.tables.RowsKeyed ∧ overtaken.cache.owner? (road 3) = none ∧
    overtaken.storage.tables.claims[road 3]? = some bensClaim ∧
    (reaching.request (stamp 9)).AsksFor (road 3) overtaken ∧
    (reaching.run (stamp 9) overtaken).result = .error (.conflict (road 3) "Ben") ∧
    overtaken.cache.Learns (reaching.run (stamp 9) overtaken).realm.cache bensClaim := by
  have hkeyed : overtaken.storage.tables.RowsKeyed :=
    Storage.rowsKeyed_seed managed_hamlet.inSync.keyed bensClaim
  have hmissed : overtaken.cache.owner? (road 3) = none := by decide +kernel
  have hheld : overtaken.storage.tables.claims[road 3]? = some bensClaim := by decide +kernel
  have hasks : (reaching.request (stamp 9)).AsksFor (road 3) overtaken := by
    rw [reaching, Command.request, Request.asksFor_map, Request.asksFor_expand]
    exact ⟨by decide +kernel,⟨⟨.ofNat 3⟩,rfl,_,rfl⟩,rfl⟩
  obtain ⟨-, -, -, hlearns⟩ := Command.learns_of_asksFor hkeyed hmissed hheld hasks
  obtain ⟨hresult, -, hlearnt, -⟩ := hlearns (by decide +kernel)
  exact ⟨hkeyed,hmissed,hheld,hasks,hresult,hlearnt⟩

/-- A server that was just started, to whose store Ann's first free claim was given since. -/
def surprised : Realm :=
  let s := ({ config := {} } : Realm).start.realm
  { s with storage := (s.storage.seed annsClaim).1 }

/-- When Ben asks for Ann's cell, the cache learns of her claim but not that its slot is used up. The
store counts the slot, and Ann is quoted it again. -/
theorem surprised_quotes_used_slot :
    let after := ((Command.claim ben (road 0) (.free 1)).run (stamp 1) surprised).realm
    ((Command.claim ben (road 0) (.free 1)).run (stamp 1) surprised).result =
      .error (.conflict (road 0) "Ann") ∧
    after.cache.owner? (road 0) = some annsClaim ∧
    annsClaim.freeSlot? = some (ann.id,1) ∧
    after.storage.tables.marks.of ann.id = 1 ∧
    after.cache.markOf ann.id < 1 ∧
    after.quote ann.id none = .ok (.free 1) := by
  intro after
  exact ⟨rfl,by decide +kernel,rfl,by decide +kernel,by decide +kernel,rfl⟩

end Sample

end Freehold
