import Freehold.Proofs.Restart
import Freehold.Proofs.Verdict
import Mathlib.Data.List.Nodup

/-!
No command hands the store a batch that it would refuse. A plan is made from the cache and the
directory, while the store looks at its own rows, write by write. The rows that a batch asks for are all
there when it comes, and it asks for none of them twice, so no write takes away what a later one needs.
-/

namespace Freehold
open Std

inductive Row where
  | claim (cell : Cell)
  | village (id : VillageId)
  | membership (key : MemberKey)
  | permission (key : PermissionKey)
deriving DecidableEq

namespace Write

def needs? : Write → Option Row
  | updateClaim claim => some (.claim claim.cell)
  | deleteClaim cell => some (.claim cell)
  | updateVillage village => some (.village village.id)
  | deleteMembership key => some (.membership key)
  | revokePermission key => some (.permission key)
  | _ => none

def inserts : Write → Bool
  | insertClaim _ | insertVillage _ => true
  | _ => false

end Write

namespace Batch

def needs (b : Batch) : List Row := b.filterMap Write.needs?

@[simp] theorem needs_append (a b : Batch) : needs (a ++ b) = needs a ++ needs b :=
  List.filterMap_append

theorem needs_passing (claims : List Claim) (owner : Owner) (ownerName : String) (actor : PlayerId)
    (reason : String) (stamp : Stamp) :
    needs (claims.flatMap (Write.passing owner ownerName actor reason stamp)) =
      claims.map fun c => .claim c.cell := by
  rw [needs, List.filterMap_flatMap, List.map_eq_flatMap]
  rfl

/-- Writes of one kind, each of which needs its own row. -/
theorem needs_map {α : Type} (xs : List α) {f : α → Write} {row : α → Row}
    (h : ∀ x, (f x).needs? = some (row x)) : needs (xs.map f) = xs.map row := by
  have hf : Write.needs? ∘ f = some ∘ row := funext h
  rw [needs, List.filterMap_map, hf, List.filterMap_eq_map]

end Batch

namespace Store
variable {s t : Store} {w : Write} {b : Batch} {row : Row}

def Has (s : Store) : Row → Prop
  | .claim cell => cell ∈ s.claims
  | .village id => id ∈ s.villages
  | .membership key => key ∈ s.memberships
  | .permission key => key ∈ s.permissions

/-- Whether each write of a batch finds, at the moment it is applied, the row it needs or the place it
needs free. -/
def Accepts (s : Store) : Batch → Prop
  | [] => True
  | w :: b => s.Takes w ∧ (s.put w).Accepts b

/-- A batch goes through just when it is accepted. -/
theorem accepts_iff_exists_writeAll : s.Accepts b ↔ ∃ t, s.writeAll b = .ok t := by
  induction b generalizing s with
  | nil => simp [Accepts, writeAll]
  | cons w b ih =>
    rw [Accepts, ih, ← exists_and_left]
    simp only [writeAll_cons_eq_ok_iff]

theorem takes_of_has (hi : w.inserts = false) (h : ∀ row, w.needs? = some row → s.Has row) :
    s.Takes w := by
  cases w with
  | insertClaim | insertVillage => cases hi
  | appendHistory | upsertMembership | grantPermission => trivial
  | updateClaim | deleteClaim | updateVillage | deleteMembership | revokePermission => exact h _ rfl

/-- A write takes away at most the row that it needs itself. -/
theorem has_put (h : s.Has row) (hn : w.needs? ≠ some row) : (s.put w).Has row := by
  cases w <;> cases row <;> simp_all [Has, put, Write.needs?]

/-- A batch that inserts nothing is accepted when the rows that it needs are there and no two of its
writes need the same. -/
theorem accepts_of_needs (hi : b.any Write.inserts = false) (hn : (Batch.needs b).Nodup)
    (h : ∀ row ∈ Batch.needs b, s.Has row) : s.Accepts b := by
  -- The store changes with each write, and what the rest of the batch needs is still in it.
  induction b generalizing s with
  | nil => trivial
  | cons w b ih =>
    have hw : Batch.needs (w :: b) = w.needs?.toList ++ Batch.needs b := by
      rw [Batch.needs, List.filterMap_cons]
      cases w.needs? <;> rfl
    rw [hw, List.nodup_append] at hn
    rw [hw] at h
    rw [List.any_cons, Bool.or_eq_false_iff] at hi
    obtain ⟨-, hrest, hdisjoint⟩ := hn
    refine ⟨takes_of_has hi.1 ?_, ?_⟩
    · intro row hrow
      exact h row (List.mem_append_left _ (Option.mem_toList.mpr hrow))
    · refine ih hi.2 hrest ?_
      intro row hrow
      refine has_put (h row (List.mem_append_right _ hrow)) ?_
      intro hneeds
      exact hdisjoint row (Option.mem_toList.mpr hneeds) row hrow rfl

end Store

/-! ### What the cache and the directory know is there -/

namespace Directory

theorem nodup_membersOf (d : Directory) (village : VillageId) : (d.membersOf village).Nodup := by
  have hkeys : d.members.keys.Nodup := by
    refine ExtTreeMap.distinct_keys.imp ?_
    rintro a b hab rfl
    exact hab ReflCmp.compare_self
  rw [membersOf, List.Nodup, List.pairwise_map, List.pairwise_filter]
  refine hkeys.imp ?_
  intro a b hab ha hb hmember
  have hvillage : a.village = b.village := (of_decide_eq_true ha).trans (of_decide_eq_true hb).symm
  exact hab (by cases a; cases b; simp_all)

theorem nodup_grantsIn (d : Directory) (village : VillageId) : (d.grantsIn village).Nodup := by
  rw [grantsIn, List.Nodup, List.pairwise_flatMap]
  constructor
  · intro p _
    exact List.Nodup.map (fun c c' heq => (PermissionKey.mk.inj heq).2) (nodup_toList _)
  · refine (d.nodup_membersOf village).imp ?_
    rintro p q hpq k hk l hl rfl
    obtain ⟨c, -, rfl⟩ := List.mem_map.mp hk
    obtain ⟨c', -, heq⟩ := List.mem_map.mp hl
    exact hpq (MemberKey.mk.inj (PermissionKey.mk.inj heq).1).2.symm

end Directory

namespace Realm
variable {s : Realm} {owner : Owner} {cells : List Cell} {claims : List Claim}

structure Held (s : Realm) (claims : List Claim) : Prop where
  found : ∀ c ∈ claims, s.cache.owner? c.cell = some c
  -- No cell is named twice.
  once : (claims.map (·.cell)).Nodup

theorem Owns.held (ho : s.Owns owner (Cell.sorted cells) claims) (h : s.InSync) :
    s.Held claims := by
  refine ⟨fun c hc => (ho.owned h c hc).1, ?_⟩
  rw [ho.map_cell h]
  exact Cell.nodup_sorted cells

theorem InSync.held_stillOwned (h : s.InSync) (village : VillageId) :
    s.Held (s.stillOwned village (s.cache.landOf village)).1 :=
  ⟨fun _ hc => (owned_of_mem_stillOwned h hc).1,nodup_stillOwned h (nodup_toList _)⟩

theorem Held.nodup_rows (hh : s.Held claims) : (claims.map fun c => Row.claim c.cell).Nodup := by
  have hrows : ((claims.map (·.cell)).map Row.claim).Nodup :=
    List.Nodup.map (fun c c' heq => Row.claim.inj heq) hh.once
  rw [List.map_map] at hrows
  exact hrows

namespace Orderly
variable (h : s.Orderly)
include h

/-- What the cache and the directory know of is in the tables: a claim of the cell, and likewise for
villages, members and what was handed to them. -/
theorem has_claim {cell : Cell} {claim : Claim} (hc : s.cache.owner? cell = some claim) :
    s.storage.tables.Has (.claim cell) := by
  change cell ∈ s.storage.tables.claims
  rw [← h.sync.claims]
  exact mem_of_getElem?_eq_some hc

theorem has_claims (hh : s.Held claims) {row : Row}
    (hrow : row ∈ claims.map fun c => Row.claim c.cell) : s.storage.tables.Has row := by
  obtain ⟨c, hc, rfl⟩ := List.mem_map.mp hrow
  exact h.has_claim (hh.found c hc)

theorem has_village {id : VillageId} {v : Village} (hv : s.directory.villages[id]? = some v) :
    s.storage.tables.Has (.village v.id) := by
  have hid : v.id = id := h.sound.keyed.villages id v hv
  exact hid ▸ mem_of_getElem?_eq_some ((h.mirrors.villages id v).mp hv).1

theorem has_membership {key : MemberKey} (hm : key ∈ s.directory.members) :
    s.storage.tables.Has (.membership key) := by
  change key ∈ s.storage.tables.memberships
  rw [← h.mirrors.members]
  exact hm

theorem has_permission {key : MemberKey} {c : Capability} (hc : c ∈ s.directory.granted key) :
    s.storage.tables.Has (.permission ⟨key,c⟩) := (h.mirrors.grants key c).mp hc

end Orderly

end Realm

/-! ### The rows that each plan needs -/

namespace Batch

theorem needs_removal (d : Directory) (key : MemberKey) :
    needs (Write.removal d key) =
      ((d.granted key).toList.map fun c => .permission ⟨key,c⟩) ++ [.membership key] := by
  rw [Write.removal, needs_append, needs_map _ fun _ => rfl]
  rfl

theorem inserts_removal (d : Directory) (key : MemberKey) :
    (Write.removal d key).any Write.inserts = false := by
  simp [Write.removal, Write.inserts]

end Batch

namespace Plan
open Batch
variable {v : Village} {name : String} {claims : List Claim} {actor : PlayerId} {stamp : Stamp}

/-- To end a village, its land, its row, what was handed out in it and its members have to be on
record. -/
theorem needs_disband {mayor : Membership} {members : List PlayerId}
    {grants : List PermissionKey} {count : Nat} :
    needs (Plan.disband v mayor members grants claims count actor stamp).batch =
      (claims.map fun c => .claim c.cell) ++ [.village v.id] ++ grants.map .permission ++
        members.map fun p => .membership ⟨v.id,p⟩ := by
  have hb : (Plan.disband v mayor members grants claims count actor stamp).batch =
    claims.flatMap _ ++ [_] ++ grants.map _ ++ members.map _ := rfl
  rw [hb, needs_append, needs_append, needs_append, needs_passing, needs_map _ fun _ => rfl,
    needs_map _ fun _ => rfl]
  rfl

theorem needs_rename : needs (Plan.rename v name claims actor stamp).batch =
    [.village v.id] ++ claims.map fun c => .claim c.cell := by
  have hb : (Plan.rename v name claims actor stamp).batch = [_] ++ List.map _ (List.map _ _) := rfl
  rw [hb, needs_append, List.map_map, needs_map _ fun _ => rfl]
  rfl

theorem needs_returnCells {village : VillageId} {reason : Option String} :
    needs (Plan.returnCells actor village claims reason stamp).batch =
      claims.map fun c => .claim c.cell := by
  have hb : (Plan.returnCells actor village claims reason stamp).batch = claims.flatMap _ := rfl
  rw [hb, needs, List.filterMap_flatMap, List.map_eq_flatMap]
  rfl

end Plan

theorem Realm.Vacant.notMem {s : Realm} {cell : Cell} (h : s.Vacant cell) :
    cell ∉ s.storage.tables.claims := by
  intro hmem
  obtain ⟨claim, hc⟩ := mem_iff_exists_getElem?_eq_some.mp hmem
  rw [h.stored] at hc
  cases hc

namespace Realm.Orderly
open Store
variable {s : Realm} {key : MemberKey} {claims : List Claim} {actor : PlayerId} {stamp : Stamp}
  {village : VillageId} {v : Village} {mayor : Membership} {count : Nat} (h : s.Orderly)
include h

/-- What was handed to a member can be taken back, each capability once, and then he can go. -/
theorem accepts_removal (hm : key ∈ s.directory.members) :
    s.storage.tables.Accepts (Write.removal s.directory key) := by
  apply accepts_of_needs (Batch.inserts_removal _ _)
  · rw [Batch.needs_removal, List.nodup_append]
    refine ⟨?_, List.pairwise_singleton _ _, ?_⟩
    · exact List.Nodup.map
        (fun c c' heq => (PermissionKey.mk.inj (Row.permission.inj heq)).2) (nodup_toList _)
    · simp
  · intro row hrow
    rw [Batch.needs_removal, List.mem_append, List.mem_map, List.mem_singleton] at hrow
    rcases hrow with ⟨c,hc,rfl⟩ | rfl
    · exact h.has_permission (ExtTreeSet.mem_toList.mp hc)
    · exact h.has_membership hm

/-- A village can give up its land, its row, its grants and its members in one batch. -/
theorem accepts_disband (hv : s.directory.villages[village]? = some v) (hh : s.Held claims) :
    s.storage.tables.Accepts (Plan.disband v mayor (s.directory.membersOf village)
      (s.directory.grantsIn village) claims count actor stamp).batch := by
  obtain rfl : v.id = village := h.sound.keyed.villages village v hv
  apply accepts_of_needs
  · simp [Plan.disband, Write.passing, Write.inserts]
  · rw [Plan.needs_disband]
    have hgrants : ((s.directory.grantsIn v.id).map Row.permission).Nodup :=
      List.Nodup.map (fun k k' heq => Row.permission.inj heq) (s.directory.nodup_grantsIn v.id)
    have hmembers : ((s.directory.membersOf v.id).map fun p => Row.membership ⟨v.id,p⟩).Nodup :=
      List.Nodup.map (fun p p' heq => (MemberKey.mk.inj (Row.membership.inj heq)).2)
        (s.directory.nodup_membersOf v.id)
    -- The four parts of the batch write to four different tables.
    simp only [List.nodup_append, hh.nodup_rows, hgrants, hmembers, List.mem_append, List.mem_map]
    simp only [List.mem_singleton]
    grind
  · intro row hrow
    simp only [Plan.needs_disband, List.mem_append] at hrow
    rcases hrow with ((hc | hr) | hg) | hm
    · exact h.has_claims hh hc
    · obtain rfl := List.mem_singleton.mp hr
      exact h.has_village hv
    · obtain ⟨k, hk, rfl⟩ := List.mem_map.mp hg
      exact h.has_permission (Directory.mem_grantsIn.mp hk).2.2
    · obtain ⟨p, hp, rfl⟩ := List.mem_map.mp hm
      exact h.has_membership (Directory.mem_membersOf.mp hp)

theorem accepts_rename {name : String} (hv : s.directory.villages[village]? = some v)
    (hh : s.Held claims) :
    s.storage.tables.Accepts (Plan.rename v name claims actor stamp).batch := by
  apply accepts_of_needs
  · simp [Plan.rename, Write.inserts]
  · rw [Plan.needs_rename, List.nodup_append]
    refine ⟨List.pairwise_singleton _ _, hh.nodup_rows, ?_⟩
    simp
  · intro row hrow
    rw [Plan.needs_rename, List.mem_append, List.mem_singleton] at hrow
    rcases hrow with rfl | hrow
    · exact h.has_village hv
    · exact h.has_claims hh hrow

theorem accepts_returnCells {reason : Option String} (hh : s.Held claims) :
    s.storage.tables.Accepts (Plan.returnCells actor village claims reason stamp).batch := by
  apply accepts_of_needs
  · simp [Plan.returnCells, Write.inserts]
  · rw [Plan.needs_returnCells]
    exact hh.nodup_rows
  · intro row hrow
    rw [Plan.needs_returnCells] at hrow
    exact h.has_claims hh hrow

/-- Only the row of the village has to find its place free. The land is there before and after. -/
theorem accepts_found {a : Actor} {name : String} (hh : s.Held claims)
    (fresh : stamp.village ∉ s.storage.tables.villages) :
    s.storage.tables.Accepts (Plan.found a name claims stamp).batch := by
  have hb : (Plan.found a name claims stamp).batch = .insertVillage _ :: .upsertMembership _ ::
    claims.flatMap (Write.passing _ _ _ _ stamp) := rfl
  rw [hb]
  refine ⟨fresh, trivial, ?_⟩
  apply accepts_of_needs
  · simp [Write.passing, Write.inserts]
  · rw [Batch.needs_passing]
    exact hh.nodup_rows
  · intro row hrow
    rw [Batch.needs_passing] at hrow
    -- The two writes that come first need nothing, so they take nothing away.
    refine has_put (has_put (h.has_claims hh hrow) ?_) ?_
    · exact (Option.some_ne_none row).symm
    · exact (Option.some_ne_none row).symm

end Realm.Orderly

namespace Command.ComesTo
variable {stamp : Stamp} {s : Realm} {c : Command} {p : Plan Answer}

/-- The batch of a plan is one that the store takes. Only a village that is founded asks for a place
that may not be free, the one under its new id. -/
theorem accepts (hc : c.ComesTo stamp s p) (h : s.Orderly)
    (fresh : ∀ a name cells, c = .found a name cells →
      stamp.village ∉ s.storage.tables.villages) : s.storage.tables.Accepts p.batch := by
  cases hc with
  | claim may | claimWithLimit may | claimNext _ may => exact ⟨may.vacant.notMem,trivial,trivial⟩
  | expand _ _ _ _ vacant => exact ⟨vacant.notMem,trivial,trivial⟩
  | unclaim found => exact ⟨h.has_claim found,trivial,trivial⟩
  | found _ _ _ _ own => exact h.accepts_found (own.held h.sync) (fresh _ _ _ rfl)
  | disband active =>
    rw [Plan.batch_map]
    exact h.accepts_disband active (h.sync.held_stillOwned _)
  | @transfer a village next v _ _ active =>
    have hrow : s.storage.tables.Has (.village v.id) := h.has_village active
    exact ⟨trivial,trivial,hrow,trivial⟩
  | addMember | setRole | grant => exact ⟨trivial,trivial⟩
  | kick _ _ _ member | leave _ member => exact h.accepts_removal (mem_of_getElem?_eq_some member)
  | rename _ active =>
    rw [Plan.batch_map]
    exact h.accepts_rename active (h.sync.held_stillOwned _)
  | returnCells _ _ _ _ own =>
    rw [Plan.batch_map]
    exact h.accepts_returnCells (own.held h.sync)
  | revoke _ _ _ _ _ granted => exact ⟨h.has_permission granted,trivial⟩

end Command.ComesTo

/-! ### With no failure arranged -/

namespace Storage
variable {s : Storage} {tables t : Store} {b : Batch}

theorem writeUntil_of_writeAll (h : tables.writeAll b = .ok t) :
    writeUntil tables none b = .done t := by
  induction b generalizing tables with
  | nil =>
    cases h
    rfl
  | cons w b ih =>
    obtain ⟨htakes, hrest⟩ := Store.writeAll_cons_eq_ok_iff.mp h
    rw [writeUntil, Store.write_eq_ok_iff.mpr ⟨htakes,rfl⟩]
    · exact ih hrest
    · nofun

theorem apply_of_writeAll (hf : s.faults = {}) (h : s.tables.writeAll b = .ok t) :
    s.apply b = ({ s with tables := t, applies := s.applies+1 },[],.ok ()) := by
  obtain ⟨tables, faults, applies, reads⟩ := s
  cases hf
  simp only [apply, writeUntil_of_writeAll h]
  rfl

theorem faults_apply (hf : s.faults = {}) (b : Batch) : (s.apply b).1.faults = {} := by
  unfold apply
  dsimp only
  split
  · exact hf
  · split <;> simp only [hf]

end Storage

namespace Request
variable {α : Type} {s : Realm}

theorem faults_run (hf : s.storage.faults = {}) (r : Request α) :
    (r.run s).realm.storage.faults = {} := by
  induction r generalizing s with
  | refuse => exact hf
  | note _ _ ih | lock _ _ ih => exact ih hf
  | look _ ih => exact ih s hf
  | vacant cell actor next ih =>
    rcases s.checkVacant_cases cell actor with ⟨-,hv⟩ | ⟨n,events,e,-,hv⟩
    · rw [run, hv]
      exact ih (s := s.withReads _) hf
    · rw [run, hv]
      exact hf
  | commit p =>
    have happly := Storage.faults_apply hf p.batch
    rw [run, Plan.run]
    split <;> next heq =>
      rw [heq] at happly
      exact happly

end Request

/-- A command that its checks refuse leaves the realm as it was, but for the number of reads. -/
theorem Realm.InSync.run_of_verdict_error {s : Realm} (h : s.InSync) {c : Command} {stamp : Stamp}
    {e : Error} (hv : (c.request stamp).verdict s = .error e) :
    (c.run stamp s).result = .error e ∧ ∃ n, (c.run stamp s).realm = s.withReads n := by
  have hresult : (c.run stamp s).result = .error e := Request.result_run_of_verdict_error hv
  have hplan : (c.request stamp).plan? s = none := by
    rw [Request.plan?_eq_toOption_verdict, hv]
    rfl
  obtain ⟨n, e', -, hrealm⟩ := Request.run_of_plan?_eq_none (c.ruled stamp) hplan
  rw [h.healed e'] at hrealm
  exact ⟨hresult,n,hrealm⟩

structure Realm.Calm (s : Realm) : Prop where
  managed : Managed s
  faults : s.storage.faults = {}

namespace Realm.Calm
variable {s : Realm} {c : Command} {stamp : Stamp}

/-- Where no failure of the store is arranged, a server stays without one whatever it is told. -/
theorem run (h : s.Calm) (c : Command) (stamp : Stamp) : (c.run stamp s).realm.Calm :=
  ⟨h.managed.run (.command c) stamp,Request.faults_run h.faults _⟩

/-- A command that its checks let pass is carried out as its plan describes, whatever the number of reads
that it took. -/
theorem run_of_verdict_ok (h : s.Calm) {p : Plan Answer}
    (hv : (c.request stamp).verdict s = .ok p)
    (fresh : ∀ a name cells, c = .found a name cells →
      stamp.village ∉ s.storage.tables.villages) :
    ∃ tables, s.storage.tables.writeAll p.batch = .ok tables ∧
      (c.run stamp s).result = .ok p.answer ∧
      ∃ n, (c.run stamp s).realm = withReads { s with
        storage := { s.storage with tables := tables, applies := s.storage.applies+1 }
        cache := s.cache.changeAll p.cacheChanges
        directory := p.directoryChange s.directory } n := by
  have hplan : (c.request stamp).plan? s = some p := Request.plan?_eq_some_iff_verdict.mpr hv
  have ha : s.storage.tables.Accepts p.batch :=
    (Command.ComesTo.of_plan? hplan).accepts h.managed.orderly fresh
  obtain ⟨t, ht⟩ := Store.accepts_iff_exists_writeAll.mp ha
  obtain ⟨n, events, hrun⟩ := Request.run_of_plan?_eq_some hplan
  have happly : (s.withReads n).storage.apply p.batch = (_,[],.ok ()) :=
    Storage.apply_of_writeAll h.faults ht
  refine ⟨t,ht, ?_,n, ?_⟩ <;> rw [Command.run, hrun, Plan.run, happly] <;> rfl

/-- What refuses a command is a rule or a taken cell. -/
theorem cause_of_error (h : s.Calm) {e : Error} (fresh : stamp.village ∉ s.storage.tables.villages)
    (he : (c.run stamp s).result = .error e) :
    e.byRule = true ∨ ∃ cell name, e = .conflict cell name := by
  cases hv : (c.request stamp).verdict s with
  | ok p =>
    obtain ⟨-, -, hresult, -⟩ := h.run_of_verdict_ok hv fun _ _ _ _ => fresh
    rw [hresult] at he
    cases he
  | error e' =>
    obtain rfl : e' = e :=
      Except.error.inj ((Request.result_run_of_verdict_error hv).symm.trans he)
    rcases Request.error_of_verdict (c.ruled stamp) hv with hr | hc | hu
    · exact .inl hr
    · exact .inr hc
    · simp [h.faults] at hu

theorem reloadDirectory_eq_ok (h : s.Calm) : s.reloadDirectory.result = .ok () := by
  have hanswer {α : Type} (method : ReadMethod) (value : α) :
      s.storage.answer method value = .ok value := by
    simp [Storage.answer, h.faults]
  simp only [reloadDirectory, loadDirectory, Storage.rows, hanswer]

end Realm.Calm

namespace Error

def isFault : Error → Bool
  | persistence _ => true
  | e => e.isBug

/-- A rule is broken by the caller, and neither by the store nor by a fault in the program. -/
theorem isFault_of_byRule {e : Error} (h : e.byRule = true) : e.isFault = false := by
  cases e <;> first | rfl | cases h

end Error

/-- In every state that a server comes to, as long as no failure of the store is arranged, no operation
fails for the store or for a broken invariant, whether it is a command, a comparison, a reload or a
restart. The batch of every command is accepted: each of its writes finds the row it needs, or its place
free, at the moment it is applied, so a command that its checks let pass is carried out. -/
theorem Managed.never_refused {s : Realm} (h : Managed s) (hf : s.storage.faults = {})
    {stamp : Stamp} (fresh : stamp.village ∉ s.storage.tables.villages) :
    (∀ (o : Operation) e, (o.run stamp s).result = .error e → e.isFault = false) ∧
    (∀ (c : Command) p, (c.request stamp).plan? s = some p →
      s.storage.tables.Accepts p.batch ∧ (c.run stamp s).result = .ok p.answer) ∧
    s.restart.result = .ok () ∧
    (∀ player requested e, s.quote player requested = .error e → e.isFault = false) ∧
    ∀ cell, s.storage.historyOf cell = .ok (s.storage.tables.historyOf cell) := by
  have hcalm : s.Calm := ⟨h,hf⟩
  have hunread : ∀ method ∈ s.storage.faults.unreadable,
      method = .claimGet ∨ method = .historyForCell := by
    simp [hf]
  obtain ⟨hreload, -, hrestart, -⟩ := h.reload_restart_eq hunread
  refine ⟨?_, ?_, hrestart, ?_, ?_⟩
  · intro o e he
    cases o with
    | command c =>
      rcases hcalm.cause_of_error fresh he with hr | ⟨cell,name,rfl⟩
      · exact Error.isFault_of_byRule hr
      · rfl
    | verify cell =>
      rcases s.verify_cases cell with ⟨hu,-,-⟩ | ⟨-,-,hr⟩
      · simp [hf] at hu
      · rw [Operation.run, Outcome.map, hr] at he
        cases he
    | reload =>
      rw [Operation.run, Outcome.map, hreload] at he
      cases he
    | reloadDirectory =>
      rw [Operation.run, Outcome.map, hcalm.reloadDirectory_eq_ok] at he
      cases he
    | trust | untrust | elevate | demote | refuseAllBatches | failNextBatchAt | failReads => cases he
  · intro c p hp
    have hv : (c.request stamp).verdict s = .ok p := Request.plan?_eq_some_iff_verdict.mp hp
    have ha : s.storage.tables.Accepts p.batch :=
      (Command.ComesTo.of_plan? hp).accepts h.orderly fun _ _ _ _ => fresh
    obtain ⟨-, -, hresult, -⟩ := hcalm.run_of_verdict_ok hv fun _ _ _ _ => fresh
    exact ⟨ha,hresult⟩
  · intro player requested e he
    exact Error.isFault_of_byRule (s.byRule_of_quote player he)
  · intro cell
    simp [Storage.historyOf, Storage.answer, hf]

/-- The batch that ends the village has eight writes, and all of them are accepted. -/
theorem Sample.parish_never_refused :
    Managed parish ∧
    parish.storage.faults = {} ∧
    (stamp 17).village ∉ parish.storage.tables.villages ∧
    ∃ p, ((Command.disband ann oakham).request (stamp 17)).plan? parish = some p ∧
      p.batch.length = 8 ∧ parish.storage.tables.Accepts p.batch ∧
      ((Command.disband ann oakham).run (stamp 17) parish).result = .ok .done := by
  have hf : parish.storage.faults = {} := by decide +kernel
  have hfresh : (stamp 17).village ∉ parish.storage.tables.villages := by decide +kernel
  have hplan : (((Command.disband ann oakham).request (stamp 17)).plan? parish).map
      (fun p => (p.batch.length,p.answer)) = some (8,.done) := by
    decide +kernel
  obtain ⟨p, hp, hpair⟩ := Option.map_eq_some_iff.mp hplan
  obtain ⟨hlength, hanswer⟩ := Prod.mk.inj hpair
  obtain ⟨-, haccepts, -⟩ := managed_parish.never_refused hf hfresh
  obtain ⟨ha, hresult⟩ := haccepts _ p hp
  exact ⟨managed_parish,hf,hfresh,p,hp,hlength,ha,hanswer ▸ hresult⟩

end Freehold
