import Freehold.Proofs.Sync

/-!
Free slots. A player uses them in order and none of them twice: the mark of a player counts the free
claims that he was granted, and only a claim with the next slot is granted for free.
-/

namespace Freehold
open Std

namespace Marks
variable {claim : Claim} {marks : Marks} {player other : PlayerId} {slot : UInt32}

theorem raise_of_none (h : claim.freeSlot? = none) : marks.raise claim = marks := by
  rw [raise, h]

/-- A free claim raises the mark of its owner to its slot. -/
theorem of_raise_self (h : claim.freeSlot? = some (player,slot)) :
    (marks.raise claim).of player = max (marks.of player) slot := by
  rw [raise, h, of, ExtTreeMap.getElem?_insert_self]
  rfl

theorem of_raise_of_ne (h : claim.freeSlot? = some (player,slot)) (hne : player ≠ other) :
    (marks.raise claim).of other = marks.of other := by
  rw [raise, h, of, ExtTreeMap.getElem?_insert]
  simp [hne, of]

/-- No claim lowers a mark. -/
theorem of_le_of_raise (marks : Marks) (claim : Claim) (player : PlayerId) :
    marks.of player ≤ (marks.raise claim).of player := by
  cases hslot : claim.freeSlot? with
  | none =>
    rw [raise_of_none hslot]
    exact UInt32.le_refl _
  | some use =>
    obtain ⟨other, slot⟩ := use
    by_cases hp : other = player
    · subst hp
      have hmax : max (marks.of other) slot =
          if marks.of other ≤ slot then slot else marks.of other := rfl
      rw [of_raise_self hslot, hmax]
      split
      · assumption
      · exact UInt32.le_refl _
    · rw [of_raise_of_ne hslot hp]
      exact UInt32.le_refl _

end Marks

/-- A cost that is admitted for a personal claim either has no slot and has to be paid, or has the
slot after the mark, which is within the quota. -/
theorem Realm.MayClaim.cost_cases {s : Realm} {actor : PlayerId} {cell : Cell} {cost : Cost}
    {veteran : Option Bool} (h : s.MayClaim actor cell cost veteran) :
    (cost.isFree = false ∧ cost.freeSlot = none) ∨
      ∃ slot, cost.isFree = true ∧ cost.freeSlot = some slot ∧
        slot.toNat = (s.cache.markOf actor).toNat+1 ∧
        slot.toNat ≤ s.config.claims.freeQuota.toNat := by
  obtain ⟨form, offered, -, hslot, -⟩ := h
  unfold Cost.checkForm at form
  cases hf : cost.isFree with
  | false =>
    left
    cases hs : cost.freeSlot with
    | none => exact ⟨rfl,rfl⟩
    | some slot => simp [hf, hs] at form
  | true =>
    right
    cases hs : cost.freeSlot with
    | none => simp [hf, hs] at form
    | some slot =>
      have hkind : cost.kind = .free := of_decide_eq_true hf
      have hquota : ¬s.config.claims.freeQuota < slot := by
        intro hlt
        simp [ClaimConfig.checkOffered, hkind, hs, hlt] at offered
      have hpos : slot.toNat ≠ 0 := by
        intro h0
        have hz : slot = 0 := UInt32.toNat_inj.mp h0
        simp [hf, hs, hz] at form
      -- The number after the highest one would be zero again, which is no slot.
      have hnext : slot.toNat = ((s.cache.markOf actor).toNat+1)%2^32 := by
        rw [hslot slot hs, UInt32.toNat_add]
        rfl
      have hbound : (s.cache.markOf actor).toNat < 2^32 := UInt32.toNat_lt _
      exact ⟨slot,rfl,rfl,by omega,UInt32.not_lt.mp hquota⟩

def Command.forSelf : Command → Bool
  | claim _ _ _ | claimWithLimit _ _ _ _ | claimNext _ _ _ _ => true
  | _ => false

/-- Only a claim for oneself can raise a mark. -/
theorem Command.ComesTo.forSelf_cases {stamp : Stamp} {s : Realm} {c : Command} {p : Plan Answer}
    (h : c.ComesTo stamp s p) :
    (c.forSelf = true ∧ ∃ cell cost veteran, p = .personal c.actor cell cost stamp ∧
      s.MayClaim c.actor.id cell cost veteran) ∨
    (c.forSelf = false ∧ ∀ marks, p.cacheChanges.foldl CacheChange.onMarks marks = marks) := by
  -- Apart from new claims, plans remove claims or write them again.
  have hupsert (claims : List Claim) (f : Claim → Claim) (marks : Marks) :
      (claims.map fun c => .upsert (f c)).foldl CacheChange.onMarks marks = marks := by
    apply CacheChange.foldl_onMarks_eq_self
    rw [List.forall_mem_map]
    exact fun _ _ _ => rfl
  have hremove (claims : List Claim) (marks : Marks) :
      (claims.map fun c => .remove c.cell).foldl CacheChange.onMarks marks = marks := by
    apply CacheChange.foldl_onMarks_eq_self
    rw [List.forall_mem_map]
    exact fun _ _ _ => rfl
  cases h with
  | claim may | claimWithLimit may | claimNext _ may => exact .inl ⟨rfl,_,_,_,rfl,may⟩
  | found | disband => exact .inr ⟨rfl,hupsert _ _⟩
  | rename =>
    refine .inr ⟨rfl, fun marks => ?_⟩
    rw [Plan.cacheChanges_map]
    simp only [Plan.rename, List.map_map]
    exact hupsert _ _ marks
  | returnCells => exact .inr ⟨rfl,hremove _⟩
  | unclaim | expand | transfer | addMember | kick | setRole | leave | grant | revoke =>
    exact .inr ⟨rfl,fun _ => rfl⟩

def freeClaim? (player : PlayerId) : Operation × Except Error Answer → Option Claim
  | (.command c,.ok (.claim claim)) =>
    if c.forSelf ∧ c.actor.id = player ∧ claim.cost.isFree then some claim else none
  | _ => none

theorem freeClaim?_of_not_granted {x : Operation × Except Error Answer} {player : PlayerId}
    (h : ∀ c answer, x ≠ (.command c,.ok answer)) : freeClaim? player x = none := by
  unfold freeClaim?
  split
  · exact absurd rfl (h _ _)
  · rfl

/-- No command but a claim for oneself is granted a free claim. -/
theorem freeClaim?_of_not_forSelf {c : Command} {player : PlayerId}
    {result : Except Error Answer} (h : c.forSelf = false) :
    freeClaim? player (.command c,result) = none := by
  unfold freeClaim?
  split
  · next heq =>
    cases heq
    simp [h]
  · rfl

def slotsGranted (player : PlayerId) (answers : List (Operation × Except Error Answer)) :
    List (Option Nat) :=
  (answers.filterMap (freeClaim? player)).map (·.cost.freeSlot.map UInt32.toNat)

inductive Realm.MarkAfter (s : Realm) (player : PlayerId) (x : Operation × Except Error Answer) :
    UInt32 → Prop where
  | kept (none : freeClaim? player x = none) : MarkAfter s player x (s.cache.markOf player)
  -- A free claim has the slot after the mark, within the quota.
  | raised {claim : Claim} {slot : UInt32} (granted : freeClaim? player x = some claim)
    (uses : claim.cost.freeSlot = some slot)
    (next : slot.toNat = (s.cache.markOf player).toNat+1)
    (quota : slot.toNat ≤ s.config.claims.freeQuota.toNat) : MarkAfter s player x slot

/-- A claim for oneself raises the mark of the one who makes it, if it is free. -/
theorem Realm.MayClaim.markAfter {s : Realm} {c : Command} {cell : Cell} {cost : Cost}
    {veteran : Option Bool} (may : s.MayClaim c.actor.id cell cost veteran)
    (hself : c.forSelf = true) (player : PlayerId) (now : Timestamp) :
    let claim : Claim := .make cell (.personal c.actor.id) c.actor.name cost now
    s.MarkAfter player (.command c,.ok (.claim claim)) ((s.cache.marks.raise claim).of player) := by
  intro claim
  have hanswer : freeClaim? player (.command c,.ok (.claim claim)) =
      if c.actor.id = player ∧ cost.isFree then some claim else none := by
    simp [freeClaim?, hself, claim, Claim.make]
  have hslot : claim.freeSlot? = cost.freeSlot.map (c.actor.id,·) := by
    cases hs : cost.freeSlot <;> simp [claim, Claim.freeSlot?, Claim.make, hs]
  rcases may.cost_cases with ⟨hpaid,hnone⟩ | ⟨slot,hfree,hsome,hnext,hquota⟩
  · rw [hnone] at hslot
    rw [Marks.raise_of_none hslot]
    exact .kept (by simp [hanswer, hpaid])
  · rw [hsome] at hslot
    by_cases hp : c.actor.id = player
    · -- The slot is above the mark, so it takes the place of the mark.
      subst hp
      have hle : s.cache.marks.of c.actor.id ≤ slot := by
        rw [UInt32.le_iff_toNat_le, hnext, Cache.markOf]
        exact Nat.le_succ _
      have hmark : (s.cache.marks.raise claim).of c.actor.id = slot := by
        rw [Marks.of_raise_self hslot]
        exact if_pos hle
      rw [hmark]
      exact .raised (hanswer.trans (if_pos ⟨rfl,hfree⟩)) hsome hnext hquota
    · rw [Marks.of_raise_of_ne hslot hp]
      exact .kept (by simp [hanswer, hp])

/-- What a plan makes of the marks goes with the answer to its command. -/
theorem Command.ComesTo.markAfter {stamp : Stamp} {s : Realm} {c : Command} {p : Plan Answer}
    (h : c.ComesTo stamp s p) (player : PlayerId) :
    s.MarkAfter player (.command c,.ok p.answer)
      ((p.cacheChanges.foldl CacheChange.onMarks s.cache.marks).of player) := by
  rcases h.forSelf_cases with ⟨hself,cell,cost,veteran,rfl,may⟩ | ⟨hself,hkept⟩
  · exact may.markAfter hself player stamp.now
  · rw [hkept]
    exact .kept (freeClaim?_of_not_forSelf hself)

namespace Realm.InSync
variable {s t : Realm}

theorem markOf_eq (h : s.InSync) (player : PlayerId) :
    s.cache.markOf player = s.storage.tables.marks.of player := by
  rw [Cache.markOf, h.marks]

theorem markOf_recalls (h : s.InSync) (hr : s.Recalls t) (player : PlayerId) :
    t.cache.markOf player = s.cache.markOf player := by
  rw [(h.recalls hr).markOf_eq, hr.tables, h.markOf_eq]

/-- An operation leaves a mark as it is, unless its answer grants the player a free claim. The claim
has the slot after the mark, within the quota, and this is his mark from then on. -/
theorem markAfter_run (h : s.InSync) (o : Operation) (stamp : Stamp) (player : PlayerId) :
    s.MarkAfter player (o,(o.run stamp s).result)
      ((o.run stamp s).realm.cache.markOf player) := by
  rcases h.granted_cases o stamp with ⟨hr,hnot⟩ | ⟨c,p,rfl,hc,hp⟩
  · rw [h.markOf_recalls hr player]
    exact .kept (freeClaim?_of_not_granted hnot)
  · have hresult : (Operation.run stamp s (.command c)).result = .ok p.answer := hp.result
    have hcache : (Operation.run stamp s (.command c)).realm.cache =
        s.cache.changeAll p.cacheChanges := hp.cache
    rw [hresult, hcache, Cache.markOf, Cache.marks_changeAll]
    exact hc.markAfter player

/-- The slots that a player is granted from here on are the next ones, up to his mark in the end. -/
theorem slots_runAll (h : s.InSync) (operations : List (Operation × Stamp)) (player : PlayerId)
    (hm : (s.cache.markOf player).toNat ≤ s.config.claims.freeQuota.toNat) :
    ∃ k, slotsGranted player (s.answers operations) =
        (List.range' ((s.cache.markOf player).toNat+1) k).map some ∧
      ((s.runAll operations).cache.markOf player).toNat = (s.cache.markOf player).toNat+k ∧
      (s.cache.markOf player).toNat+k ≤ s.config.claims.freeQuota.toNat := by
  induction operations generalizing s with
  | nil => exact ⟨0,rfl,rfl,hm⟩
  | cons step operations ih =>
    obtain ⟨o, stamp⟩ := step
    let t : Realm := (o.run stamp s).realm
    have ht : t.InSync := h.run o stamp
    have hconfig : t.config = s.config := o.config_run stamp s
    have hstep := h.markAfter_run o stamp player
    change s.MarkAfter player _ (t.cache.markOf player) at hstep
    generalize hmark : t.cache.markOf player = mark at hstep
    cases hstep with
    | kept hnone =>
      have hrec := ih ht (by rw [hmark, hconfig]; exact hm)
      rw [hmark, hconfig] at hrec
      obtain ⟨k, hslots, hlast, hk⟩ := hrec
      refine ⟨k, ?_, hlast, hk⟩
      rw [slotsGranted, Realm.answers, List.filterMap_cons_none hnone]
      exact hslots
    | raised hsome hslot hnext hquota =>
      -- The slot after the mark is granted first. The rest start from the mark that it is now.
      have hrec := ih ht (by rw [hmark, hconfig]; exact hquota)
      rw [hmark, hconfig, hnext] at hrec
      obtain ⟨k, hslots, hlast, hk⟩ := hrec
      refine ⟨k+1, ?_, by rw [← Nat.add_assoc, Nat.add_right_comm]; exact hlast, by omega⟩
      rw [slotsGranted, Realm.answers, List.filterMap_cons_some hsome, List.map_cons, hslot,
        Option.map_some, hnext, List.range'_succ, List.map_cons]
      exact congrArg _ hslots

end Realm.InSync

/-- In a run of a server that was started on an empty store, the slots of the free claims that a
player is granted are the numbers from 1 to some `k` within the quota, in this order. His mark is `k`
in the end, in the cache and in the store, so as many free claims are left to him as the quota is
larger than that. -/
theorem Realm.free_slots_in_order {s : Realm} (empty : s.storage.tables = {})
    (started : s.start.result = .ok ()) (operations : List (Operation × Stamp))
    (player : PlayerId) :
    let t := s.start.realm.runAll operations
    ∃ k ≤ s.config.claims.freeQuota.toNat,
      slotsGranted player (s.start.realm.answers operations) = (List.range' 1 k).map some ∧
      (t.cache.markOf player).toNat = k ∧ (t.storage.tables.marks.of player).toNat = k ∧
      t.config.claims.freeRemaining (t.cache.markOf player) =
        s.config.claims.freeQuota.toNat-k := by
  intro t
  have hmanaged : Managed s.start.realm := .start empty started
  have hsync : s.start.realm.InSync := hmanaged.inSync
  have hzero : (s.start.realm.cache.markOf player).toNat = 0 := by
    have htables : s.start.realm.storage.tables = {} :=
      (Realm.recalls_start started).tables.trans empty
    rw [Cache.markOf, hsync.marks, htables]
    rfl
  have hconfig : s.start.realm.config = s.config := s.config_start
  obtain ⟨k, hslots, hmark, hk⟩ := hsync.slots_runAll operations player (by omega)
  rw [hzero, Nat.zero_add] at hslots hmark hk
  have hstore : t.storage.tables.marks = t.cache.marks :=
    (hmanaged.runAll operations).inSync.marks.symm
  refine ⟨k, hconfig ▸ hk, hslots, hmark, ?_, ?_⟩
  · rw [hstore]
    exact hmark
  · rw [ClaimConfig.freeRemaining, hmark, Realm.config_runAll, hconfig]

namespace Sample

def attempts : List (Operation × Stamp) :=
  [(.command (.claim ann (road 0) (.free 2)),stamp 1),
    (.failNextBatchAt 0,stamp 2),
    (.command (.claim ann (road 0) (.free 1)),stamp 3),
    (.command (.claim ann (road 0) (.free 1)),stamp 4),
    (.command (.claim ann (road 1) (.free 1)),stamp 5),
    (.command (.unclaim ann (road 0) none),stamp 6),
    (.reload,stamp 7),
    (.command (.claimNext ann (road 0) none false),stamp 8),
    (.command (.claim ann (road 1) (.free 3)),stamp 9)]

def frugal : Realm := { config := tight 2 none }

/-- Ann tries the second slot too early, the first one while the store fails and again when she has
used it up, and the third one, which the quota does not allow. -/
theorem attempts_free_slots_in_order :
    frugal.storage.tables = {} ∧ frugal.start.result = .ok () ∧
    slotsGranted ann.id (frugal.start.realm.answers attempts) = [some 1,some 2] ∧
    (frugal.start.realm.runAll attempts).storage.tables.marks.of ann.id = 2 ∧
    frugal.config.claims.freeRemaining
      ((frugal.start.realm.runAll attempts).cache.markOf ann.id) = 0 := by
  obtain ⟨k, -, hslots, hmark, hstore, hleft⟩ :=
    Realm.free_slots_in_order (s := frugal) rfl rfl attempts ann.id
  have htwo : (frugal.start.realm.runAll attempts).cache.markOf ann.id = 2 := by
    decide +kernel
  have hk : k = 2 := by
    rw [← hmark, htwo]
    rfl
  subst hk
  rw [Realm.config_runAll, Realm.config_start] at hleft
  exact ⟨rfl,rfl,hslots,UInt32.toNat_inj.mp hstore,hleft⟩

end Sample

end Freehold
