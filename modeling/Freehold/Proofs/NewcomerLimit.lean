import Freehold.Proofs.Ownership
import Freehold.Proofs.Passing
import Mathlib.Data.List.Perm.Subperm

/-!
The limit for newcomers. It is looked at when a claim is made, and at no other time. But a player
gets personal land by his own claims and by ending his village only, one cell with each claim, so a
player who makes every claim as a newcomer and ends no village is never beyond the limit, whatever
others do.
-/

namespace Freehold
open Std

/-! ### The cells of a player -/

def Store.cellsOf (t : Store) (player : PlayerId) : List Cell :=
  t.claims.keys.filter fun cell => t.ownerOf cell = some (.personal player)

namespace Store
variable {t t' : Store} {player : PlayerId} {cell : Cell}

/-- The cells of a player are those that he owns himself, so that village land does not count. -/
theorem mem_cellsOf : cell ∈ t.cellsOf player ↔ t.ownerOf cell = some (.personal player) := by
  rw [cellsOf, List.mem_filter, decide_eq_true_iff, and_iff_right_iff_imp]
  intro ho
  obtain ⟨claim, hclaim, -⟩ := Option.map_eq_some_iff.mp ho
  exact ExtTreeMap.mem_keys.mpr (mem_of_getElem?_eq_some hclaim)

theorem nodup_cellsOf (t : Store) (player : PlayerId) : (t.cellsOf player).Nodup := by
  refine List.Pairwise.filter _ (ExtTreeMap.distinct_keys.imp ?_)
  rintro a b hab rfl
  exact hab ReflCmp.compare_self

/-- A player's land becomes larger by no more than the cells that he gains. -/
theorem length_cellsOf_le {gained : List Cell}
    (h : ∀ cell, t'.ownerOf cell = some (.personal player) →
      t.ownerOf cell = some (.personal player) ∨ cell ∈ gained) :
    (t'.cellsOf player).length ≤ (t.cellsOf player).length+gained.length := by
  have hsub : t'.cellsOf player ⊆ t.cellsOf player ++ gained := by
    intro cell hc
    rw [List.mem_append, mem_cellsOf]
    exact h cell (mem_cellsOf.mp hc)
  rw [← List.length_append]
  exact (List.subperm_of_subset (t'.nodup_cellsOf player) hsub).length_le

end Store

/-- The count that is kept beside the claims is the number of cells of the player in the store. -/
theorem Realm.InSync.countOf_eq {s : Realm} (h : s.InSync) (he : s.cache.Exact)
    (player : PlayerId) :
    s.cache.countOf player = (s.storage.tables.cellsOf player).length := by
  have howner (claim : Claim) :
      claim.owner.player? = some player ↔ claim.owner = .personal player := by
    cases claim.owner <;> simp [Owner.player?]
  have hmem (cell : Cell) :
      cell ∈ s.cache.cellsOf player ↔ cell ∈ s.storage.tables.cellsOf player := by
    rw [Cache.cellsOf, ExtTreeSet.mem_toList, he.players.exact, Store.mem_cellsOf,
      h.ownerOf_eq_some_iff]
    simp only [howner, Cache.owner?]
  have hnodup : (s.cache.cellsOf player).Nodup := nodup_toList _
  have hcells : (s.cache.cellsOf player).Perm (s.storage.tables.cellsOf player) :=
    (List.perm_ext_iff_of_nodup hnodup (Store.nodup_cellsOf _ _)).mpr hmem
  rw [← hcells.length_eq, Cache.cellsOf, ExtTreeSet.length_toList]
  rfl

/-! ### How a player gets land -/

namespace Command

def unlimited : Command → Bool
  | claim _ _ _ | disband _ _ => true
  -- Nobody looks at the limit of a veteran.
  | claimWithLimit _ _ _ veteran | claimNext _ _ _ veteran => veteran
  | _ => false

inductive Limited (cell : Cell) : Command → Prop where
  | claimWithLimit (a : Actor) (cost : Cost) : Limited cell (.claimWithLimit a cell cost false)
  | claimNext (a : Actor) (requested : Option Tier) :
    Limited cell (.claimNext a cell requested false)

variable {c : Command} {stamp : Stamp} {s : Realm} {cell other : Cell} {p : Plan Answer}

theorem Limited.unique (h : c.Limited cell) (h' : c.Limited other) : cell = other := by
  cases h <;> cases h' <;> rfl

/-- Land becomes a player's only by a command of his own, and then as an unlimited or a limited
gain. -/
theorem Warrants.limited_of_personal {old : Option Owner} {player : PlayerId} {g : Ground}
    (h : c.Warrants stamp s cell old (some (.personal player)) g) :
    c.actor.id = player ∧ (c.unlimited = true ∨ c.Limited cell) := by
  cases h with
  | claim | disbanding => exact ⟨rfl,.inl rfl⟩
  | @claimWithLimit a cost veteran =>
    cases veteran with
    | true => exact ⟨rfl,.inl rfl⟩
    | false => exact ⟨rfl,.inr (.claimWithLimit a cost)⟩
  | @claimNext a requested veteran =>
    cases veteran with
    | true => exact ⟨rfl,.inl rfl⟩
    | false => exact ⟨rfl,.inr (.claimNext a requested)⟩

/-- A claim that is made as a newcomer finds the player below the limit. -/
theorem ComesTo.room (hc : c.ComesTo stamp s p) (hl : c.Limited cell) :
    s.config.claims.checkLimit (s.cache.countOf c.actor.id) false = .ok () := by
  cases hl with
  | claimWithLimit =>
    cases hc with
    | claimWithLimit may => exact may.room false rfl
  | claimNext =>
    cases hc with
    | claimNext _ may => exact may.room false rfl

end Command

/-- The limit is checked against the cells that are owned before the claim. -/
theorem ClaimConfig.checkLimit_eq_ok_iff {config : ClaimConfig} {count : Nat} {veteran : Bool} :
    config.checkLimit count veteran = .ok () ↔
      ∀ limit, config.claimLimit veteran = some limit → count < limit.toNat := by
  unfold checkLimit
  cases config.claimLimit veteran with
  | none => simp
  | some limit =>
    by_cases hfull : limit.toNat ≤ count
    · simp [hfull]
    · simp [hfull, Nat.lt_of_not_le hfull]

def passesLimit (player : PlayerId) : Operation × Except Error Answer → Bool
  | (.command c,.ok _) => c.unlimited && c.actor.id = player
  | _ => false

/-! ### Runs -/

namespace Managed
variable {s : Realm} {player : PlayerId} {limit : UInt64}

/-- One operation leaves a newcomer with what he had, or with less, or with no more than the limit.
-/
theorem length_cellsOf_run_le (h : Managed s) (hl : s.config.claims.newcomerLimit = some limit)
    (o : Operation) (stamp : Stamp) (hn : passesLimit player (o,(o.run stamp s).result) = false) :
    ((o.run stamp s).realm.storage.tables.cellsOf player).length ≤
      max (s.storage.tables.cellsOf player).length limit.toNat := by
  rcases h.inSync.run_cases o stamp with hr | ⟨c,p,rfl,hc,hp⟩
  · rw [hr.tables]
    exact Nat.le_max_left _ _
  · let t : Store := ((Operation.command c).run stamp s).realm.storage.tables
    obtain ⟨cells, old, new, entries, hm, hw⟩ := hc.moves h.inSync h.rowsKeyed hp.written
    have hresult : ((Operation.command c).run stamp s).result = .ok p.answer := hp.result
    rw [hresult] at hn
    -- A cell that is new to the player is the one that the command claims as a newcomer.
    have hgained (cell : Cell) (hafter : t.ownerOf cell = some (.personal player))
        (hbefore : s.storage.tables.ownerOf cell ≠ some (.personal player)) :
        c.actor.id = player ∧ c.Limited cell := by
      have hcell : cell ∈ cells := hm.mem_of_ownerOf_ne fun heq => hbefore (heq.trans hafter)
      obtain rfl : new = some (.personal player) := (hm.after cell hcell).symm.trans hafter
      obtain ⟨g, hg⟩ := hw cell hcell
      obtain ⟨hactor, hkind⟩ := hg.limited_of_personal
      refine ⟨hactor,hkind.resolve_left fun hfree => ?_⟩
      simp [passesLimit, hfree, hactor] at hn
    by_cases hgain : ∃ cell, t.ownerOf cell = some (.personal player) ∧
        s.storage.tables.ownerOf cell ≠ some (.personal player)
    · obtain ⟨cell, hafter, hbefore⟩ := hgain
      obtain ⟨hactor, hlimited⟩ := hgained cell hafter hbefore
      have hroom := ClaimConfig.checkLimit_eq_ok_iff.mp (hc.room hlimited) limit hl
      rw [hactor, h.inSync.countOf_eq h.exact] at hroom
      have hone : (t.cellsOf player).length ≤
          (s.storage.tables.cellsOf player).length+[cell].length := by
        apply Store.length_cellsOf_le
        intro other ho
        by_cases hold : s.storage.tables.ownerOf other = some (.personal player)
        · exact .inl hold
        · obtain ⟨-, hother⟩ := hgained other ho hold
          exact .inr (List.mem_singleton.mpr (hother.unique hlimited))
      rw [List.length_singleton] at hone
      have hle : (t.cellsOf player).length ≤ limit.toNat := by omega
      exact Nat.le_trans hle (Nat.le_max_right _ _)
    · push Not at hgain
      have hnone : (t.cellsOf player).length ≤
          (s.storage.tables.cellsOf player).length+([] : List Cell).length :=
        Store.length_cellsOf_le fun cell hcell => .inl (hgain cell hcell)
      exact Nat.le_trans hnone (Nat.le_max_left _ _)

/-- In a run, too, a newcomer never gets beyond the limit, unless he was beyond it before. -/
theorem length_cellsOf_runAll_le (h : Managed s)
    (hl : s.config.claims.newcomerLimit = some limit) (operations : List (Operation × Stamp))
    (hn : ∀ x ∈ s.answers operations, passesLimit player x = false) :
    ((s.runAll operations).storage.tables.cellsOf player).length ≤
      max (s.storage.tables.cellsOf player).length limit.toNat := by
  induction operations generalizing s with
  | nil => exact Nat.le_max_left _ _
  | cons step operations ih =>
    obtain ⟨o, stamp⟩ := step
    obtain ⟨hfirst, hrest⟩ := List.forall_mem_cons.mp hn
    have hconfig : (o.run stamp s).realm.config = s.config := o.config_run stamp s
    have hstep := h.length_cellsOf_run_le hl o stamp hfirst
    have hlater := ih (h.run o stamp) (hconfig ▸ hl) hrest
    exact Nat.le_trans hlater (Nat.max_le.mpr ⟨hstep,Nat.le_max_right _ _⟩)

end Managed

/-- In every state of a run from the start of a server on an empty store, a player who was granted
no claim but as a newcomer, and for whom no village was ended, owns no more cells than the limit.
This is the number of his cells in the store, and the one that the cache tells. What others do, what
is refused and what the store fails to do does not count. -/
theorem Realm.newcomers_bounded {s : Realm} (empty : s.storage.tables = {})
    (started : s.start.result = .ok ()) {limit : UInt64}
    (bounded : s.config.claims.newcomerLimit = some limit) {player : PlayerId}
    {operations : List (Operation × Stamp)}
    (newcomer : ∀ x ∈ s.start.realm.answers operations, passesLimit player x = false)
    {before : List (Operation × Stamp)} (part : before <+: operations) :
    let t := s.start.realm.runAll before
    (t.storage.tables.cellsOf player).length ≤ limit.toNat ∧
      t.cache.countOf player = (t.storage.tables.cellsOf player).length := by
  intro t
  have hm : Managed s.start.realm := .start empty started
  have hlimit : s.start.realm.config.claims.newcomerLimit = some limit := by
    rw [s.config_start]
    exact bounded
  have hnone : (s.start.realm.storage.tables.cellsOf player).length = 0 := by
    rw [(recalls_start started).tables]
    exact congrArg (fun t : Store => (t.cellsOf player).length) empty
  obtain ⟨rest, rfl⟩ := part
  have hearly : ∀ x ∈ s.start.realm.answers before, passesLimit player x = false := by
    intro x hx
    apply newcomer
    rw [answers_append]
    exact List.mem_append_left _ hx
  have hle := hm.length_cellsOf_runAll_le hlimit before hearly
  rw [hnone, Nat.max_eq_right (Nat.zero_le _)] at hle
  have hend : Managed t := hm.runAll before
  exact ⟨hle,hend.inSync.countOf_eq hend.exact player⟩

namespace Sample

def outpost : Realm := { config := tight 6 (some 2) }

def pioneering : List (Operation × Stamp) :=
  [(.command (.claimWithLimit ann (road 0) (.free 1) false),stamp 1),
    (.command (.claimNext ann (road 1) none false),stamp 2),
    (.command (.claimNext ann (road 2) none false),stamp 3),
    (.command (.found ann "Oakham" [road 0,road 1]),stamp 4),
    (.command (.claimNext ann (road 9) none false),stamp 5),
    (.command (.expand ann (road 2) (.paid .ironIngot 64)),stamp 6),
    (.failNextBatchAt 0,stamp 7),
    (.command (.claimNext ann (road 10) none false),stamp 8),
    (.command (.claimNext ann (road 10) none false),stamp 9),
    (.command (.claim ann (road 9) (.free 5)),stamp 10),
    (.command (.claim ben (road 20) (.free 1)),stamp 11),
    (.elevate ben.id,stamp 12),
    (.command (.unclaim ben (road 9) none),stamp 13),
    (.reload,stamp 14)]

def lastClaims : List (Operation × Stamp) :=
  [(.command (.claimNext ann (road 11) (some .ironIngot) false),stamp 15),
    (.command (.claimNext ann (road 12) (some .ironIngot) false),stamp 16)]

/-- Ann claims up to the limit. She founds a village, which makes room for two more cells, adds a
third cell to it, and claims again up to the limit, past a batch that fails. Ben claims too, takes a
cell away from her, and the cache is loaded again. -/
theorem pioneering_newcomers_bounded :
    outpost.storage.tables = {} ∧ outpost.start.result = .ok () ∧
    outpost.config.claims.newcomerLimit = some 2 ∧
    (∀ x ∈ outpost.start.realm.answers (pioneering ++ lastClaims),
      passesLimit ann.id x = false) ∧
    pioneering <+: pioneering ++ lastClaims ∧
    ((outpost.start.realm.runAll pioneering).storage.tables.cellsOf ann.id).length ≤ 2 ∧
    (outpost.start.realm.runAll pioneering).cache.countOf ann.id = 1 ∧
    (outpost.start.realm.runAll (pioneering ++ lastClaims)).cache.countOf ann.id = 2 := by
  have hnew : ∀ x ∈ outpost.start.realm.answers (pioneering ++ lastClaims),
      passesLimit ann.id x = false := by
    decide +kernel
  have hpart : pioneering <+: pioneering ++ lastClaims := List.prefix_append _ _
  obtain ⟨hle, -⟩ := Realm.newcomers_bounded (s := outpost) rfl rfl rfl hnew hpart
  exact ⟨rfl,rfl,rfl,hnew,hpart,hle,by decide +kernel,by decide +kernel⟩

end Sample

end Freehold
