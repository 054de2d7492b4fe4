import Mathlib.Data.List.Nodup
import Freehold.KeyedLocks
import Freehold.Proofs.Keyed
import Freehold.Sample

/-!
The table of locks while nobody has to wait. Keys are taken one by one or several at a time, and their
guards are dropped in any order. The table then has one slot for each guard that lives, held by its
only user, and no other: no slot is left behind, and none goes while its key is in use.
-/

namespace Freehold
open Std

inductive LockStep (κ : Type) where
  | acquire (key : κ)
  | acquireAll (keys : List κ)
  | release (place : Nat)

/-- A table of locks and the keys of the guards that live, in the order in which they were taken. -/
structure Guarded (κ : Type) [Ord κ] where
  locks : KeyedLocks κ := {}
  guards : List κ := []

/-- Every key that is asked for is taken, and no other. -/
theorem KeyedLocks.mem_lockOrder_iff {κ : Type} [Ord κ] [TransOrd κ] [LawfulEqOrd κ] {keys : List κ}
    {key : κ} : key ∈ lockOrder keys ↔ key ∈ keys := by
  classical
  rw [lockOrder, ExtTreeSet.mem_toList, ExtTreeSet.mem_ofList, List.contains_iff_mem]

namespace Guarded
variable {κ : Type} [Ord κ] [TransOrd κ]

def step? (g : Guarded κ) : LockStep κ → Option (Guarded κ)
  | .acquire key => (g.locks.acquire? key).map fun locks => ⟨locks,g.guards ++ [key]⟩
  | .acquireAll keys =>
    (g.locks.acquireAll? keys).map fun (locks,taken) => ⟨locks,g.guards ++ taken⟩
  | .release place =>
    g.guards[place]?.map fun key => ⟨g.locks.release key,g.guards.eraseIdx place⟩

def run? (g : Guarded κ) : List (LockStep κ) → Option (Guarded κ)
  | [] => some g
  | step :: steps => (g.step? step).bind fun next => next.run? steps

def Ready (g : Guarded κ) : LockStep κ → Prop
  | .acquire key => key ∉ g.guards
  | .acquireAll keys => ∀ key ∈ keys, key ∉ g.guards
  | .release place => place < g.guards.length

/-- Steps each of which is ready when its turn comes. -/
def Unhindered (g : Guarded κ) : List (LockStep κ) → Prop
  | [] => True
  | step :: steps => g.Ready step ∧ ∀ next ∈ g.step? step, next.Unhindered steps

instance decidableReady [DecidableEq κ] (g : Guarded κ) :
    (step : LockStep κ) → Decidable (g.Ready step)
  | .acquire key => inferInstanceAs (Decidable (key ∉ g.guards))
  | .acquireAll keys => inferInstanceAs (Decidable (∀ key ∈ keys, key ∉ g.guards))
  | .release place => inferInstanceAs (Decidable (place < g.guards.length))

instance decidableUnhindered [DecidableEq κ] :
    (steps : List (LockStep κ)) → (g : Guarded κ) → Decidable (g.Unhindered steps)
  | [], _ => inferInstanceAs (Decidable True)
  | _ :: steps, _ =>
    have _ := decidableUnhindered steps
    inferInstanceAs (Decidable (_ ∧ _))

variable {g : Guarded κ}

theorem Unhindered.of_prefix {before steps : List (LockStep κ)} (h : g.Unhindered steps)
    (hb : before <+: steps) : g.Unhindered before := by
  induction before generalizing g steps with
  | nil => trivial
  | cons step before ih =>
    obtain ⟨rest, rfl⟩ := hb
    exact ⟨h.1,fun next hnext => ih (h.2 next hnext) ⟨rest,rfl⟩⟩

structure Exact (g : Guarded κ) : Prop where
  nodup : g.guards.Nodup
  slots : ∀ key slot, g.locks.slots[key]? = some slot ↔ key ∈ g.guards ∧ slot = ⟨true,1⟩

theorem exact_empty : Exact ({} : Guarded κ) where
  nodup := List.nodup_nil
  slots key slot := by simp

namespace Exact

theorem mem_slots_iff (h : g.Exact) {key : κ} : key ∈ g.locks.slots ↔ key ∈ g.guards := by
  rw [mem_iff_exists_getElem?_eq_some]
  simp only [h.slots, exists_and_left, exists_eq, and_true]

/-- A guard that is dropped takes its slot along, and no other. -/
theorem slots_release (h : g.Exact) {key : κ} (hkey : key ∈ g.guards) :
    (g.locks.release key).slots = g.locks.slots.erase key := by
  have hslot : g.locks.slots[key]? = some ⟨true,1⟩ := (h.slots key _).mpr ⟨hkey,rfl⟩
  rw [KeyedLocks.release, hslot]
  rfl

variable [LawfulEqOrd κ]

theorem active_eq (h : g.Exact) : g.locks.active = g.guards.length := by
  have hkeys : g.locks.slots.keys.Perm g.guards := by
    rw [List.perm_ext_iff_of_nodup ExtTreeMap.nodup_keys h.nodup]
    intro key
    rw [ExtTreeMap.mem_keys, h.mem_slots_iff]
  rw [KeyedLocks.active, ← ExtTreeMap.length_keys, hkeys.length_eq]

/-- A key without a guard is free to take, and its slot is made for it. -/
theorem acquire? (h : g.Exact) {key : κ} (hfree : key ∉ g.guards) :
    ∃ locks, g.locks.acquire? key = some locks ∧ Exact ⟨locks,g.guards ++ [key]⟩ := by
  have hnone : g.locks.slots[key]? = none := by
    rw [Option.eq_none_iff_forall_ne_some]
    intro slot hs
    exact hfree ((h.slots key slot).mp hs).1
  have hslot : g.locks.slot key = {} := by rw [KeyedLocks.slot, hnone, Option.getD_none]
  have hacquire : g.locks.acquire? key =
      some ⟨(g.locks.slots.insert key ⟨false,1⟩).insert key ⟨true,1⟩⟩ := by
    have harrive : (g.locks.arrive key).slot key = ⟨false,1⟩ := by
      rw [KeyedLocks.arrive, KeyedLocks.slot, hslot, ExtTreeMap.getElem?_insert_self,
        Option.getD_some]
    rw [KeyedLocks.acquire?, KeyedLocks.take?, KeyedLocks.isHeld, harrive, if_neg (by decide),
      KeyedLocks.arrive, hslot]
  refine ⟨_, hacquire, ?_, fun k slot => ?_⟩
  · rw [← List.concat_eq_append]
    exact h.nodup.concat hfree
  · rw [getElem?_insert_eq_some_iff, getElem?_insert_eq_some_iff, h.slots]
    grind

/-- Keys without guards are taken in turn. -/
theorem acquireEach? (h : g.Exact) {keys : List κ} (hn : keys.Nodup)
    (hfree : ∀ key ∈ keys, key ∉ g.guards) :
    ∃ locks, g.locks.acquireEach? keys = some locks ∧ Exact ⟨locks,g.guards ++ keys⟩ := by
  induction keys generalizing g with
  | nil => exact ⟨g.locks,rfl,by rw [List.append_nil]; exact h⟩
  | cons key keys ih =>
    obtain ⟨hkey, hn⟩ := List.nodup_cons.mp hn
    obtain ⟨hone, hrest⟩ := List.forall_mem_cons.mp hfree
    obtain ⟨locks, hfirst, hnext⟩ := h.acquire? hone
    have hfree' : ∀ k ∈ keys, k ∉ g.guards ++ [key] := by
      intro k hk hm
      rcases List.mem_append.mp hm with hm | hm
      · exact hrest k hk hm
      · exact hkey (List.mem_singleton.mp hm ▸ hk)
    obtain ⟨last, hlast, hexact⟩ := ih hnext hn hfree'
    rw [List.append_assoc, List.singleton_append] at hexact
    exact ⟨last,by rw [KeyedLocks.acquireEach?, hfirst]; exact hlast,hexact⟩

/-- Several keys are taken at once, each of them once. -/
theorem acquireAll? (h : g.Exact) {keys : List κ} (hfree : ∀ key ∈ keys, key ∉ g.guards) :
    ∃ locks, g.locks.acquireAll? keys = some (locks,KeyedLocks.lockOrder keys) ∧
      Exact ⟨locks,g.guards ++ KeyedLocks.lockOrder keys⟩ := by
  have hnodup : (KeyedLocks.lockOrder keys).Nodup := nodup_toList _
  have hfree' : ∀ key ∈ KeyedLocks.lockOrder keys, key ∉ g.guards :=
    fun key hkey => hfree key (KeyedLocks.mem_lockOrder_iff.mp hkey)
  obtain ⟨locks, hlocks, hexact⟩ := h.acquireEach? hnodup hfree'
  exact ⟨locks,by rw [KeyedLocks.acquireAll?, hlocks]; rfl,hexact⟩

theorem release (h : g.Exact) {place : Nat} (hplace : place < g.guards.length) :
    Exact ⟨g.locks.release g.guards[place],g.guards.eraseIdx place⟩ where
  nodup := h.nodup.eraseIdx place
  slots key slot := by
    -- Another place has another key, as each key has only one guard.
    have hmem : key ∈ g.guards.eraseIdx place ↔ key ∈ g.guards ∧ g.guards[place] ≠ key := by
      rw [List.mem_eraseIdx_iff_getElem, List.mem_iff_getElem]
      constructor
      · rintro ⟨i, hi, hne, rfl⟩
        exact ⟨⟨i,hi,rfl⟩,fun he => hne (h.nodup.getElem_inj_iff.mp he).symm⟩
      · rintro ⟨⟨i, hi, rfl⟩, hne⟩
        exact ⟨i,hi,fun he => hne (by subst he; rfl),rfl⟩
    rw [h.slots_release (List.getElem_mem hplace), getElem?_erase_eq_some_iff, h.slots, hmem]
    grind

/-- A step that is ready can be done, and leaves each guard with its key alone. -/
theorem step? (h : g.Exact) {step : LockStep κ} (hready : g.Ready step) :
    ∃ next, g.step? step = some next ∧ next.Exact := by
  cases step with
  | acquire key =>
    obtain ⟨locks, hlocks, hexact⟩ := h.acquire? hready
    exact ⟨_,by rw [Guarded.step?, hlocks]; rfl,hexact⟩
  | acquireAll keys =>
    obtain ⟨locks, hlocks, hexact⟩ := h.acquireAll? hready
    exact ⟨_,by rw [Guarded.step?, hlocks]; rfl,hexact⟩
  | release place =>
    exact ⟨_,by rw [Guarded.step?, List.getElem?_eq_getElem hready]; rfl,h.release hready⟩

theorem run? (h : g.Exact) {steps : List (LockStep κ)} (hsteps : g.Unhindered steps) :
    ∃ last, g.run? steps = some last ∧ last.Exact := by
  induction steps generalizing g with
  | nil => exact ⟨g,rfl,h⟩
  | cons step steps ih =>
    obtain ⟨hready, hrest⟩ := hsteps
    obtain ⟨next, hnext, hexact⟩ := h.step? hready
    obtain ⟨last, hlast, hend⟩ := ih hexact (hrest next hnext)
    exact ⟨last,by rw [Guarded.run?, hnext]; exact hlast,hend⟩

end Exact

/-- Whatever is taken and dropped, as long as nobody has to wait: after each step every key has at
most one guard that lives, and the table has just the keys of these guards. Several keys that are free
are taken in strictly ascending order, each of them once. A guard that is dropped takes its own entry
along and no other, and with the last guard the table is empty. -/
theorem holds_keys_in_use [LawfulEqOrd κ] {steps before : List (LockStep κ)}
    (unhindered : ({} : Guarded κ).Unhindered steps) (hb : before <+: steps) :
    ∃ g, ({} : Guarded κ).run? before = some g ∧
      g.guards.Nodup ∧ g.locks.active = g.guards.length ∧
      (∀ key, key ∈ g.locks.slots ↔ key ∈ g.guards) ∧
      (∀ keys, (∀ key ∈ keys, key ∉ g.guards) →
        ∃ locks taken, g.locks.acquireAll? keys = some (locks,taken) ∧
          taken.Pairwise (fun a b => compare a b = .lt) ∧ ∀ key, key ∈ taken ↔ key ∈ keys) ∧
      (∀ key ∈ g.guards, (g.locks.release key).slots = g.locks.slots.erase key) ∧
      (g.guards = [] → g.locks.slots = ∅) := by
  obtain ⟨g, hrun, h⟩ := exact_empty.run? (unhindered.of_prefix hb)
  refine ⟨g, hrun, h.nodup, h.active_eq, fun _ => h.mem_slots_iff, ?_, fun _ => h.slots_release, ?_⟩
  · intro keys hfree
    obtain ⟨locks, hlocks, -⟩ := h.acquireAll? hfree
    exact ⟨locks,_,hlocks,ExtTreeSet.ordered_toList,fun _ => KeyedLocks.mem_lockOrder_iff⟩
  · intro hnone
    have hsize : g.locks.active = 0 := by rw [h.active_eq, hnone, List.length_nil]
    exact ExtTreeMap.eq_empty_iff_size_eq_zero.mpr hsize

end Guarded

namespace Sample

def handling : List (LockStep Cell) :=
  [.acquireAll [road 3,road 1,road 2,road 1], .release 1, .acquire (road 7), .acquireAll [road 2],
    .release 0, .release 1, .release 1, .release 0]

/-- Three cells are taken together, one of them named twice, and given up one by one, while others
are taken in between. -/
theorem handling_holds_keys_in_use :
    ({} : Guarded Cell).Unhindered handling ∧
    (∃ g, ({} : Guarded Cell).run? (handling.take 4) = some g ∧
      g.guards = [road 1,road 3,road 7,road 2] ∧ g.locks.active = g.guards.length ∧
      ∀ cell, cell ∈ g.locks.slots ↔ cell ∈ g.guards) ∧
    ∃ g, ({} : Guarded Cell).run? handling = some g ∧ g.guards = [] ∧ g.locks.slots = ∅ := by
  have hunhindered : ({} : Guarded Cell).Unhindered handling := by decide +kernel
  refine ⟨hunhindered, ?_, ?_⟩
  · obtain ⟨g, hrun, -, hactive, hkeys, -⟩ :=
      Guarded.holds_keys_in_use hunhindered (List.take_prefix 4 handling)
    have hguards : (({} : Guarded Cell).run? (handling.take 4)).map (·.guards) =
        some [road 1,road 3,road 7,road 2] := by decide +kernel
    rw [hrun] at hguards
    exact ⟨g,hrun,Option.some.inj hguards,hactive,hkeys⟩
  · obtain ⟨g, hrun, -, -, -, -, -, hempty⟩ :=
      Guarded.holds_keys_in_use hunhindered (List.prefix_refl handling)
    have hguards : (({} : Guarded Cell).run? handling).map (·.guards) = some [] := by decide +kernel
    rw [hrun] at hguards
    have hnone : g.guards = [] := Option.some.inj hguards
    exact ⟨g,hrun,hnone,hempty hnone⟩

end Sample

end Freehold
