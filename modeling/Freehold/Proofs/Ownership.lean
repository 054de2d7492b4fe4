import Freehold.Proofs.DirectoryRows
import Freehold.Proofs.Moves

/-!
Land changes hands only by authority. There are six ways in which a cell can pass from one owner to
another, nobody included, and each takes a command of someone who may give it.
-/

namespace Freehold
open Std

namespace Directory

def IsMayor (d : Directory) (village : VillageId) (player : PlayerId) : Prop :=
  ∃ m, d.members[(⟨village,player⟩ : MemberKey)]? = some m ∧ m.role = .mayor

/-- Whether a player has a capability in a village, as its mayor or because it was handed to him as
a member. -/
def Holds (d : Directory) (village : VillageId) (player : PlayerId) (c : Capability) : Prop :=
  d.IsMayor village player ∨
    (⟨village,player⟩ : MemberKey) ∈ d.members ∧ c ∈ d.granted ⟨village,player⟩

/-- A capability is held by the mayor, or by a member to whom it was handed. -/
theorem holds_of_hasCapability {d : Directory} {village : VillageId} {player : PlayerId}
    {c : Capability} (h : d.hasCapability ⟨village,player⟩ c = true) :
    d.Holds village player c := by
  unfold hasCapability at h
  cases hm : d.members[(⟨village,player⟩ : MemberKey)]? with
  | none => simp [hm] at h
  | some m =>
    have hmem : (⟨village,player⟩ : MemberKey) ∈ d.members := mem_of_getElem?_eq_some hm
    simp only [hm, Bool.or_eq_true, decide_eq_true_iff, Membership.isMayor] at h
    exact h.imp (fun ho => ⟨m,hm,ho⟩) fun hg => ⟨hmem,hg⟩

end Directory

inductive Ground where
  | claim
  | expansion
  | release
  | founding
  | reduction
  | disbanding
deriving DecidableEq

def Ground.between : Option Owner → Option Owner → Option Ground
  | none, some (.personal _) => some .claim
  | none, some (.village _) => some .expansion
  | some (.personal _), none => some .release
  | some (.personal _), some (.village _) => some .founding
  | some (.village _), none => some .reduction
  | some (.village _), some (.personal _) => some .disbanding
  | _, _ => none

inductive Command.Warrants (stamp : Stamp) (s : Realm) (cell : Cell) :
    Command → Option Owner → Option Owner → Ground → Prop where
  | claim {a : Actor} {cost : Cost} :
    Warrants stamp s cell (.claim a cell cost) none (some (.personal a.id)) .claim
  | claimWithLimit {a : Actor} {cost : Cost} {veteran : Bool} :
    Warrants stamp s cell (.claimWithLimit a cell cost veteran) none (some (.personal a.id)) .claim
  | claimNext {a : Actor} {requested : Option Tier} {veteran : Bool} :
    Warrants stamp s cell (.claimNext a cell requested veteran) none (some (.personal a.id)) .claim
  -- Authority is that of the realm before the command.
  | expansion {a : Actor} {cost : Cost} {village : VillageId}
    (active : village ∈ s.directory.villages)
    (authority : s.directory.Holds village a.id .expandLand) :
    Warrants stamp s cell (.expand a cell cost) none (some (.village village)) .expansion
  | release {a : Actor} {reason : Option String} {player : PlayerId}
    (authority : a.id = player ∨ a.id ∈ s.elevated) :
    Warrants stamp s cell (.unclaim a cell reason) (some (.personal player)) none .release
  | founding {a : Actor} {name : String} {cells : List Cell}
    (fresh : stamp.village ∉ s.storage.tables.villages) (listed : cell ∈ cells) :
    Warrants stamp s cell (.found a name cells) (some (.personal a.id))
      (some (.village stamp.village)) .founding
  | confiscation {a : Actor} {reason : Option String} {village : VillageId}
    (authority : a.id ∈ s.elevated) :
    Warrants stamp s cell (.unclaim a cell reason) (some (.village village)) none .reduction
  | reduction {a : Actor} {cells : List Cell} {reason : Option String} {village : VillageId}
    (active : village ∈ s.directory.villages)
    (authority : s.directory.Holds village a.id .reduceLand) (listed : cell ∈ cells) :
    Warrants stamp s cell (.returnCells a cells reason) (some (.village village)) none .reduction
  | disbanding {a : Actor} {village : VillageId} (active : village ∈ s.directory.villages)
    (authority : s.directory.IsMayor village a.id) :
    Warrants stamp s cell (.disband a village) (some (.village village))
      (some (.personal a.id)) .disbanding

namespace Command
variable {stamp : Stamp} {s : Realm} {c : Command} {p : Plan Answer} {t : Store}

/-- There are six ways for a cell to pass on, and the owners before and after tell which one it
was. -/
theorem Warrants.between_eq {cell : Cell} {old new : Option Owner} {g : Ground}
    (h : c.Warrants stamp s cell old new g) : Ground.between old new = some g := by
  cases h <;> rfl

/-- A claim is released by its owner, or by someone who has authority over all land. -/
theorem warrants_unclaim {a : Actor} {cell : Cell} {reason : Option String} {owner : Owner}
    (h : owner = .personal a.id ∨ a.id ∈ s.elevated) :
    ∃ g, (unclaim a cell reason).Warrants stamp s cell (some owner) none g := by
  cases owner with
  | personal player => exact ⟨_,.release (h.imp_left fun ho => (Owner.personal.inj ho).symm)⟩
  | village village =>
    rcases h with ho | he
    · cases ho
    · exact ⟨_,.confiscation he⟩

/-- A plan moves cells from one owner to another, and the command has a ground for each of them. -/
theorem ComesTo.moves (hc : c.ComesTo stamp s p) (h : s.InSync) (hd : s.directory.RowsKeyed)
    (hw : s.storage.tables.writeAll p.batch = .ok t) :
    ∃ cells old new entries, s.storage.tables.Moves t cells old new entries ∧
      ∀ cell ∈ cells, ∃ g, c.Warrants stamp s cell old new g := by
  cases hc with
  | claim may =>
    exact ⟨_,_,_,_,Plan.moves_claim may.vacant hw,List.forall_mem_singleton.mpr ⟨_,.claim⟩⟩
  | claimWithLimit may =>
    exact ⟨_,_,_,_,Plan.moves_claim may.vacant hw,
      List.forall_mem_singleton.mpr ⟨_,.claimWithLimit⟩⟩
  | claimNext _ may =>
    exact ⟨_,_,_,_,Plan.moves_claim may.vacant hw,List.forall_mem_singleton.mpr ⟨_,.claimNext⟩⟩
  | expand _ _ active allowed vacant =>
    have hactive := mem_of_getElem?_eq_some active
    have hholds := Directory.holds_of_hasCapability allowed
    exact ⟨_,_,_,_,Plan.moves_claim vacant hw,
      List.forall_mem_singleton.mpr ⟨_,.expansion hactive hholds⟩⟩
  | @unclaim a cell claim ground reason found allowed =>
    have hcell : claim.cell = cell := h.cell_eq found
    subst hcell
    have hground : ground = .unclaimed ∨ ground = .confiscated :=
      allowed.imp (·.2) (·.2.2)
    have howner : claim.owner = .personal a.id ∨ a.id ∈ s.elevated :=
      allowed.imp (·.1) fun hn => of_decide_eq_true hn.2.1
    rw [Plan.batch_map] at hw
    exact ⟨_,_,_,_,Plan.moves_release h found hground hw,
      List.forall_mem_singleton.mpr (warrants_unclaim howner)⟩
  | found _ _ _ _ own =>
    -- The store takes the row of a new village first, and only where there is none.
    have hfresh : stamp.village ∉ s.storage.tables.villages :=
      (Store.writeAll_cons_eq_ok_iff.mp hw).1
    refine ⟨_,_,_,_,Plan.moves_found h own hw, ?_⟩
    intro cell hcell
    exact ⟨_,.founding hfresh (Cell.mem_sorted.mp hcell)⟩
  | @disband a village v mayor active member office =>
    -- The land goes to the player of the mayor's row, which is found under the actor's key.
    have hmayor : mayor.member = a.id := congrArg MemberKey.member (hd.members _ _ member)
    rw [Plan.batch_map] at hw
    refine ⟨_,_,_,_,Plan.moves_disband h (nodup_toList _) hw, ?_⟩
    intro cell hcell
    rw [hmayor]
    exact ⟨_,.disbanding (mem_of_getElem?_eq_some active) ⟨mayor,member,of_decide_eq_true office⟩⟩
  | returnCells _ _ active allowed own =>
    have hactive := mem_of_getElem?_eq_some active
    have hholds := Directory.holds_of_hasCapability allowed
    refine ⟨_,_,_,_,Plan.moves_returnCells h own hw, ?_⟩
    intro cell hcell
    exact ⟨_,.reduction hactive hholds (Cell.mem_sorted.mp hcell)⟩
  | rename =>
    rw [Plan.batch_map] at hw
    exact ⟨[],none,none,[],Plan.moves_rename h (nodup_toList _) hw,nofun⟩
  | transfer | addMember | setRole | grant | revoke =>
    exact ⟨[],none,none,[],Plan.moves_of_nil rfl rfl hw,nofun⟩
  | kick | leave =>
    exact ⟨[],none,none,[],
      Plan.moves_of_nil (Batch.changes_removal _ _) (Batch.entries_removal _ _) hw,nofun⟩

end Command

/-- In any state that a server comes to, a cell changes its owner only by a command that has one of
the six grounds for it, and only one. -/
theorem Managed.warranted_of_ownerOf_ne {s : Realm} (h : Managed s) (o : Operation) (stamp : Stamp)
    (cell : Cell)
    (hne : s.storage.tables.ownerOf cell ≠ (o.run stamp s).realm.storage.tables.ownerOf cell) :
    ∃! g, ∃ c, o = .command c ∧ c.Warrants stamp s cell (s.storage.tables.ownerOf cell)
      ((o.run stamp s).realm.storage.tables.ownerOf cell) g := by
  rcases h.inSync.run_cases o stamp with hr | ⟨c,p,rfl,hc,hp⟩
  · exact absurd (by rw [hr.tables]) hne
  · obtain ⟨cells, old, new, entries, hm, hw⟩ := hc.moves h.inSync h.rowsKeyed hp.written
    have hcell : cell ∈ cells := hm.mem_of_ownerOf_ne hne
    have hbefore : s.storage.tables.ownerOf cell = old := hm.before cell hcell
    have hafter : ((Operation.command c).run stamp s).realm.storage.tables.ownerOf cell = new :=
      hm.after cell hcell
    obtain ⟨g, hg⟩ := hw cell hcell
    rw [hbefore, hafter]
    refine ⟨g, ⟨c,rfl,hg⟩, ?_⟩
    rintro g' ⟨c', -, hg'⟩
    exact Option.some.inj (hg'.between_eq.symm.trans hg.between_eq)

/-- The land of the village passes to its mayor when she ends it. -/
theorem Sample.hamlet_ending_warranted :
    Managed hamlet ∧
    hamlet.storage.tables.ownerOf (road 2) = some (.village ⟨.ofNat 3⟩) ∧
    (ending.run (stamp 9) hamlet).realm.storage.tables.ownerOf (road 2) =
      some (.personal ann.id) ∧
    ∃! g, ∃ c, ending = .command c ∧ c.Warrants (stamp 9) hamlet (road 2)
      (hamlet.storage.tables.ownerOf (road 2))
      ((ending.run (stamp 9) hamlet).realm.storage.tables.ownerOf (road 2)) g := by
  have hold : hamlet.storage.tables.ownerOf (road 2) = some (.village ⟨.ofNat 3⟩) := by
    decide +kernel
  have hnew : (ending.run (stamp 9) hamlet).realm.storage.tables.ownerOf (road 2) =
      some (.personal ann.id) := by
    decide +kernel
  have hne : hamlet.storage.tables.ownerOf (road 2) ≠
      (ending.run (stamp 9) hamlet).realm.storage.tables.ownerOf (road 2) := by
    rw [hold, hnew]
    nofun
  exact ⟨managed_hamlet,hold,hnew,
    managed_hamlet.warranted_of_ownerOf_ne ending (stamp 9) (road 2) hne⟩

end Freehold
