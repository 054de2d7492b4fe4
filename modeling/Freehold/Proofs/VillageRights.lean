import Mathlib.Data.List.Infix
import Freehold.Proofs.VillageRows

/-!
Who may change a village. Every change of its rows, from one store to the next, was asked for by a
member with the right to it. Rights that only the mayor hands out stay as they are while the mayor
does nothing, however long the others act and in whatever order.
-/

namespace Freehold
open Std

def Operation.GivenBy (o : Operation) (player : PlayerId) : Prop :=
  ∃ c, o = .command c ∧ c.actor.id = player

theorem Operation.givenBy_command {c : Command} {player : PlayerId} :
    (command c).GivenBy player ↔ c.actor.id = player :=
  ⟨fun ⟨_,he,ha⟩ => Operation.command.inj he ▸ ha,fun ha => ⟨c,rfl,ha⟩⟩

instance (o : Operation) (player : PlayerId) : Decidable (o.GivenBy player) :=
  match o with
  | .command _ => decidable_of_iff _ Operation.givenBy_command.symm
  | .reload | .reloadDirectory | .verify _ | .trust _ _ | .untrust _ _ | .elevate _ | .demote _
  | .refuseAllBatches _ | .failNextBatchAt _ | .failReads _ => .isFalse fun ⟨_,he,_⟩ => nomatch he

/-- What an operation may do to the rows of a village, whose row was `v`. Rights are read from the
directory before it. -/
structure Operation.Rightful (o : Operation) (d : Directory) (before after : Store)
    (id : VillageId) (v : Village) : Prop where
  recorded : id ∈ after.villages
  joins : ∀ player, (⟨id,player⟩ : MemberKey) ∉ before.memberships →
    (⟨id,player⟩ : MemberKey) ∈ after.memberships →
    ∃ a member, o = .command (.addMember a id member) ∧ member.id = player ∧
      d.Holds id a.id .inviteMembers
  goes : ∀ player, (⟨id,player⟩ : MemberKey) ∈ before.memberships →
    (⟨id,player⟩ : MemberKey) ∉ after.memberships →
    (∃ a, o = .command (.leave a) ∧ a.id = player) ∨
    (∃ a, o = .command (.kick a id player) ∧ d.Holds id a.id .kickMembers ∧ player ≠ v.mayor) ∨
    ∃ a, o = .command (.disband a id) ∧ a.id = v.mayor
  role : ∀ (player : PlayerId) (m m' : Membership),
    before.memberships[(⟨id,player⟩ : MemberKey)]? = some m →
    after.memberships[(⟨id,player⟩ : MemberKey)]? = some m' → m'.role ≠ m.role →
    o.GivenBy v.mayor
  -- A permit of a player who stays a member.
  permit : ∀ (player : PlayerId) (k : Capability),
    (⟨id,player⟩ : MemberKey) ∈ after.memberships →
    after.permissions[(⟨⟨id,player⟩,k⟩ : PermissionKey)]? ≠
      before.permissions[(⟨⟨id,player⟩,k⟩ : PermissionKey)]? →
    o.GivenBy v.mayor ∨ ∃ a, o.GivenBy a ∧ d.IsDeputy id a ∧
      d.Holds id a .managePermissions ∧ k.isMayorOnly = false
  name : ∀ (w : Village), after.villages[id]? = some w → w.name ≠ v.name →
    ∃ a name, o = .command (.rename a id name) ∧ d.Holds id a.id .renameVillage
  office : ∀ (w : Village), after.villages[id]? = some w →
    w.mayor ≠ v.mayor ∨ w.active ≠ v.active → o.GivenBy v.mayor
  -- An outsider changes nothing.
  outsider : ∀ a, o.GivenBy a → (⟨id,a⟩ : MemberKey) ∉ before.memberships →
    after.villages[id]? = some v ∧ ∀ (player : PlayerId),
      after.memberships[(⟨id,player⟩ : MemberKey)]? =
        before.memberships[(⟨id,player⟩ : MemberKey)]? ∧
      ∀ (k : Capability), after.permissions[(⟨⟨id,player⟩,k⟩ : PermissionKey)]? =
        before.permissions[(⟨⟨id,player⟩,k⟩ : PermissionKey)]?

namespace Realm.Orderly
variable {s : Realm} {id : VillageId} {v : Village} {player : PlayerId}

theorem isMayor_iff (h : s.Orderly) (hv : s.storage.tables.villages[id]? = some v)
    (ha : v.active = true) : s.directory.IsMayor id player ↔ player = v.mayor :=
  h.sound.presided id v ((h.mirrors.villages id v).mpr ⟨hv,ha⟩) player

/-- Nothing is granted to a player who is not a member. -/
theorem permit_eq_none (h : s.Orderly) (k : Capability)
    (hn : (⟨id,player⟩ : MemberKey) ∉ s.storage.tables.memberships) :
    s.storage.tables.permissions[(⟨⟨id,player⟩,k⟩ : PermissionKey)]? = none := by
  apply ExtTreeMap.getElem?_eq_none
  rw [← h.mirrors.grants ⟨id,player⟩ k]
  intro hc
  rw [← h.mirrors.members] at hn
  exact hn (h.sound.entitled.mem_of_granted hc)

end Realm.Orderly

namespace Operation.Governs
variable {s : Realm} {id : VillageId} {v : Village} {o : Operation} {stamp : Stamp} {t : Store}
  {player : PlayerId} {k : Capability}

theorem joins (hg : o.Governs stamp s t id v)
    (hn : (⟨id,player⟩ : MemberKey) ∉ s.storage.tables.memberships)
    (hm : (⟨id,player⟩ : MemberKey) ∈ t.memberships) :
    ∃ a member, o = .command (.addMember a id member) ∧ member.id = player ∧
      s.directory.Holds id a.id .inviteMembers := by
  obtain ⟨m, hm⟩ := mem_iff_exists_getElem?_eq_some.mp hm
  have hseat := hg.seats player
  rw [ExtTreeMap.getElem?_eq_none hn, hm] at hseat
  -- Every other row of the table starts from a seat that is taken, or leaves an empty one empty.
  cases hseat with
  | joined named authority => exact ⟨_,_,rfl,named,authority⟩

variable (h : s.Orderly) (hv : s.storage.tables.villages[id]? = some v) (ha : v.active = true)
include h hv ha

theorem goes (hg : o.Governs stamp s t id v)
    (hm : (⟨id,player⟩ : MemberKey) ∈ s.storage.tables.memberships)
    (hn : (⟨id,player⟩ : MemberKey) ∉ t.memberships) :
    (∃ a, o = .command (.leave a) ∧ a.id = player) ∨
    (∃ a, o = .command (.kick a id player) ∧ s.directory.Holds id a.id .kickMembers ∧
      player ≠ v.mayor) ∨
    ∃ a, o = .command (.disband a id) ∧ a.id = v.mayor := by
  obtain ⟨m, hm⟩ := mem_iff_exists_getElem?_eq_some.mp hm
  have hseat := hg.seats player
  rw [hm, ExtTreeMap.getElem?_eq_none hn] at hseat
  cases hseat with
  | left self => exact .inl ⟨_,rfl,self⟩
  | kicked authority plain =>
    have hne : player ≠ v.mayor := fun he => plain ((h.isMayor_iff hv ha).mpr he)
    exact .inr (.inl ⟨_,rfl,authority,hne⟩)
  | ended office => exact .inr (.inr ⟨_,rfl,(h.isMayor_iff hv ha).mp office⟩)

theorem role (hg : o.Governs stamp s t id v) {m m' : Membership}
    (hm : s.storage.tables.memberships[(⟨id,player⟩ : MemberKey)]? = some m)
    (hm' : t.memberships[(⟨id,player⟩ : MemberKey)]? = some m') (hne : m'.role ≠ m.role) :
    o.GivenBy v.mayor := by
  have hseat := hg.seats player
  rw [hm, hm'] at hseat
  cases hseat with
  | kept => exact absurd rfl hne
  | outgoing office | incoming office | assigned office =>
    exact ⟨_,rfl,(h.isMayor_iff hv ha).mp office⟩

/-- A permit changes at the hands of the mayor or of a deputy, or goes with the member. -/
theorem permit (hg : o.Governs stamp s t id v) (hm : (⟨id,player⟩ : MemberKey) ∈ t.memberships)
    (hne : t.permissions[(⟨⟨id,player⟩,k⟩ : PermissionKey)]? ≠
      s.storage.tables.permissions[(⟨⟨id,player⟩,k⟩ : PermissionKey)]?) :
    o.GivenBy v.mayor ∨ ∃ a, o.GivenBy a ∧ s.directory.IsDeputy id a ∧
      s.directory.Holds id a .managePermissions ∧ k.isMayorOnly = false := by
  have hpermit := hg.permits player k
  generalize s.storage.tables.permissions[(⟨⟨id,player⟩,k⟩ : PermissionKey)]? = old
    at hpermit hne
  generalize t.permissions[(⟨⟨id,player⟩,k⟩ : PermissionKey)]? = new at hpermit hne
  -- Who may manage a capability is the mayor or a deputy, and a deputy only some of them.
  cases hpermit with
  | kept => exact absurd rfl hne
  | granted right | revoked right =>
    rcases right with office | deputy
    · exact .inl ⟨_,rfl,(h.isMayor_iff hv ha).mp office⟩
    · exact .inr ⟨_,⟨_,rfl,rfl⟩,deputy⟩
  | lost gone => exact absurd hm gone

/-- The mayor alone hands on his office or ends the village. -/
theorem office (hg : o.Governs stamp s t id v) {w : Village} (hw : t.villages[id]? = some w)
    (hne : w.mayor ≠ v.mayor ∨ w.active ≠ v.active) : o.GivenBy v.mayor := by
  obtain ⟨w', hw', hrow⟩ := hg.row
  obtain rfl := Option.some.inj (hw'.symm.trans hw)
  cases hrow with
  | kept | renamed => exact absurd hne (by simp)
  | transferred office | ended office => exact ⟨_,rfl,(h.isMayor_iff hv ha).mp office⟩

omit hv ha in
/-- A player who is not a member changes nothing about a village. -/
theorem outsider {c : Command} (hg : (command c).Governs stamp s t id v)
    (hn : (⟨id,c.actor.id⟩ : MemberKey) ∉ s.storage.tables.memberships) :
    t.villages[id]? = some v ∧ ∀ (player : PlayerId),
      t.memberships[(⟨id,player⟩ : MemberKey)]? =
        s.storage.tables.memberships[(⟨id,player⟩ : MemberKey)]? ∧
      ∀ (k : Capability), t.permissions[(⟨⟨id,player⟩,k⟩ : PermissionKey)]? =
        s.storage.tables.permissions[(⟨⟨id,player⟩,k⟩ : PermissionKey)]? := by
  rw [← h.mirrors.members] at hn
  obtain ⟨w, hw, hrow⟩ := hg.row
  obtain rfl := hrow.eq_of_notMem hn
  -- The seats come before the permits, as a permit may go only with its seat.
  have hseat (player : PlayerId) : t.memberships[(⟨id,player⟩ : MemberKey)]? =
      s.storage.tables.memberships[(⟨id,player⟩ : MemberKey)]? :=
    (hg.seats player).eq_of_notMem (by rw [h.mirrors.members]) hn
  refine ⟨hw,fun player => ⟨hseat player,fun k => ?_⟩⟩
  apply (hg.permits player k).eq_of_notMem _ hn
  -- A player without a seat afterwards had none before, and so no permit either.
  intro hgone
  apply h.permit_eq_none
  rw [ExtTreeMap.mem_iff_isSome_getElem?] at hgone ⊢
  rw [← hseat player]
  exact hgone

/-- What the rows of a village may become in one operation is covered by a right of the one who
acts. -/
theorem rightful (hg : o.Governs stamp s t id v) :
    o.Rightful s.directory s.storage.tables t id v where
  recorded := by
    obtain ⟨w, hw, -⟩ := hg.row
    exact mem_of_getElem?_eq_some hw
  joins _ hn hm := hg.joins hn hm
  goes _ hm hn := hg.goes h hv ha hm hn
  role _ _ _ hm hm' hne := hg.role h hv ha hm hm' hne
  permit _ _ hm hne := hg.permit h hv ha hm hne
  name w hw hne := by
    obtain ⟨w', hw', hrow⟩ := hg.row
    obtain rfl := Option.some.inj (hw'.symm.trans hw)
    cases hrow with
    | kept | transferred | ended => exact absurd rfl hne
    | renamed authority => exact ⟨_,_,rfl,authority⟩
  office _ hw hne := hg.office h hv ha hw hne
  outsider := by
    rintro a ⟨c, rfl, rfl⟩ hn
    exact hg.outsider h hn

end Operation.Governs

/-- In every state that a server comes to, the rows of an active village change only at the hands of
those who may change them. -/
theorem Managed.village_changed_by_right {s : Realm} (h : Managed s) (o : Operation) (stamp : Stamp)
    {id : VillageId} {v : Village} (hv : s.storage.tables.villages[id]? = some v)
    (ha : v.active = true) :
    o.Rightful s.directory s.storage.tables (o.run stamp s).realm.storage.tables id v :=
  (h.orderly.governs o stamp hv).rightful h.orderly hv ha

namespace Sample

def joining : Operation := .command (.addMember ben oakham cay)

/-- Ben, who may invite others, takes Cay back in. -/
theorem parish_joining_by_right :
    Managed parish ∧
    (⟨oakham,cay.id⟩ : MemberKey) ∉ parish.storage.tables.memberships ∧
    (⟨oakham,cay.id⟩ : MemberKey) ∈
      (joining.run (stamp 17) parish).realm.storage.tables.memberships ∧
    (∃ a member, joining = .command (.addMember a oakham member) ∧ member.id = cay.id ∧
      parish.directory.Holds oakham a.id .inviteMembers) ∧
    ∃ v, parish.storage.tables.villages[oakham]? = some v ∧ v.active = true ∧
      joining.Rightful parish.directory parish.storage.tables
        (joining.run (stamp 17) parish).realm.storage.tables oakham v := by
  have hrow : (parish.storage.tables.villages[oakham]?).map (·.active) = some true := by
    decide +kernel
  have hout : (⟨oakham,cay.id⟩ : MemberKey) ∉ parish.storage.tables.memberships := by
    decide +kernel
  have hin : (⟨oakham,cay.id⟩ : MemberKey) ∈
      (joining.run (stamp 17) parish).realm.storage.tables.memberships := by
    decide +kernel
  obtain ⟨v, hv, ha⟩ := Option.map_eq_some_iff.mp hrow
  have hright := managed_parish.village_changed_by_right joining (stamp 17) hv ha
  exact ⟨managed_parish,hout,hin,hright.joins cay.id hout hin,v,hv,ha,hright⟩

end Sample

/-! ### While the mayor does nothing -/

structure Directory.NoPromotion (before after : Directory) (id : VillageId) : Prop where
  deputies : ∀ player, after.IsDeputy id player → before.IsDeputy id player
  -- These capabilities come from the mayor alone.
  grants : ∀ player (c : Capability), c.isMayorOnly = true →
    c ∈ after.granted ⟨id,player⟩ → c ∈ before.granted ⟨id,player⟩

namespace Directory.NoPromotion
variable {d d' d'' : Directory} {id : VillageId}

theorem refl (d : Directory) (id : VillageId) : d.NoPromotion d id :=
  ⟨fun _ h => h,fun _ _ _ h => h⟩

theorem trans (h : d.NoPromotion d' id) (h' : d'.NoPromotion d'' id) : d.NoPromotion d'' id :=
  ⟨fun p hp => h.deputies p (h'.deputies p hp),
    fun p c hc hp => h.grants p c hc (h'.grants p c hc hp)⟩

end Directory.NoPromotion

namespace Realm.Orderly
variable {s : Realm} {id : VillageId} {v : Village} {o : Operation} {player : PlayerId}

section Step
variable (h : s.Orderly) (stamp : Stamp) (hv : s.storage.tables.villages[id]? = some v)
  (ha : v.active = true) (ho : ¬o.GivenBy v.mayor)
include h hv ha ho

/-- Without its mayor a village goes on, and goes on under him. -/
theorem row_of_not_givenBy :
    ∃ w, (o.run stamp s).realm.storage.tables.villages[id]? = some w ∧ w.active = true ∧
      w.mayor = v.mayor := by
  have hg := h.governs o stamp hv
  obtain ⟨w, hw, -⟩ := hg.row
  have hoffice : ¬(w.mayor ≠ v.mayor ∨ w.active ≠ v.active) :=
    fun hne => ho (hg.office h hv ha hw hne)
  rw [not_or, ne_eq, ne_eq, not_not, not_not] at hoffice
  exact ⟨w,hw,hoffice.2.trans ha,hoffice.1⟩

/-- Without the mayor nobody becomes a deputy. -/
theorem isDeputy_of_not_givenBy (hd : (o.run stamp s).realm.directory.IsDeputy id player) :
    s.directory.IsDeputy id player := by
  obtain ⟨m, hm, hr⟩ := hd
  rw [(h.run o stamp).mirrors.members] at hm
  have hseat := (h.governs o stamp hv).seats player
  rw [hm] at hseat
  generalize hold : s.storage.tables.memberships[(⟨id,player⟩ : MemberKey)]? = old at hseat
  -- Who joins is a plain member, and a role is changed by the mayor alone.
  cases hseat with
  | kept =>
    rw [← h.mirrors.members] at hold
    exact ⟨m,hold,hr⟩
  | joined => cases hr
  | outgoing office | incoming office | assigned office =>
    exact (ho ⟨_,rfl,(h.isMayor_iff hv ha).mp office⟩).elim

/-- The members of a village keep what only its mayor hands out, and get no more of it. -/
theorem granted_iff_of_not_givenBy {c : Capability} (hc : c.isMayorOnly = true)
    (hm : (⟨id,player⟩ : MemberKey) ∈ (o.run stamp s).realm.directory.members) :
    c ∈ (o.run stamp s).realm.directory.granted ⟨id,player⟩ ↔
      c ∈ s.directory.granted ⟨id,player⟩ := by
  have ht : (o.run stamp s).realm.Orderly := h.run o stamp
  have hsame : (o.run stamp s).realm.storage.tables.permissions[(⟨⟨id,player⟩,c⟩ :
      PermissionKey)]? = s.storage.tables.permissions[(⟨⟨id,player⟩,c⟩ : PermissionKey)]? := by
    rw [ht.mirrors.members] at hm
    by_contra hne
    -- A deputy who handed it out would have handed out what only the mayor may.
    rcases (h.governs o stamp hv).permit h hv ha hm hne with hgiven | ⟨_,_,_,_,hplain⟩
    · exact ho hgiven
    · rw [hc] at hplain
      cases hplain
  rw [ht.mirrors.grants, h.mirrors.grants, ExtTreeMap.mem_iff_isSome_getElem?, hsame,
    ← ExtTreeMap.mem_iff_isSome_getElem?]

/-- In one operation of somebody else, nobody gets more that comes from the mayor than he had. -/
theorem noPromotion_of_not_givenBy :
    s.directory.NoPromotion (o.run stamp s).realm.directory id where
  deputies _ hd := h.isDeputy_of_not_givenBy stamp hv ha ho hd
  grants _ _ hc hg :=
    (h.granted_iff_of_not_givenBy stamp hv ha ho hc
      ((h.run o stamp).sound.entitled.mem_of_granted hg)).mp hg

end Step

variable {operations : List (Operation × Stamp)}

/-- In a run without the mayor, too, the village stays under him and nobody gets more that comes
from him. -/
theorem runAll_of_not_givenBy (h : s.Orderly) (hv : s.storage.tables.villages[id]? = some v)
    (ha : v.active = true) (ho : ∀ step ∈ operations, ¬step.1.GivenBy v.mayor) :
    (s.runAll operations).Orderly ∧
    (∃ w, (s.runAll operations).storage.tables.villages[id]? = some w ∧ w.active = true ∧
      w.mayor = v.mayor) ∧
    s.directory.NoPromotion (s.runAll operations).directory id ∧
    ∀ player, (∀ earlier, earlier <+: operations →
        (⟨id,player⟩ : MemberKey) ∈ (s.runAll earlier).directory.members) →
      ∀ (c : Capability), c.isMayorOnly = true →
        (c ∈ (s.runAll operations).directory.granted ⟨id,player⟩ ↔
          c ∈ s.directory.granted ⟨id,player⟩) := by
  -- The induction is on the run. Each step leaves a row with the same mayor, so what was said of
  -- him goes for the rest of the run.
  induction operations generalizing s v with
  | nil => exact ⟨h,⟨v,hv,ha,rfl⟩,.refl _ _,fun _ _ _ _ => Iff.rfl⟩
  | cons step operations ih =>
    obtain ⟨o, stamp⟩ := step
    have hfirst : ¬o.GivenBy v.mayor := ho _ List.mem_cons_self
    obtain ⟨w, hw, hactive, hmayor⟩ := h.row_of_not_givenBy stamp hv ha hfirst
    have hrest : ∀ step ∈ operations, ¬step.1.GivenBy w.mayor := by
      intro step hstep
      rw [hmayor]
      exact ho step (List.mem_cons_of_mem _ hstep)
    obtain ⟨horderly, hrow, hnone, hkeep⟩ := ih (h.run o stamp) hw hactive hrest
    refine ⟨horderly, ?_, ?_, ?_⟩
    · rwa [← hmayor]
    · exact (h.noPromotion_of_not_givenBy stamp hv ha hfirst).trans hnone
    · intro player hstay c hc
      have hthere : (⟨id,player⟩ : MemberKey) ∈ (o.run stamp s).realm.directory.members :=
        hstay [(o,stamp)] (List.prefix_append [(o,stamp)] operations)
      have hlater := hkeep player fun earlier he =>
        hstay ((o,stamp) :: earlier) (List.cons_prefix_cons.mpr ⟨rfl,he⟩)
      exact (hlater c hc).trans (h.granted_iff_of_not_givenBy stamp hv ha hfirst hc hthere)

end Realm.Orderly

/-- However long others act on a server while the mayor of a village does nothing, the village goes on
under him, nobody becomes a deputy there, and nobody is handed what only the mayor hands out. Those who
stay members keep what they have of it. -/
theorem Managed.no_escalation {s : Realm} (h : Managed s) (operations : List (Operation × Stamp))
    {id : VillageId} {v : Village} (hv : s.storage.tables.villages[id]? = some v)
    (ha : v.active = true) (ho : ∀ step ∈ operations, ¬step.1.GivenBy v.mayor) :
    (∃ w, (s.runAll operations).storage.tables.villages[id]? = some w ∧
      (s.runAll operations).directory.villages[id]? = some w ∧ w.active = true ∧
      w.mayor = v.mayor ∧
      ∀ player, (s.runAll operations).directory.IsMayor id player ↔ player = v.mayor) ∧
    s.directory.NoPromotion (s.runAll operations).directory id ∧
    ∀ player, (∀ earlier, earlier <+: operations →
        (⟨id,player⟩ : MemberKey) ∈ (s.runAll earlier).directory.members) →
      ∀ (c : Capability), c.isMayorOnly = true →
        (c ∈ (s.runAll operations).directory.granted ⟨id,player⟩ ↔
          c ∈ s.directory.granted ⟨id,player⟩) := by
  obtain ⟨ht, ⟨w, hw, hactive, hmayor⟩, hnone, hkeep⟩ :=
    h.orderly.runAll_of_not_givenBy hv ha ho
  have hrow : (s.runAll operations).directory.villages[id]? = some w :=
    (ht.mirrors.villages id w).mpr ⟨hw,hactive⟩
  refine ⟨⟨w,hw,hrow,hactive,hmayor, ?_⟩,hnone,hkeep⟩
  intro player
  rw [← hmayor]
  exact ht.isMayor_iff hw hactive

namespace Sample

def council : Realm :=
  parish.runAll [(.command (.grant ann oakham ben.id .managePermissions),stamp 17)]

def unrest : List (Operation × Stamp) :=
  [(.command (.addMember ben oakham cay),stamp 18),
    (.command (.grant ben oakham cay.id .build),stamp 19),
    (.command (.grant ben oakham cay.id .kickMembers),stamp 20),
    (.command (.setRole ben oakham cay.id .deputyMayor),stamp 21),
    (.reload,stamp 22),
    (.command (.transfer ben oakham ben.id),stamp 23),
    (.command (.kick cay oakham ann.id),stamp 24)]

/-- Ben is in charge of who may do what, as far as that goes without Ann. He takes Cay in and lets
him build. He cannot let him kick others, nor raise him, and neither of them gets the village. -/
theorem unrest_no_escalation :
    Managed council ∧
    (∀ step ∈ unrest, ¬step.1.GivenBy ann.id) ∧
    (.build ∈ (council.runAll unrest).directory.granted ⟨oakham,cay.id⟩) ∧
    (∀ player, (council.runAll unrest).directory.IsMayor oakham player ↔ player = ann.id) ∧
    council.directory.NoPromotion (council.runAll unrest).directory oakham ∧
    .managePermissions ∈ (council.runAll unrest).directory.granted ⟨oakham,ben.id⟩ := by
  have hmanaged : Managed council := managed_parish.runAll _
  have hrow : (council.storage.tables.villages[oakham]?).map (fun v => (v.mayor,v.active)) =
      some (ann.id,true) := by
    decide +kernel
  have hothers : ∀ step ∈ unrest, ¬step.1.GivenBy ann.id := by decide +kernel
  have hcay : .build ∈ (council.runAll unrest).directory.granted ⟨oakham,cay.id⟩ := by
    decide +kernel
  have hstay : ∀ earlier ∈ unrest.inits,
      (⟨oakham,ben.id⟩ : MemberKey) ∈ (council.runAll earlier).directory.members := by
    decide +kernel
  have hben : .managePermissions ∈ council.directory.granted ⟨oakham,ben.id⟩ := by
    decide +kernel
  obtain ⟨v, hv, hpair⟩ := Option.map_eq_some_iff.mp hrow
  obtain ⟨hmayor, ha⟩ := Prod.mk.inj hpair
  obtain ⟨⟨w, -, -, -, -, hone⟩, hnone, hkeep⟩ :=
    hmanaged.no_escalation unrest hv ha (hmayor ▸ hothers)
  have hkept := hkeep ben.id (fun earlier he => hstay earlier ((List.mem_inits _ _).mpr he))
    .managePermissions rfl
  exact ⟨hmanaged,hothers,hcay,hmayor ▸ hone,hnone,hkept.mpr hben⟩

end Sample

end Freehold
