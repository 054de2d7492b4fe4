import Freehold.Proofs.Sync

/-!
The directory finds villages and members under their own keys. No command files a village or a
member under the key of another.
-/

namespace Freehold
open Std

structure Directory.RowsKeyed (d : Directory) : Prop where
  villages : Keyed Village.id d.villages
  members : Keyed Membership.key d.members

namespace Directory

theorem rowsKeyed_empty : RowsKeyed {} := ⟨keyed_empty,keyed_empty⟩

namespace RowsKeyed
variable {d : Directory}

theorem insertVillage (h : d.RowsKeyed) (v : Village) : (d.insertVillage v).RowsKeyed :=
  ⟨h.villages.insert v,h.members⟩

theorem dropName (h : d.RowsKeyed) (id : VillageId) : (d.dropName id).RowsKeyed := by
  unfold Directory.dropName
  split
  · exact ⟨h.villages,h.members⟩
  · exact h

theorem updateVillage (h : d.RowsKeyed) (v : Village) : (d.updateVillage v).RowsKeyed :=
  (h.dropName v.id).insertVillage v

theorem upsertMember (h : d.RowsKeyed) (m : Membership) : (d.upsertMember m).RowsKeyed :=
  ⟨h.villages,h.members.insert m⟩

theorem removeMember (h : d.RowsKeyed) (key : MemberKey) : (d.removeMember key).RowsKeyed :=
  ⟨h.villages,h.members.erase key⟩

theorem removeVillage (h : d.RowsKeyed) (village : VillageId) :
    (d.removeVillage village).RowsKeyed := by
  have hd : (d.dropName village).RowsKeyed := h.dropName village
  have hv : RowsKeyed { d.dropName village with
      villages := (d.dropName village).villages.erase village } :=
    ⟨hd.villages.erase village,hd.members⟩
  -- The members go one after the other, each removal keeping what the last one left.
  exact List.foldlRecOn _ _ hv fun d hd p _ => hd.removeMember ⟨village,p⟩

theorem grant (h : d.RowsKeyed) (key : MemberKey) (c : Capability) : (d.grant key c).RowsKeyed :=
  ⟨h.villages,h.members⟩

theorem revoke (h : d.RowsKeyed) (key : MemberKey) (c : Capability) : (d.revoke key c).RowsKeyed :=
  ⟨h.villages,h.members⟩

end RowsKeyed

/-- Rows that are passed over change nothing, and the others are filed under their own keys. -/
theorem rowsKeyed_build (villages : List Village) (memberships : List Membership)
    (permissions : List Permission) : (build villages memberships permissions).RowsKeyed := by
  unfold build
  refine List.foldlRecOn _ _ (List.foldlRecOn _ _ (List.foldlRecOn _ _ rowsKeyed_empty ?_) ?_) ?_
  · exact fun d hd v _ => hd.insertVillage v
  · intro d hd m _
    split
    · exact hd.upsertMember m
    · exact hd
  · intro d hd p _
    split
    · exact hd.grant _ _
    · exact hd

end Directory

theorem Command.ComesTo.rowsKeyed {stamp : Stamp} {s : Realm} {c : Command} {p : Plan Answer}
    (hc : c.ComesTo stamp s p) {d : Directory} (h : d.RowsKeyed) :
    (p.directoryChange d).RowsKeyed := by
  cases hc with
  | claim | claimWithLimit | claimNext | unclaim | expand | returnCells => exact h
  | found => exact (h.insertVillage _).upsertMember _
  | disband => exact h.removeVillage _
  | transfer => exact ((h.upsertMember _).upsertMember _).updateVillage _
  | addMember | setRole => exact h.upsertMember _
  | kick | leave => exact h.removeMember _
  | rename => exact h.updateVillage _
  | grant => exact h.grant _ _
  | revoke => exact h.revoke _ _

theorem Realm.Recalls.rowsKeyed {s t : Realm} (hr : s.Recalls t) (h : s.directory.RowsKeyed) :
    t.directory.RowsKeyed := by
  rcases hr.directory with hd | hd
  · exact hd ▸ h
  · exact hd ▸ Directory.rowsKeyed_build _ _ _

/-- In every state that a server comes to, villages and members stand under their own keys. -/
theorem Managed.rowsKeyed {s : Realm} (h : Managed s) : s.directory.RowsKeyed := by
  induction h with
  | start _ started =>
    exact (Realm.recalls_start started).rowsKeyed Directory.rowsKeyed_empty
  | run managed o stamp ih =>
    rcases managed.inSync.run_cases o stamp with hr | ⟨c,p,rfl,hc,hp⟩
    · exact hr.rowsKeyed ih
    · exact hp.directory ▸ hc.rowsKeyed ih

end Freehold
