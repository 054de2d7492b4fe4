import Freehold.Claim
import Freehold.Data
import Freehold.Timestamp.Text
import Freehold.Village

/-!
Cells, claims, villages and the audit trail as plain data. Ids and times are written as texts, the
words of a vocabulary by their names.
-/

namespace Freehold
open Data

instance : DataForm Uuid where
  toData u := .text u.text
  ofData?
    | .text s => Uuid.parse? s
    | _ => none

instance : DataForm PlayerId where
  toData p := toData p.uuid
  ofData? d := (ofData? d).map PlayerId.mk

instance : DataForm VillageId where
  toData v := toData v.uuid
  ofData? d := (ofData? d).map VillageId.mk

instance : DataForm EntryId where
  toData e := toData e.uuid
  ofData? d := (ofData? d).map EntryId.mk

instance : DataForm Timestamp where
  toData t := .text t.text
  ofData?
    | .text s => Timestamp.parse? s
    | _ => none

/-- A word by its name, or as the only field of a record that holds nothing. -/
def Data.word? {α : Type} [Vocabulary α] : Data → Option α
  | .text s | .record [(s,.null)] => Vocabulary.ofName? s
  | _ => none

instance : DataForm OwnerKind := ⟨fun a => .text (Vocabulary.name a), Data.word?⟩

instance : DataForm Tier := ⟨fun a => .text (Vocabulary.name a), Data.word?⟩

instance : DataForm HistoryAction := ⟨fun a => .text (Vocabulary.name a), Data.word?⟩

instance : DataForm Role := ⟨fun a => .text (Vocabulary.name a), Data.word?⟩

instance : DataForm Capability := ⟨fun a => .text (Vocabulary.name a), Data.word?⟩

instance : DataForm WorldAction := ⟨fun a => .text (Vocabulary.name a), Data.word?⟩

instance : DataForm CostKind where
  toData
    | .free => .text "Free"
    | .paid tier => .record [("Paid",toData tier)]
  ofData?
    | .text "Free" | .record [("Free",.null)] => some .free
    | .record [("Paid",d)] => (ofData? d).map .paid
    | _ => none

instance : DataForm Actor where
  toData a := .record [("id",toData a.id), ("name",toData a.name)]
  ofData? d :=
    match d.fields? ["id","name"] with
    | some [id,name] => do some ⟨← required id, ← required name⟩
    | _ => none

instance : DataForm Cell where
  toData c := .record [("world",toData c.world), ("x",toData c.x), ("z",toData c.z)]
  ofData? d :=
    match d.fields? ["world","x","z"] with
    | some [world,x,z] => do some ⟨← required world, ← required x, ← required z⟩
    | _ => none

/-- The kind of an owner. At the head of a list it stands as a bare name. -/
def Data.ownerKind? : Data → Option OwnerKind
  | .list (.text s :: _) => Vocabulary.ofName? s
  | .record fields =>
    match named? ["kind"] fields with
    | some [kind] => required kind
    | _ => none
  | _ => none

instance : DataForm Owner where
  toData
    | .personal p => .record [("kind",toData OwnerKind.personal), ("id",toData p)]
    | .village v => .record [("kind",toData OwnerKind.village), ("id",toData v)]
  ofData? d :=
    match d.ownerKind?, d.fields? ["kind","id"] with
    | some .personal, some [_,id] => (required id).map .personal
    | some .village, some [_,id] => (required id).map .village
    | _, _ => none

instance : DataForm Cost where
  toData c :=
    .record [("kind",toData c.kind), ("amount",toData c.amount),
      ("free_slot_index",toData c.freeSlot)]
  ofData? d :=
    match d.fields? ["kind","amount","free_slot_index"] with
    | some [kind,amount,slot] => do some ⟨← required kind, ← required amount, ← orNull slot⟩
    | _ => none

instance : DataForm Claim where
  toData c :=
    .record [("cell",toData c.cell), ("owner",toData c.owner), ("owner_name",toData c.ownerName),
      ("created_at",toData c.createdAt), ("updated_at",toData c.updatedAt), ("cost",toData c.cost)]
  ofData? d :=
    match d.fields? ["cell","owner","owner_name","created_at","updated_at","cost"] with
    | some [cell,owner,name,created,updated,cost] => do
      some ⟨← required cell, ← required owner, ← required name, ← required created,
        ← required updated, ← required cost⟩
    | _ => none

instance : DataForm HistoryEntry where
  toData e :=
    .record [("entry_id",toData e.id), ("cell",toData e.cell),
      ("previous_owner",toData e.previousOwner), ("new_owner",toData e.newOwner),
      ("actor_id",toData e.actor), ("action",toData e.action), ("reason",toData e.reason),
      ("timestamp",toData e.time)]
  ofData? d :=
    match d.fields? ["entry_id","cell","previous_owner","new_owner","actor_id","action","reason",
      "timestamp"] with
    | some [id,cell,previous,new,actor,action,reason,time] => do
      some ⟨← required id, ← required cell, ← orNull previous, ← orNull new, ← required actor,
        ← required action, ← orNull reason, ← required time⟩
    | _ => none

instance : DataForm Village where
  toData v :=
    .record [("village_id",toData v.id), ("name",toData v.name), ("mayor_id",toData v.mayor),
      ("created_at",toData v.createdAt), ("updated_at",toData v.updatedAt),
      ("active",toData v.active)]
  ofData? d :=
    match d.fields? ["village_id","name","mayor_id","created_at","updated_at","active"] with
    | some [id,name,mayor,created,updated,active] => do
      some ⟨← required id, ← required name, ← required mayor, ← required created,
        ← required updated, ← required active⟩
    | _ => none

instance : DataForm Membership where
  toData m :=
    .record [("village_id",toData m.village), ("member_id",toData m.member),
      ("member_name",toData m.memberName), ("role",toData m.role), ("joined_at",toData m.joinedAt),
      ("last_seen_at",toData m.lastSeenAt), ("active",toData m.active)]
  ofData? d :=
    match d.fields? ["village_id","member_id","member_name","role","joined_at","last_seen_at",
      "active"] with
    | some [village,member,name,role,joined,seen,active] => do
      some ⟨← required village, ← required member, ← required name, ← required role,
        ← required joined, ← required seen, ← required active⟩
    | _ => none

instance : DataForm Permission where
  toData p :=
    .record [("village_id",toData p.village), ("member_id",toData p.member),
      ("capability",toData p.capability), ("granted_by",toData p.grantedBy),
      ("granted_at",toData p.grantedAt)]
  ofData? d :=
    match d.fields? ["village_id","member_id","capability","granted_by","granted_at"] with
    | some [village,member,capability,granter,time] => do
      some ⟨← required village, ← required member, ← required capability, ← required granter,
        ← required time⟩
    | _ => none

end Freehold
