import Freehold.Data.Config
import Freehold.Data.Entities
import Freehold.Proofs.TimestampText
import Freehold.Proofs.UuidText

/-!
Values are read back from the plain data that they are written as. This holds for all values of the
types without times, and for the others as long as their times can be read back from their texts. The
reader takes more forms than the writer gives, but every value that was read is written in a form
that gives the same value again.
-/

namespace Freehold

class LawfulDataForm (α : Type) [DataForm α] : Prop where
  ofData?_toData (a : α) : ofData? (toData a) = some a

class NonNull (α : Type) [DataForm α] : Prop where
  toData_ne_null (a : α) : toData a ≠ .null

export LawfulDataForm (ofData?_toData)

attribute [simp] ofData?_toData

class LawfulVocabulary (α : Type) [Vocabulary α] : Prop where
  ofName?_name (a : α) : Vocabulary.ofName? (Vocabulary.name a) = some a

namespace Data

theorem natBelow?_int {bound n : Nat} (h : n < bound) : natBelow? bound (.int n) = some n := by
  have hb : 0 ≤ (n : Int) ∧ (n : Int) < bound := ⟨Int.natCast_nonneg n,Int.ofNat_lt.mpr h⟩
  rw [natBelow?, if_pos hb, Int.toNat_natCast]

/-- A record is searched unless it gives one of the names twice. -/
theorem named?_eq_some_iff {names : List String} {fields : List (String × Data)}
    {found : List (Option Data)} :
    named? names fields = some found ↔
      (∀ name ∈ names, fields.countP (fun f => f.1 == name) ≤ 1) ∧
        (names.map fun name => fields.lookup name) = found := by
  rw [named?, Option.ite_none_right_eq_some, Option.some.injEq]

example (d d' : Data) : named? ["mode"] [("mode",d),("percent",.int 50),("mode",d')] = none := rfl

/-- Any names can be looked up in a record that repeats none. -/
theorem named?_of_nodup {fields : List (String × Data)} (h : (fields.map Prod.fst).Nodup)
    (names : List String) :
    named? names fields = some (names.map fun name => fields.lookup name) := by
  refine named?_eq_some_iff.mpr ⟨fun name _ => ?_,rfl⟩
  have hcount := List.nodup_iff_count.mp h name
  rwa [List.count, List.countP_map] at hcount

/-- A word is known by its name, as no two have the same. -/
@[simp] theorem word?_text {α : Type} [Vocabulary α] [LawfulVocabulary α] (a : α) :
    word? (.text (Vocabulary.name a)) = some a := LawfulVocabulary.ofName?_name a

variable {α : Type} [DataForm α]

/-- An optional value is read as nothing from null only. -/
theorem ofData?_of_ne_null {d : Data} (h : d ≠ .null) :
    (ofData? d : Option (Option α)) = (ofData? d).map some := by
  cases d with
  | null => exact absurd rfl h
  | _ => rfl

-- These hold by definition, but then checking a rewrite would run the reader of `α`.

@[simp] theorem required_some (d : Data) : (required (some d) : Option α) = ofData? d := by
  rw [required, Option.bind_some]

@[simp] theorem orDefault_some (init : α) (d : Data) : orDefault init (some d) = ofData? d := by
  rw [orDefault]

@[simp] theorem orNull_some (d : Data) : orNull (some d) = (ofData? d : Option (Option α)) := by
  cases d <;> rfl

end Data

section Plain
open Data

instance : LawfulDataForm String := ⟨fun _ => rfl⟩

instance : NonNull String := ⟨fun _ h => by cases h⟩

instance : LawfulDataForm Bool := ⟨fun _ => rfl⟩

instance : LawfulDataForm UInt8 where
  ofData?_toData n := by
    show (natBelow? UInt8.size (.int n.toNat)).map UInt8.ofNat = some n
    rw [natBelow?_int n.toNat_lt_size, Option.map_some, UInt8.ofNat_toNat]

instance : LawfulDataForm UInt32 where
  ofData?_toData n := by
    show (natBelow? UInt32.size (.int n.toNat)).map UInt32.ofNat = some n
    rw [natBelow?_int n.toNat_lt_size, Option.map_some, UInt32.ofNat_toNat]

instance : NonNull UInt32 := ⟨fun _ h => by cases h⟩

instance : LawfulDataForm UInt64 where
  ofData?_toData n := by
    show (natBelow? UInt64.size (.int n.toNat)).map UInt64.ofNat = some n
    rw [natBelow?_int n.toNat_lt_size, Option.map_some, UInt64.ofNat_toNat]

instance : NonNull UInt64 := ⟨fun _ h => by cases h⟩

instance : LawfulDataForm Int32 where
  ofData?_toData n := by
    show (if _ then some (Int32.ofInt n.toInt) else none) = some n
    rw [if_pos ⟨n.le_toInt,n.toInt_le⟩, Int32.ofInt_toInt]

instance {α : Type} [DataForm α] [LawfulDataForm α] [NonNull α] : LawfulDataForm (Option α) where
  ofData?_toData
    | none => rfl
    | some a => by
      have hread : (ofData? (toData a) : Option α) = some a := ofData?_toData a
      show (ofData? (toData a) : Option (Option α)) = some (some a)
      rw [ofData?_of_ne_null (NonNull.toData_ne_null a), hread]
      rfl

instance : LawfulDataForm Uuid := ⟨Uuid.parse?_text⟩

instance : LawfulDataForm PlayerId where
  ofData?_toData p := by
    show (ofData? (toData p.uuid)).map PlayerId.mk = some p
    rw [ofData?_toData]
    rfl

instance : LawfulDataForm VillageId where
  ofData?_toData v := by
    show (ofData? (toData v.uuid)).map VillageId.mk = some v
    rw [ofData?_toData]
    rfl

instance : LawfulDataForm EntryId where
  ofData?_toData e := by
    show (ofData? (toData e.uuid)).map EntryId.mk = some e
    rw [ofData?_toData]
    rfl

end Plain

section Words
open Data

instance : LawfulVocabulary OwnerKind := ⟨fun a => by cases a <;> rfl⟩

instance : LawfulVocabulary Tier := ⟨fun a => by cases a <;> rfl⟩

instance : LawfulVocabulary HistoryAction := ⟨fun a => by cases a <;> rfl⟩

instance : LawfulVocabulary Role := ⟨fun a => by cases a <;> rfl⟩

instance : LawfulVocabulary Capability := ⟨fun a => by cases a <;> rfl⟩

instance : LawfulVocabulary WorldAction := ⟨fun a => by cases a <;> rfl⟩

instance : LawfulDataForm OwnerKind := ⟨word?_text⟩

instance : LawfulDataForm Tier := ⟨word?_text⟩

instance : LawfulDataForm HistoryAction := ⟨word?_text⟩

instance : LawfulDataForm Role := ⟨word?_text⟩

instance : LawfulDataForm Capability := ⟨word?_text⟩

instance : LawfulDataForm WorldAction := ⟨word?_text⟩

instance : LawfulDataForm CostKind where
  ofData?_toData
    | .free => rfl
    | .paid tier => by
      show (ofData? (toData tier)).map CostKind.paid = some (.paid tier)
      rw [ofData?_toData]
      rfl

end Words

section Records
open Data

instance : LawfulDataForm Actor where
  ofData?_toData a := by
    show ofData? (Data.record _) = some a
    simp (disch := simp) only [ofData?, fields?, named?_of_nodup, List.map_cons, List.map_nil,
      List.lookup_cons]
    simp

instance : LawfulDataForm Cell where
  ofData?_toData c := by
    show ofData? (Data.record _) = some c
    simp (disch := simp) only [ofData?, fields?, named?_of_nodup, List.map_cons, List.map_nil,
      List.lookup_cons]
    simp

instance : LawfulDataForm Owner where
  ofData?_toData
    | .personal p => by
      show ofData? (Data.record _) = some (Owner.personal p)
      simp (disch := simp) only [ofData?, ownerKind?, fields?, named?_of_nodup, List.map_cons,
        List.map_nil, List.lookup_cons]
      simp
    | .village v => by
      show ofData? (Data.record _) = some (Owner.village v)
      simp (disch := simp) only [ofData?, ownerKind?, fields?, named?_of_nodup, List.map_cons,
        List.map_nil, List.lookup_cons]
      simp

instance : NonNull Owner := ⟨fun a h => by cases a <;> cases h⟩

instance : LawfulDataForm Cost where
  ofData?_toData c := by
    show ofData? (Data.record _) = some c
    simp (disch := simp) only [ofData?, fields?, named?_of_nodup, List.map_cons, List.map_nil,
      List.lookup_cons]
    simp

instance : LawfulDataForm RefundPolicy where
  ofData?_toData
    | .none => rfl
    | .fraction percent => by
      show ofData? (Data.record _) = some (RefundPolicy.fraction percent)
      simp (disch := simp) only [ofData?, named?_of_nodup, List.map_cons, List.map_nil,
        List.lookup_cons]
      simp

instance : LawfulDataForm TierPrices where
  ofData?_toData p := by
    show ofData? (Data.record _) = some p
    simp (disch := simp) only [ofData?, someFields?, named?_of_nodup, List.map_cons, List.map_nil,
      List.lookup_cons]
    simp

instance : LawfulDataForm ClaimConfig where
  ofData?_toData c := by
    show ofData? (Data.record _) = some c
    simp (disch := simp) only [ofData?, someFields?, named?_of_nodup, List.map_cons, List.map_nil,
      List.lookup_cons]
    simp

instance : LawfulDataForm VillageConfig where
  ofData?_toData v := by
    show ofData? (Data.record _) = some v
    simp (disch := simp) only [ofData?, someFields?, named?_of_nodup, List.map_cons, List.map_nil,
      List.lookup_cons]
    simp

instance : LawfulDataForm Config where
  ofData?_toData c := by
    show ofData? (Data.record _) = some c
    simp (disch := simp) only [ofData?, someFields?, named?_of_nodup, List.map_cons, List.map_nil,
      List.lookup_cons]
    simp

end Records

def Timestamp.Legible (t : Timestamp) : Prop := t.InFourDigits ∧ t.Regular

section Times
open Data

theorem Timestamp.Legible.ofData?_toData {t : Timestamp} (h : t.Legible) :
    ofData? (toData t) = some t := Timestamp.parse?_text h.1 h.2

/-- Every time that was read is regular, whatever text it came from. -/
theorem Data.regular_of_required {field : Option Data} {t : Timestamp}
    (h : required field = some t) : t.Regular := by
  obtain ⟨d, -, hd⟩ := Option.bind_eq_some_iff.mp h
  cases d with
  | text s => exact Timestamp.regular_of_parse? hd
  | _ => cases hd

/-- A claim is read back when both of its times are. The other records with times are alike. -/
theorem Claim.ofData?_toData {c : Claim} (h : ∀ t ∈ [c.createdAt,c.updatedAt], t.Legible) :
    ofData? (toData c) = some c := by
  have hcreated := (h c.createdAt (by simp)).ofData?_toData
  have hupdated := (h c.updatedAt (by simp)).ofData?_toData
  show ofData? (Data.record _) = some c
  simp (disch := simp) only [ofData?, fields?, named?_of_nodup, List.map_cons, List.map_nil,
    List.lookup_cons]
  simp [hcreated, hupdated]

theorem Claim.regular_of_ofData? {d : Data} {c : Claim} (h : ofData? d = some c) :
    ∀ t ∈ [c.createdAt,c.updatedAt], t.Regular := by
  simp only [ofData?] at h
  split at h
  · simp only [Option.bind_eq_bind, Option.bind_eq_some_iff, Option.some.injEq] at h
    obtain ⟨cell, -, owner, -, name, -, created, hcreated, updated, hupdated, cost, -, rfl⟩ := h
    simp [regular_of_required hcreated, regular_of_required hupdated]
  · cases h

theorem HistoryEntry.ofData?_toData {e : HistoryEntry} (h : ∀ t ∈ [e.time], t.Legible) :
    ofData? (toData e) = some e := by
  have htime := (h e.time (by simp)).ofData?_toData
  show ofData? (Data.record _) = some e
  simp (disch := simp) only [ofData?, fields?, named?_of_nodup, List.map_cons, List.map_nil,
    List.lookup_cons]
  simp [htime]

theorem HistoryEntry.regular_of_ofData? {d : Data} {e : HistoryEntry} (h : ofData? d = some e) :
    ∀ t ∈ [e.time], t.Regular := by
  simp only [ofData?] at h
  split at h
  · simp only [Option.bind_eq_bind, Option.bind_eq_some_iff, Option.some.injEq] at h
    obtain ⟨id, -, cell, -, previous, -, new, -, actor, -, action, -, reason, -, time, htime,
      rfl⟩ := h
    simp [regular_of_required htime]
  · cases h

theorem Village.ofData?_toData {v : Village} (h : ∀ t ∈ [v.createdAt,v.updatedAt], t.Legible) :
    ofData? (toData v) = some v := by
  have hcreated := (h v.createdAt (by simp)).ofData?_toData
  have hupdated := (h v.updatedAt (by simp)).ofData?_toData
  show ofData? (Data.record _) = some v
  simp (disch := simp) only [ofData?, fields?, named?_of_nodup, List.map_cons, List.map_nil,
    List.lookup_cons]
  simp [hcreated, hupdated]

theorem Village.regular_of_ofData? {d : Data} {v : Village} (h : ofData? d = some v) :
    ∀ t ∈ [v.createdAt,v.updatedAt], t.Regular := by
  simp only [ofData?] at h
  split at h
  · simp only [Option.bind_eq_bind, Option.bind_eq_some_iff, Option.some.injEq] at h
    obtain ⟨id, -, name, -, mayor, -, created, hcreated, updated, hupdated, active, -, rfl⟩ := h
    simp [regular_of_required hcreated, regular_of_required hupdated]
  · cases h

theorem Membership.ofData?_toData {m : Membership} (h : ∀ t ∈ [m.joinedAt,m.lastSeenAt], t.Legible) :
    ofData? (toData m) = some m := by
  have hjoined := (h m.joinedAt (by simp)).ofData?_toData
  have hseen := (h m.lastSeenAt (by simp)).ofData?_toData
  show ofData? (Data.record _) = some m
  simp (disch := simp) only [ofData?, fields?, named?_of_nodup, List.map_cons, List.map_nil,
    List.lookup_cons]
  simp [hjoined, hseen]

theorem Membership.regular_of_ofData? {d : Data} {m : Membership} (h : ofData? d = some m) :
    ∀ t ∈ [m.joinedAt,m.lastSeenAt], t.Regular := by
  simp only [ofData?] at h
  split at h
  · simp only [Option.bind_eq_bind, Option.bind_eq_some_iff, Option.some.injEq] at h
    obtain ⟨village, -, member, -, name, -, role, -, joined, hjoined, seen, hseen, active, -,
      rfl⟩ := h
    simp [regular_of_required hjoined, regular_of_required hseen]
  · cases h

theorem Permission.ofData?_toData {p : Permission} (h : ∀ t ∈ [p.grantedAt], t.Legible) :
    ofData? (toData p) = some p := by
  have hgranted := (h p.grantedAt (by simp)).ofData?_toData
  show ofData? (Data.record _) = some p
  simp (disch := simp) only [ofData?, fields?, named?_of_nodup, List.map_cons, List.map_nil,
    List.lookup_cons]
  simp [hgranted]

theorem Permission.regular_of_ofData? {d : Data} {p : Permission} (h : ofData? d = some p) :
    ∀ t ∈ [p.grantedAt], t.Regular := by
  simp only [ofData?] at h
  split at h
  · simp only [Option.bind_eq_bind, Option.bind_eq_some_iff, Option.some.injEq] at h
    obtain ⟨village, -, member, -, capability, -, granter, -, time, htime, rfl⟩ := h
    simp [regular_of_required htime]
  · cases h

end Times

section ReadsBack
variable {α : Type} [DataForm α]

/-- Values are read back as they were written, and what was read from any data is written in a form
that is read back and written again alike. The times in a value have to be such that their texts can
be read. -/
def ReadsBack (times : α → List Timestamp) : Prop :=
  (∀ a : α, (∀ t ∈ times a, t.Legible) → ofData? (toData a) = some a) ∧
    ∀ (d : Data) (a : α), ofData? d = some a → (∀ t ∈ times a, t.InFourDigits) →
      ofData? (toData a) = some a ∧ (ofData? (toData a) : Option α).map toData = some (toData a)

def timeless (_ : α) : List Timestamp := []

/-- What is read is regular, so that only its years count. -/
theorem readsBack_of_regular {times : α → List Timestamp}
    (hback : ∀ a : α, (∀ t ∈ times a, t.Legible) → ofData? (toData a) = some a)
    (hregular : ∀ (d : Data) (a : α), ofData? d = some a → ∀ t ∈ times a, t.Regular) :
    ReadsBack times := by
  refine ⟨hback,fun d a hd hyears => ?_⟩
  have ha : ofData? (toData a) = some a := hback a fun t ht => ⟨hyears t ht,hregular d a hd t ht⟩
  rw [ha]
  exact ⟨rfl,rfl⟩

/-- Where there are no times, nothing stands in the way. -/
theorem readsBack_timeless [LawfulDataForm α] : ReadsBack (timeless : α → List Timestamp) :=
  readsBack_of_regular (fun a _ => ofData?_toData a) fun _ _ _ _ ht => by cases ht

end ReadsBack

/-- Ids, cells, words, claims, the audit trail, villages and the configuration are read back. -/
theorem readsBack_forms :
    (ReadsBack (timeless : PlayerId → _) ∧ ReadsBack (timeless : VillageId → _) ∧
      ReadsBack (timeless : EntryId → _) ∧ ReadsBack (timeless : Actor → _) ∧
      ReadsBack (timeless : Cell → _)) ∧
    (ReadsBack (timeless : OwnerKind → _) ∧ ReadsBack (timeless : Tier → _) ∧
      ReadsBack (timeless : CostKind → _) ∧ ReadsBack (timeless : HistoryAction → _) ∧
      ReadsBack (timeless : Role → _) ∧ ReadsBack (timeless : Capability → _) ∧
      ReadsBack (timeless : WorldAction → _)) ∧
    (ReadsBack (timeless : Owner → _) ∧ ReadsBack (timeless : Cost → _) ∧
      ReadsBack (fun c : Claim => [c.createdAt,c.updatedAt]) ∧
      ReadsBack (fun e : HistoryEntry => [e.time]) ∧
      ReadsBack (fun v : Village => [v.createdAt,v.updatedAt]) ∧
      ReadsBack (fun m : Membership => [m.joinedAt,m.lastSeenAt]) ∧
      ReadsBack (fun p : Permission => [p.grantedAt])) ∧
    (ReadsBack (timeless : RefundPolicy → _) ∧ ReadsBack (timeless : TierPrices → _) ∧
      ReadsBack (timeless : ClaimConfig → _) ∧ ReadsBack (timeless : VillageConfig → _) ∧
      ReadsBack (timeless : Config → _)) := by
  have hclaim : ReadsBack (fun c : Claim => [c.createdAt,c.updatedAt]) :=
    readsBack_of_regular (fun _ => Claim.ofData?_toData) fun _ _ => Claim.regular_of_ofData?
  have hentry : ReadsBack (fun e : HistoryEntry => [e.time]) :=
    readsBack_of_regular (fun _ => HistoryEntry.ofData?_toData) fun _ _ =>
      HistoryEntry.regular_of_ofData?
  have hvillage : ReadsBack (fun v : Village => [v.createdAt,v.updatedAt]) :=
    readsBack_of_regular (fun _ => Village.ofData?_toData) fun _ _ => Village.regular_of_ofData?
  have hmember : ReadsBack (fun m : Membership => [m.joinedAt,m.lastSeenAt]) :=
    readsBack_of_regular (fun _ => Membership.ofData?_toData) fun _ _ =>
      Membership.regular_of_ofData?
  have hpermission : ReadsBack (fun p : Permission => [p.grantedAt]) :=
    readsBack_of_regular (fun _ => Permission.ofData?_toData) fun _ _ =>
      Permission.regular_of_ofData?
  refine ⟨⟨?_,?_,?_,?_,?_⟩,⟨?_,?_,?_,?_,?_,?_,?_⟩,
    ⟨?_,?_,hclaim,hentry,hvillage,hmember,hpermission⟩,⟨?_,?_,?_,?_,?_⟩⟩
  all_goals exact readsBack_timeless

/-- A permission that stands as a list, with a time two hours ahead, and a refund policy that stands
as a list are read as well. Both are written as records, the time as one of the day before. -/
theorem readsBack_lists :
    let d : Data :=
      .list [.text "00000000-0000-0000-0000-000000000001", .text "0000000000000000000000000000000A",
        .text "UseContainers", .text "00000000-0000-0000-0000-00000000000b",
        .text "2024-03-01 01:30:00 +02:00"]
    let p : Permission :=
      ⟨⟨.ofNat 1⟩,⟨.ofNat 10⟩,.useContainers,⟨.ofNat 11⟩,.ofSeconds 1709249400⟩
    let refund : Data := .list [.text "fraction",.int 50]
    (ofData? d = some p ∧ p.grantedAt.text = "2024-02-29T23:30:00Z" ∧
      ofData? refund = some (RefundPolicy.fraction 50)) ∧
    (ofData? (toData p) = some p ∧
      (ofData? (toData p) : Option Permission).map toData = some (toData p)) ∧
    ofData? (toData (RefundPolicy.fraction 50)) = some (RefundPolicy.fraction 50) := by
  intro d p refund
  have hread : ofData? d = some p := by
    decide +kernel
  have hrefund : ofData? refund = some (RefundPolicy.fraction 50) := by
    decide +kernel
  have hyear : 0 ≤ p.grantedAt.year ∧ p.grantedAt.year ≤ 9999 := by
    decide +kernel
  obtain ⟨-, -, ⟨-, -, -, -, -, -, hpermission⟩, hpolicy, -⟩ := readsBack_forms
  have hagain := hpermission.2 d p hread fun t ht => (List.mem_singleton.mp ht) ▸ hyear
  obtain ⟨hwritten, -⟩ := hpolicy.2 refund _ hrefund fun t ht => by cases ht
  exact ⟨⟨hread,by decide +kernel,hrefund⟩,hagain,hwritten⟩

end Freehold
