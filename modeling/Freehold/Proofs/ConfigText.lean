import Freehold.Proofs.ReadBack
import Freehold.Proofs.TomlText
import Freehold.Toml.Config

/-!
Which configurations a TOML text can hold. TOML has no null, and the limit for newcomers takes its
default when it is left out, so no text takes the limit away. All other valid configurations can be
written, as long as their numbers are integers of TOML.
-/

namespace Freehold

namespace Config
open Toml

def refundPairs : RefundPolicy → List Pair
  | .none => [⟨["claims","refund"],"mode",.text "none"⟩]
  | .fraction percent =>
    [⟨["claims","refund"],"mode",.text "fraction"⟩,
      ⟨["claims","refund"],"percent",.int percent.toNat⟩]

def pairs (c : Config) (limit : UInt64) : List Pair :=
  [⟨["claims"],"free_claim_quota",.int c.claims.freeQuota.toNat⟩,
    ⟨["claims"],"newcomer_claim_limit",.int limit.toNat⟩,
    ⟨["claims","tier_costs"],"iron_ingot",.int c.claims.prices.ironIngot.toNat⟩,
    ⟨["claims","tier_costs"],"diamond",.int c.claims.prices.diamond.toNat⟩,
    ⟨["claims","tier_costs"],"netherite_ingot",.int c.claims.prices.netheriteIngot.toNat⟩] ++
  refundPairs c.claims.refund ++
  [⟨["villages"],"name_min_len",.int c.villages.shortestName.toNat⟩,
    ⟨["villages"],"name_max_len",.int c.villages.longestName.toNat⟩]

def refundFields : RefundPolicy → Fields
  | .none => [("mode",.value (.text "none"))]
  | .fraction percent =>
    [("mode",.value (.text "fraction")), ("percent",.value (.int percent.toNat))]

def fields (c : Config) (limit : UInt64) : Fields :=
  [("claims",.table .dotted [("free_claim_quota",.value (.int c.claims.freeQuota.toNat)),
      ("newcomer_claim_limit",.value (.int limit.toNat)),
      ("tier_costs",.table .dotted [("iron_ingot",.value (.int c.claims.prices.ironIngot.toNat)),
        ("diamond",.value (.int c.claims.prices.diamond.toNat)),
        ("netherite_ingot",.value (.int c.claims.prices.netheriteIngot.toNat))]),
      ("refund",.table .dotted (refundFields c.claims.refund))]),
    ("villages",.table .dotted [("name_min_len",.value (.int c.villages.shortestName.toNat)),
      ("name_max_len",.value (.int c.villages.longestName.toNat))])]

/-- The pairs of a configuration with a limit for newcomers, set one after the other, make up its
tables. -/
theorem set_pairs (c : Config) (limit : UInt64) :
    (c.pairs limit).foldlM Pair.set {} = some { root := c.fields limit } := by
  have hset (r : Fields) (p : Pair) :
      Pair.set { root := r } p = (r.insertAt p.path p.key p.value).map fun r => { root := r } := rfl
  unfold pairs fields
  cases c.claims.refund with
  | none =>
    simp [refundPairs, refundFields, hset, Fields.insertAt, Fields.update, Fields.insertNew,
      Fields.set, List.lookup_cons, List.lookup_nil]
  | fraction percent =>
    simp [refundPairs, refundFields, hset, Fields.insertAt, Fields.update, Fields.insertNew,
      Fields.set, List.lookup_cons, List.lookup_nil]

/-- The tables are the plain data of the configuration. -/
theorem toData_fields {c : Config} {limit : UInt64} (h : c.claims.newcomerLimit = some limit) :
    (Value.table (Fields.toValues (c.fields limit))).toData = toData c := by
  obtain ⟨⟨quota, newcomers, prices, refund⟩, villages⟩ := c
  cases h
  cases refund <;> rfl

structure FitsToml (c : Config) : Prop where
  newcomerLimit : ∀ limit ∈ c.claims.newcomerLimit, limit.toNat ≤ 2^63-1
  shortestName : c.villages.shortestName.toNat ≤ 2^63-1
  longestName : c.villages.longestName.toNat ≤ 2^63-1

theorem refundPairs_isSimple (refund : RefundPolicy) : ∀ p ∈ refundPairs refund, p.IsSimple := by
  cases refund with
  | none =>
    simp only [refundPairs, List.forall_mem_cons]
    exact ⟨isSimple_text (by decide) (by decide),by simp⟩
  | fraction percent =>
    have hpercent : percent.toNat < 256 := percent.toNat_lt
    simp only [refundPairs, List.forall_mem_cons]
    exact ⟨isSimple_text (by decide) (by decide),isSimple_int (by decide) (by omega),by simp⟩

/-- The pairs can be written in their plainest form. The numbers of the smaller types always fit,
the other ones as long as they are integers of TOML. -/
theorem pairs_isSimple {c : Config} {limit : UInt64} (h : c.claims.newcomerLimit = some limit)
    (hfits : c.FitsToml) : ∀ p ∈ c.pairs limit, p.IsSimple := by
  have hsmall (n : UInt32) : n.toNat ≤ 2^63-1 := by
    have hlt : n.toNat < 4294967296 := n.toNat_lt
    omega
  have hnone : ∀ p ∈ ([] : List Pair), p.IsSimple := fun p hp => by cases hp
  unfold pairs
  simp only [List.forall_mem_append, List.forall_mem_cons]
  refine ⟨⟨⟨?_,?_,?_,?_,?_,hnone⟩,refundPairs_isSimple c.claims.refund⟩,?_,?_,hnone⟩
  · exact isSimple_int (by decide) (hsmall c.claims.freeQuota)
  · exact isSimple_int (by decide) (hfits.newcomerLimit limit h)
  · exact isSimple_int (by decide) (hsmall c.claims.prices.ironIngot)
  · exact isSimple_int (by decide) (hsmall c.claims.prices.diamond)
  · exact isSimple_int (by decide) (hsmall c.claims.prices.netheriteIngot)
  · exact isSimple_int (by decide) hfits.shortestName
  · exact isSimple_int (by decide) hfits.longestName

/-- A text is taken when it is TOML, holds a configuration and breaks no rule. -/
theorem ofToml_eq_ok_iff {text : String} {c : Config} :
    ofToml text = .ok c ↔
      ∃ v, parse? text = some v ∧ ofData? v.toData = some c ∧ c.validate = .ok () := by
  constructor
  · intro h
    unfold ofToml at h
    split at h
    · cases h
    · next v hparse =>
      split at h
      · cases h
      · next config hread =>
        split at h
        · next hvalid =>
          cases h
          exact ⟨v,hparse,hread,hvalid⟩
        · cases h
  · rintro ⟨v, hparse, hread, hvalid⟩
    rw [ofToml, hparse]
    dsimp only
    rw [hread]
    dsimp only
    rw [hvalid]

/-- A limit for newcomers can be written, with whatever else is valid. -/
theorem ofToml_pairs {c : Config} {limit : UInt64} (hvalid : c.validate = .ok ())
    (hfits : c.FitsToml) (h : c.claims.newcomerLimit = some limit) :
    ofToml (String.ofList ((c.pairs limit).flatMap Pair.chars)) = .ok c := by
  have hparse : parse? (String.ofList ((c.pairs limit).flatMap Pair.chars)) =
      some (.table (Fields.toValues (c.fields limit))) := by
    rw [parse?_flatMap (pairs_isSimple h hfits), set_pairs, Option.map_some]
  have hread : ofData? (Value.table (Fields.toValues (c.fields limit))).toData = some c := by
    rw [toData_fields h]
    exact ofData?_toData c
  exact ofToml_eq_ok_iff.mpr ⟨_,hparse,hread,hvalid⟩

end Config

section NoNull
open Toml Data

theorem Toml.Value.exists_of_mem_listToData {items : List Value} {d : Data}
    (h : d ∈ Value.listToData items) : ∃ v : Value, d = v.toData := by
  induction items with
  | nil => cases h
  | cons v items ih =>
    rw [Value.listToData, List.mem_cons] at h
    rcases h with rfl | h
    · exact ⟨v,rfl⟩
    · exact ih h

/-- The fields of a structure in TOML are missing or hold values of TOML. -/
theorem Toml.Value.eq_of_mem_someFields? {v : Value} {names : List String}
    {fields : List (Option Data)} (h : v.toData.someFields? names = some fields)
    {field : Option Data} (hf : field ∈ fields) :
    field = none ∨ ∃ w : Value, field = some w.toData := by
  cases v with
  | table entries =>
    obtain ⟨-, rfl⟩ := named?_eq_some_iff.mp h
    obtain ⟨name, -, rfl⟩ := List.mem_map.mp hf
    rw [Value.lookup_fieldsToData]
    cases entries.lookup name with
    | none => exact .inl rfl
    | some w => exact .inr ⟨w,rfl⟩
  | list items =>
    cases h
    rcases List.mem_append.mp hf with hitem | hmissing
    · obtain ⟨d, hd, rfl⟩ := List.mem_map.mp hitem
      obtain ⟨w, rfl⟩ := exists_of_mem_listToData (List.mem_of_mem_take hd)
      exact .inr ⟨w,rfl⟩
    · exact .inl (List.eq_of_mem_replicate hmissing)
  | moment =>
    obtain ⟨-, rfl⟩ := named?_eq_some_iff.mp h
    obtain ⟨name, -, rfl⟩ := List.mem_map.mp hf
    exact .inl rfl
  | _ => cases h

/-- The limit for newcomers is the default one or one that is written. -/
theorem ClaimConfig.newcomerLimit_ne_none {v : Value} {c : ClaimConfig}
    (h : ofData? v.toData = some c) : c.newcomerLimit ≠ none := by
  simp only [ofData?] at h
  split at h
  · next quota limit prices refund hfields =>
    simp only [Option.bind_eq_bind, Option.bind_eq_some_iff, Option.some.injEq] at h
    obtain ⟨quota', -, limit', hlimit, prices', -, refund', -, rfl⟩ := h
    -- left out, it is the default, and what is written is no null
    have hmem : limit ∈ [quota,limit,prices,refund] := by simp
    rcases Value.eq_of_mem_someFields? hfields hmem with rfl | ⟨w, rfl⟩
    · cases hlimit
      exact Option.some_ne_none _
    · rw [orDefault_some, ofData?_of_ne_null w.toData_ne_null] at hlimit
      obtain ⟨n, -, rfl⟩ := Option.map_eq_some_iff.mp hlimit
      exact Option.some_ne_none n
  · cases h

end NoNull

namespace Config
open Toml Data

/-- Whatever text is read, newcomers are limited afterwards. -/
theorem newcomerLimit_ne_none_of_ofToml {text : String} {c : Config} (h : ofToml text = .ok c) :
    c.claims.newcomerLimit ≠ none := by
  obtain ⟨v, -, hread, -⟩ := ofToml_eq_ok_iff.mp h
  simp only [ofData?] at hread
  split at hread
  · next claims villages hfields =>
    simp only [Option.bind_eq_bind, Option.bind_eq_some_iff, Option.some.injEq] at hread
    obtain ⟨claims', hclaims, villages', -, rfl⟩ := hread
    have hmem : claims ∈ [claims,villages] := by simp
    rcases Value.eq_of_mem_someFields? hfields hmem with rfl | ⟨w, rfl⟩
    · cases hclaims
      exact Option.some_ne_none _
    · rw [orDefault_some] at hclaims
      exact ClaimConfig.newcomerLimit_ne_none hclaims
  · cases hread

/-- A valid configuration can be written in TOML just when it limits newcomers. -/
theorem exists_toml_iff {c : Config} (hvalid : c.validate = .ok ()) (hfits : c.FitsToml) :
    (∃ text, ofToml text = .ok c) ↔ c.claims.newcomerLimit ≠ none := by
  constructor
  · rintro ⟨text, h⟩
    exact newcomerLimit_ne_none_of_ofToml h
  · intro h
    obtain ⟨limit, hlimit⟩ := Option.ne_none_iff_exists'.mp h
    exact ⟨_,ofToml_pairs hvalid hfits hlimit⟩

/-- A limit of one claim and refunds in full can be written. -/
theorem exists_toml_refunding :
    let c : Config := { claims := { newcomerLimit := some 1, refund := .fraction 100 } }
    (c.validate = .ok () ∧ c.FitsToml) ∧
      ((∃ text, ofToml text = .ok c) ↔ c.claims.newcomerLimit ≠ none) := by
  intro c
  have hvalid : c.validate = .ok () := rfl
  have hfits : c.FitsToml := ⟨by rintro _ ⟨⟩; decide,by decide,by decide⟩
  exact ⟨⟨hvalid,hfits⟩,exists_toml_iff hvalid hfits⟩

/-- No text takes the limit away from the defaults, though they are valid without it. -/
theorem no_toml_uncapped :
    let c : Config := { claims := { newcomerLimit := none } }
    (c.validate = .ok () ∧ c.FitsToml) ∧ ¬∃ text, ofToml text = .ok c := by
  intro c
  refine ⟨⟨rfl,by rintro _ ⟨⟩,by decide,by decide⟩,?_⟩
  rintro ⟨text, h⟩
  exact newcomerLimit_ne_none_of_ofToml h rfl

end Config

end Freehold
