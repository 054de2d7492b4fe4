import Freehold.Config
import Freehold.Data

/-!
The configuration as plain data. Every field may be left out and then takes its default, but a
refund policy that is there needs its mode.
-/

namespace Freehold
open Data

instance : DataForm RefundPolicy where
  toData
    | .none => .record [("mode",.text "none")]
    | .fraction percent => .record [("mode",.text "fraction"), ("percent",toData percent)]
  ofData?
    | .record fields =>
      match named? ["mode"] fields with
      | some [some (.text "none")] => some .none
      | some [some (.text "fraction")] =>
        match named? ["percent"] fields with
        | some [percent] => (required percent).map .fraction
        | _ => none
      | _ => none
    | .list [.text "none"] | .openList [.text "none"] => some .none
    | .list [.text "fraction",percent] | .openList [.text "fraction",percent] =>
      (ofData? percent).map .fraction
    | _ => none

instance : DataForm TierPrices where
  toData p :=
    .record [("iron_ingot",toData p.ironIngot), ("diamond",toData p.diamond),
      ("netherite_ingot",toData p.netheriteIngot)]
  ofData? d :=
    match d.someFields? ["iron_ingot","diamond","netherite_ingot"] with
    | some [iron,diamond,netherite] => do
      let init : TierPrices := {}
      some ⟨← orDefault init.ironIngot iron, ← orDefault init.diamond diamond,
        ← orDefault init.netheriteIngot netherite⟩
    | _ => none

instance : DataForm ClaimConfig where
  toData c :=
    .record [("free_claim_quota",toData c.freeQuota), ("newcomer_claim_limit",toData c.newcomerLimit),
      ("tier_costs",toData c.prices), ("refund",toData c.refund)]
  ofData? d :=
    match d.someFields? ["free_claim_quota","newcomer_claim_limit","tier_costs","refund"] with
    | some [quota,limit,prices,refund] => do
      let init : ClaimConfig := {}
      some ⟨← orDefault init.freeQuota quota, ← orDefault init.newcomerLimit limit,
        ← orDefault init.prices prices, ← orDefault init.refund refund⟩
    | _ => none

instance : DataForm VillageConfig where
  toData v := .record [("name_min_len",toData v.shortestName), ("name_max_len",toData v.longestName)]
  ofData? d :=
    match d.someFields? ["name_min_len","name_max_len"] with
    | some [shortest,longest] => do
      let init : VillageConfig := {}
      some ⟨← orDefault init.shortestName shortest, ← orDefault init.longestName longest⟩
    | _ => none

instance : DataForm Config where
  toData c := .record [("claims",toData c.claims), ("villages",toData c.villages)]
  ofData? d :=
    match d.someFields? ["claims","villages"] with
    | some [claims,villages] => do
      some ⟨← orDefault {} claims, ← orDefault {} villages⟩
    | _ => none

end Freehold
