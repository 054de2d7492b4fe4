import Freehold.Order

/-!
The closed vocabularies of the domain. Each value has a code, an upper-case word that is stored and
read back in any case of its ASCII letters, and a name, the exact word of the JSON form.
-/

namespace Freehold
open Std

class Vocabulary (α : Type) where
  -- What the vocabulary is called where a word is refused.
  title : String
  all : List α
  code : α → String
  name : α → String

structure UnknownWord where
  title : String
  word : String
deriving DecidableEq

def UnknownWord.message (u : UnknownWord) : String := "Invalid " ++ u.title ++ ": " ++ u.word

/-- Equality up to the case of ASCII letters. -/
def sameWord (a b : String) : Bool := a.toList.map Char.toLower == b.toList.map Char.toLower

namespace Vocabulary
variable {α : Type} [Vocabulary α]

def ofCode (word : String) : Except UnknownWord α :=
  match (all : List α).find? fun a => sameWord word (code a) with
  | some a => .ok a
  | none => .error ⟨title α,word⟩

def ofName? (word : String) : Option α := (all : List α).find? fun a => word == name a

end Vocabulary

inductive OwnerKind where
  | personal
  | village
deriving DecidableEq

instance : Vocabulary OwnerKind where
  title := "OwnerKind"
  all := [.personal, .village]
  code
    | .personal => "PERSONAL"
    | .village => "VILLAGE"
  name
    | .personal => "Personal"
    | .village => "Village"

inductive Tier where
  | ironIngot
  | diamond
  | netheriteIngot
deriving DecidableEq

instance : Vocabulary Tier where
  title := "PaidTier"
  all := [.ironIngot, .diamond, .netheriteIngot]
  code
    | .ironIngot => "IRON_INGOT"
    | .diamond => "DIAMOND"
    | .netheriteIngot => "NETHERITE_INGOT"
  name
    | .ironIngot => "IronIngot"
    | .diamond => "Diamond"
    | .netheriteIngot => "NetheriteIngot"

inductive HistoryAction where
  | claimed
  | unclaimed
  | confiscated
  | transferred
deriving DecidableEq

instance : Vocabulary HistoryAction where
  title := "HistoryAction"
  all := [.claimed, .unclaimed, .confiscated, .transferred]
  code
    | .claimed => "CLAIMED"
    | .unclaimed => "UNCLAIMED"
    | .confiscated => "CONFISCATED"
    | .transferred => "TRANSFERRED"
  name
    | .claimed => "Claimed"
    | .unclaimed => "Unclaimed"
    | .confiscated => "Confiscated"
    | .transferred => "Transferred"

inductive Role where
  | mayor
  | deputyMayor
  | member
deriving DecidableEq

instance : Vocabulary Role where
  title := "VillageRole"
  all := [.mayor, .deputyMayor, .member]
  code
    | .mayor => "MAYOR"
    | .deputyMayor => "DEPUTY_MAYOR"
    | .member => "MEMBER"
  name
    | .mayor => "Mayor"
    | .deputyMayor => "DeputyMayor"
    | .member => "Member"

def Role.rank : Role → Nat
  | .mayor => 0
  | .deputyMayor => 1
  | .member => 2

inductive Capability where
  | build
  | breakBlocks
  | useContainers
  | useRedstone
  | inviteMembers
  | kickMembers
  | manageLand
  | expandLand
  | reduceLand
  | manageRoles
  | managePermissions
  | renameVillage
  | dissolveVillage
deriving DecidableEq

instance : Vocabulary Capability where
  title := "VillageCapability"
  all := [.build, .breakBlocks, .useContainers, .useRedstone, .inviteMembers, .kickMembers,
    .manageLand, .expandLand, .reduceLand, .manageRoles, .managePermissions, .renameVillage,
    .dissolveVillage]
  code
    | .build => "BUILD"
    | .breakBlocks => "BREAK_BLOCKS"
    | .useContainers => "USE_CONTAINERS"
    | .useRedstone => "USE_REDSTONE"
    | .inviteMembers => "INVITE_MEMBERS"
    | .kickMembers => "KICK_MEMBERS"
    | .manageLand => "MANAGE_LAND"
    | .expandLand => "EXPAND_LAND"
    | .reduceLand => "REDUCE_LAND"
    | .manageRoles => "MANAGE_ROLES"
    | .managePermissions => "MANAGE_PERMISSIONS"
    | .renameVillage => "RENAME_VILLAGE"
    | .dissolveVillage => "DISSOLVE_VILLAGE"
  name
    | .build => "Build"
    | .breakBlocks => "BreakBlocks"
    | .useContainers => "UseContainers"
    | .useRedstone => "UseRedstone"
    | .inviteMembers => "InviteMembers"
    | .kickMembers => "KickMembers"
    | .manageLand => "ManageLand"
    | .expandLand => "ExpandLand"
    | .reduceLand => "ReduceLand"
    | .manageRoles => "ManageRoles"
    | .managePermissions => "ManagePermissions"
    | .renameVillage => "RenameVillage"
    | .dissolveVillage => "DissolveVillage"

namespace Capability

def rank (c : Capability) : Nat := c.ctorIdx

theorem eq_of_rank_eq {a b : Capability} (h : a.rank = b.rank) : a = b := by
  cases a <;> cases b <;> first | rfl | exact absurd h (by decide)

instance : Ord Capability := ⟨compareOn rank⟩

instance : TransOrd Capability := inferInstanceAs (TransCmp (compareOn rank))

instance : LawfulEqOrd Capability := lawfulEqCmp_compareOn eq_of_rank_eq

def isMayorOnly : Capability → Bool
  | .kickMembers | .expandLand | .reduceLand | .manageRoles | .managePermissions
  | .renameVillage | .dissolveVillage => true
  | .build | .breakBlocks | .useContainers | .useRedstone | .inviteMembers | .manageLand => false

end Capability

inductive WorldAction where
  | build
  | breakBlock
  | useContainer
  | useRedstone
deriving DecidableEq

instance : Vocabulary WorldAction where
  title := "WorldAction"
  all := [.build, .breakBlock, .useContainer, .useRedstone]
  code
    | .build => "BUILD"
    | .breakBlock => "BREAK_BLOCK"
    | .useContainer => "USE_CONTAINER"
    | .useRedstone => "USE_REDSTONE"
  name
    | .build => "Build"
    | .breakBlock => "BreakBlock"
    | .useContainer => "UseContainer"
    | .useRedstone => "UseRedstone"

def WorldAction.needs : WorldAction → Capability
  | .build => .build
  | .breakBlock => .breakBlocks
  | .useContainer => .useContainers
  | .useRedstone => .useRedstone

inductive CostKind where
  | free
  | paid (tier : Tier)
deriving DecidableEq

instance : Vocabulary CostKind where
  title := "CostKind"
  all := .free :: Vocabulary.all.map .paid
  code
    | .free => "FREE"
    | .paid tier => Vocabulary.code tier
  name
    | .free => "Free"
    | .paid tier => "Paid(" ++ Vocabulary.name tier ++ ")"

def CostKind.isFree (k : CostKind) : Bool := k = .free

end Freehold
