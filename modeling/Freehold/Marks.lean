import Freehold.Claim

/-!
The marks of players: the highest free slot that each has ever used. A mark never falls.
-/

namespace Freehold
open Std

abbrev Marks := ExtTreeMap PlayerId UInt32

namespace Marks

def of (marks : Marks) (player : PlayerId) : UInt32 := marks[player]?.getD 0

def raise (marks : Marks) (claim : Claim) : Marks :=
  match claim.freeSlot? with
  | some (player,slot) => marks.insert player (max (marks.of player) slot)
  | none => marks

end Marks

end Freehold
