import Freehold.Realm

/-!
Whether a player may act inside a cell. Free land is open to everyone, a claim to its owner, to
players with authority over all land, and to those for whom a provider of the gate speaks.
-/

namespace Freehold

inductive Decision where
  | allowed
  | denied (ownerName : String) (ownerKind : OwnerKind)
deriving DecidableEq

inductive Provider where
  -- The trust of the owner in a visitor.
  | trust
  -- Trust in nobody.
  | noTrust
  -- The capability that the action needs, in the village that owns the land.
  | village
deriving DecidableEq

def Provider.speaks (provider : Provider) (s : Realm) (claim : Claim) (actor : PlayerId)
    (action : WorldAction) : Bool :=
  match provider, claim.owner with
  | .trust, .personal owner => s.trusts owner actor
  | .village, .village v => s.directory.hasCapability ⟨v,actor⟩ action.needs
  | _, _ => false

def Realm.decideWith (s : Realm) (providers : List Provider) (cell : Cell) (actor : PlayerId)
    (action : WorldAction) : List Event × Decision :=
  match s.cache.owner? cell with
  | none => ([],.allowed)
  | some claim =>
    if claim.owner = .personal actor ∨ s.isElevated actor ∨
        providers.any fun p => p.speaks s claim actor action then
      ([],.allowed)
    else
      ([.trace "action denied"
        [("cell",cell.text), ("actor",actor.text), ("action",Vocabulary.code action),
          ("owner",claim.owner.text)]],
        .denied claim.ownerName claim.kind)

def Provider.standard : List Provider := [.trust, .village]

def Realm.decide (s : Realm) (cell : Cell) (actor : PlayerId) (action : WorldAction) :
    List Event × Decision :=
  s.decideWith Provider.standard cell actor action

end Freehold
