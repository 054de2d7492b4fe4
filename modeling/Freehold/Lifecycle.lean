import Freehold.Realm

/-!
Starting, reloading and stopping. What is remembered is rebuilt from the rows of the store, in any
order in which it hands them out.
-/

namespace Freehold

namespace Realm

def loadDirectory (s : Realm) (rows : Rows) : Outcome Unit :=
  match rows.villages, rows.memberships, rows.permissions with
  | .error e, _, _ => ⟨s,[],.error e⟩
  | .ok _, .error e, _ => ⟨s,[],.error e⟩
  | .ok _, .ok _, .error e => ⟨s,[],.error e⟩
  | .ok villages, .ok memberships, .ok permissions =>
    let d := Directory.build villages memberships permissions
    ⟨{ s with directory := d },
      [.info "village directory loaded" [("villages",toString d.villages.size)]], .ok ()⟩

/-- Land of a village that is not active, which no request can lead to. -/
def orphan (village : VillageId) : Event :=
  let error := Error.invariantViolation
    ("claims reference village " ++ village.text ++ " which is not active")
  .error "orphaned village land" [("village",village.text), ("error",error.message)]

def orphans (s : Realm) : List Event :=
  (s.cache.villagesWithLand.filter fun v => (s.directory.village? v).isNone).map orphan

def loaded (s : Realm) : Event :=
  let stats := s.cache.stats
  .info "ownership state loaded"
    [("cells",toString stats.cells), ("players",toString stats.players),
      ("villages",toString stats.villages)]

/-- Rebuilds the cache, then the directory. The cache is already the new one when the directory
cannot be rebuilt. -/
def reloadFrom (s : Realm) (rows : Rows) : Outcome Unit :=
  match rows.claims, rows.marks with
  | .error e, _ => ⟨s,[],.error e⟩
  | .ok _, .error e => ⟨s,[],.error e⟩
  | .ok claims, .ok marks =>
    match { s with cache := .load claims marks }.loadDirectory rows with
    | ⟨s,events,.ok ()⟩ => ⟨s, events ++ s.orphans ++ [s.loaded], .ok ()⟩
    | ⟨s,events,.error e⟩ => ⟨s,events,.error e⟩

def reload (s : Realm) : Outcome Unit := s.reloadFrom s.storage.rows

def reloadDirectory (s : Realm) : Outcome Unit := s.loadDirectory s.storage.rows

def forget (s : Realm) : Realm := { s with cache := {}, directory := {} }

def start (s : Realm) : Outcome Unit :=
  match s.config.validate with
  | .ok () => s.forget.reload
  | .error e => ⟨s,[],.error (.config e)⟩

def restart (s : Realm) : Outcome Unit :=
  match s.start with
  | ⟨fresh,events,.ok ()⟩ => ⟨fresh,events,.ok ()⟩
  -- A start that fails leaves all as it was.
  | ⟨_,events,.error e⟩ => ⟨s,events,.error e⟩

def shutdown (s : Realm) : Outcome Unit :=
  ⟨s.forget, [.info "ownership system stopped" []], .ok ()⟩

end Realm

/-- A realm and whether it is in service. After a shutdown its store and its memory can still be
used, but it takes no further part in the game until it is started again. -/
structure Site where
  realm : Realm
  inService : Bool

namespace Site

def restart (site : Site) : Site × List Event × Except Error Unit :=
  match site.realm.restart with
  | ⟨s,events,.ok ()⟩ => (⟨s,true⟩,events,.ok ())
  | ⟨s,events,.error e⟩ => (⟨s,site.inService⟩,events,.error e)

end Site

end Freehold
