import Freehold.Data.Config
import Freehold.Toml.Document

/-!
Configurations as TOML texts.
-/

namespace Freehold.Config

def ofToml (text : String) : Except ConfigError Config :=
  match Toml.parse? text with
  | none => .error (.parse "not a TOML document")
  | some v =>
    match (ofData? v.toData : Option Config) with
    | none => .error (.parse "not the form of a configuration")
    | some config =>
      match config.validate with
      | .ok () => .ok config
      | .error e => .error e

end Freehold.Config
