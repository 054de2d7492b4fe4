import Std.Data.ExtTreeMap
import Std.Data.ExtTreeSet

/-!
Orders on keys. Every table of the library is a map of `Std.ExtTreeMap`, so two tables are equal
when they hold the same rows. A key type gets its order by an embedding into an ordered type, and
the order is lawful because the embedding is injective.
-/

namespace Freehold
open Std

theorem compareOn_eq_iff {α β : Type} [Ord β] [LawfulEqOrd β] {f : α → β}
    (hf : ∀ {a b}, f a = f b → a = b) (a b : α) : compareOn f a b = .eq ↔ a = b :=
  ⟨fun h => hf (LawfulEqOrd.eq_of_compare h), fun h => h ▸ ReflCmp.compare_self⟩

theorem lawfulEqCmp_compareOn {α β : Type} [Ord β] [LawfulEqOrd β] {f : α → β}
    (hf : ∀ {a b}, f a = f b → a = b) : LawfulEqCmp (compareOn f) where
  compare_self := ReflCmp.compare_self
  eq_of_compare h := (compareOn_eq_iff hf _ _).1 h

end Freehold
