import Freehold.Order

/-!
Points in time, in universal time with nanoseconds. The nanoseconds pass a whole second during a
leap second, which belongs to the second before it.
-/

namespace Freehold
open Std

structure Timestamp where
  -- Seconds since the start of 1970, leap seconds not counted.
  seconds : Int
  nanos : Nat := 0
  nanos_lt : nanos < 2000000000 := by omega
deriving DecidableEq

namespace Timestamp

abbrev order : Timestamp → Timestamp → Ordering :=
  compareLex (compareOn Timestamp.seconds) (compareOn Timestamp.nanos)

instance : Ord Timestamp := ⟨order⟩

instance : TransOrd Timestamp := inferInstanceAs (TransCmp order)

def ofSeconds (s : Int) : Timestamp := { seconds := s }

end Timestamp

end Freehold
