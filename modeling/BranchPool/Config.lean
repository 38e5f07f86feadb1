/-
What a pool is told about its resource manager.

* `Timeout` — a length of time in seconds and nanoseconds, with fewer than
  10^9 nanoseconds and fewer than 2^64 seconds;
* `Timeout.ofParts?` — whole seconds among the nanoseconds carry over, and
  there is no such length of time if the seconds then reach 2^64;
* `Config` — the name of the resource manager and the time each branch is
  given.  It holds nothing that is tied to a running process, so that it can be
  written down and read back.
-/

namespace BranchPool

/-- A length of time. -/
structure Timeout where
  secs : Nat
  nanos : Nat
  secs_lt : secs < UInt64.size
  nanos_lt : nanos < 1_000_000_000
  deriving DecidableEq

namespace Timeout

/-- The length of time that the seconds and the nanoseconds make together. -/
def ofParts? (secs nanos : Nat) : Option Timeout :=
  if h : secs + nanos / 1_000_000_000 < UInt64.size then
    some ⟨secs + nanos / 1_000_000_000, nanos % 1_000_000_000, h, Nat.mod_lt _ (by decide)⟩
  else none

theorem ofParts?_self (t : Timeout) : ofParts? t.secs t.nanos = some t := by
  obtain ⟨secs, nanos, hs, hn⟩ := t
  have hdiv : nanos / 1_000_000_000 = 0 := Nat.div_eq_of_lt hn
  have hmod : nanos % 1_000_000_000 = nanos := Nat.mod_eq_of_lt hn
  simp only [ofParts?, hdiv, hmod, Nat.add_zero, dif_pos hs]

end Timeout

/-- The settings under which facades are made. -/
structure Config where
  resourceName : String
  timeout : Option Timeout
  deriving DecidableEq

namespace Config

/-- The settings for the named resource manager, without a timeout. -/
def named (resourceName : String) : Config := ⟨resourceName, none⟩

instance : Inhabited Config := ⟨named "default"⟩

end Config

end BranchPool
