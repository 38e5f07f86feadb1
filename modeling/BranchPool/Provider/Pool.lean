/-
The facades that an open provider holds.

A facade lies in one of two places: in the idle queue, or with the branch that
it is bound to.  The active slot holds no facade; it names the bound branch on
which work is going on.

* `Pool.facades` — every facade held, the bound ones first;
* `Pool.bindActive`, `Pool.unbind?`, `Pool.offerIdle` — a facade moves from the
  queue to a branch and back to the tail of the queue.
-/
import BranchPool.BranchMap

namespace BranchPool

/-- Idle and bound facades, and which branch is active. -/
structure Pool (φ : Type) where
  /-- Idle facades, the one that waited longest first. -/
  idle : List φ := []
  /-- Facades by the branch that they are bound to. -/
  bound : BranchMap φ := ∅
  /-- The branch on which work is going on. -/
  active : Option Xid := none

namespace Pool

variable {φ : Type}

instance : Inhabited (Pool φ) := ⟨{}⟩

/-- Every facade held: the bound ones in no particular order, then the idle
ones in order. -/
def facades (s : Pool φ) : List φ := s.bound.values ++ s.idle

/-- The active branch with its facade. -/
def activeFacade? (s : Pool φ) : Option (Xid × φ) := do
  let x ← s.active
  let f ← s.bound.get? x
  return (x, f)

/-- Binds a facade to a branch and makes that branch the active one. -/
def bindActive (s : Pool φ) (x : Xid) (f : φ) : Pool φ :=
  { s with bound := s.bound.insert x f, active := some x }

/-- Leaves no branch active; the facade stays bound. -/
def clearActive (s : Pool φ) : Pool φ :=
  { s with active := none }

/-- Takes away the facade bound to a branch, which is then no longer active. -/
def unbind? (s : Pool φ) (x : Xid) : Option (φ × Pool φ) :=
  (s.bound.get? x).map fun f =>
    (f, { s with
      bound := s.bound.erase x
      active := if s.active = some x then none else s.active })

/-- Puts a facade at the tail of the idle queue. -/
def offerIdle (s : Pool φ) (f : φ) : Pool φ :=
  { s with idle := s.idle ++ [f] }

end Pool

end BranchPool
