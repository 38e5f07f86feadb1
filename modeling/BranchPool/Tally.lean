/-
Counters of what a provider has done.

Every counter only grows, and none is reset while the provider lives.
`Tally.entries` gives them by name, in the order in which they are reported.
-/

namespace BranchPool

/-- What a provider has done so far. -/
structure Tally where
  /-- Facades made and opened. -/
  facadesCreated : Nat := 0
  /-- Facades dropped because a branch could not be started on them. -/
  facadesDiscarded : Nat := 0
  branchesStarted : Nat := 0
  branchesPrepared : Nat := 0
  branchesCommitted : Nat := 0
  /-- Branches rolled back, after a failure or without. -/
  branchesRolledBack : Nat := 0
  /-- Attempts to finish a branch that no facade was bound to. -/
  unmappedFinalizations : Nat := 0
  /-- Attempts to finish a branch, or to recover, that failed. -/
  transientFailures : Nat := 0
  recoveries : Nat := 0
  deriving DecidableEq

namespace Tally

instance : Inhabited Tally := ⟨{}⟩

/-- Facades made and not discarded. -/
def liveFacades (t : Tally) : Nat :=
  t.facadesCreated - t.facadesDiscarded

/-- The counters by name. -/
def entries (t : Tally) : List (String × Nat) :=
  [("facades_created", t.facadesCreated),
    ("facades_discarded", t.facadesDiscarded),
    ("branches_started", t.branchesStarted),
    ("branches_prepared", t.branchesPrepared),
    ("branches_committed", t.branchesCommitted),
    ("branches_rolled_back", t.branchesRolledBack),
    ("unmapped_finalizations", t.unmappedFinalizations),
    ("transient_failures", t.transientFailures),
    ("recoveries", t.recoveries)]

/-- One more facade made and opened. -/
def addCreated (t : Tally) : Tally :=
  { t with facadesCreated := t.facadesCreated + 1 }

/-- One more facade discarded. -/
def addDiscarded (t : Tally) : Tally :=
  { t with facadesDiscarded := t.facadesDiscarded + 1 }

/-- One more branch started. -/
def addStarted (t : Tally) : Tally :=
  { t with branchesStarted := t.branchesStarted + 1 }

/-- One more branch prepared. -/
def addPrepared (t : Tally) : Tally :=
  { t with branchesPrepared := t.branchesPrepared + 1 }

/-- One more branch committed. -/
def addCommitted (t : Tally) : Tally :=
  { t with branchesCommitted := t.branchesCommitted + 1 }

/-- One more branch rolled back. -/
def addRolledBack (t : Tally) : Tally :=
  { t with branchesRolledBack := t.branchesRolledBack + 1 }

/-- One more attempt to finish a branch without a facade of its own. -/
def addUnmapped (t : Tally) : Tally :=
  { t with unmappedFinalizations := t.unmappedFinalizations + 1 }

/-- One more attempt that failed and may be made again. -/
def addTransient (t : Tally) : Tally :=
  { t with transientFailures := t.transientFailures + 1 }

/-- One more recovery scan. -/
def addRecovery (t : Tally) : Tally :=
  { t with recoveries := t.recoveries + 1 }

end Tally

end BranchPool
