/-
A two-phase-commit workload over one pool.

Branches are started one after the other.  Every `failEvery`-th fails and is
rolled back; the others are prepared and wait, and as soon as more than
`inFlight` of them wait, the oldest is committed.  At the end all that wait are
committed.

* `Simulation.run` — what the workload used and did, given the identifiers of
  the transactions;
* `Simulation.Report.json`, `Simulation.Report.lines` — the two forms of the
  report.

Design note: the workload stops at the first call that fails.  No call does,
whatever the identifiers are, since the branches differ in their qualifiers.
-/
import BranchPool.ResourceManager.Session
import BranchPool.Snapshot
import BranchPool.Uuid

namespace BranchPool

/-- The format id of the branches that the workloads run. -/
def workloadFormatId : Int32 := 0x7861

namespace Simulation

/-- How much is run. -/
structure Options where
  /-- How many branches are started. -/
  branches : UInt32 := 10
  /-- How many prepared branches may wait. -/
  inFlight : UInt64 := 3
  /-- Every branch whose number, counted from one, is a multiple of this one
  fails; none does if it is zero or missing. -/
  failEvery : Option UInt32 := none
  deriving DecidableEq

/-- How far a workload has come. -/
structure State where
  provider : Provider Config Session
  manager : ResourceManager
  /-- The prepared branches that wait, the oldest first. -/
  pending : List Xid := []
  committed : Nat := 0
  rolledBack : Nat := 0

/-- What a workload used and did. -/
structure Report where
  branches : Nat
  committed : Nat
  rolledBack : Nat
  connectionsOpened : Nat
  idleFacades : Nat
  tally : Tally
  deriving DecidableEq

/-- A step of a workload, which may fail. -/
abbrev Step := State → Except Provider.Error State

/-- A call on the provider as a step, its answer dropped. -/
def call {α : Type}
    (f : Provider Config Session → ResourceManager →
      Provider.Reply Config Session ResourceManager α) : Step := fun s =>
  let r := f s.provider s.manager
  r.answer.map fun _ => { s with provider := r.provider, manager := r.world }

/-- Commits the oldest of the waiting branches until at most `limit` wait. -/
def settle (limit : Nat) : List Xid → Step
  | [], s => .ok { s with pending := [] }
  | x :: rest, s =>
    if rest.length + 1 > limit then do
      let s ← call (Provider.commit ResourceManager.backend x false) s
      settle limit rest { s with committed := s.committed + 1 }
    else .ok { s with pending := x :: rest }

/-- Whether the branch with an index, counted from zero, fails. -/
def fails (failEvery : Option UInt32) (index : Nat) : Bool :=
  match failEvery with
  | some n => 0 < n && (index + 1) % n.toNat = 0
  | none => false

/-- Runs one branch. -/
def runBranch (o : Options) (uuid : Nat → Uuid) (index : Nat) : Step := fun s => do
  let x := Xid.generate workloadFormatId (uuid index) (UInt32.ofNat index)
  let s ← call (Provider.start ResourceManager.backend x) s
  let s ← call (Provider.establishConnection ResourceManager.backend) s
  if fails o.failEvery index then
    let s ← call (Provider.failAndRollback ResourceManager.backend x) s
    return { s with rolledBack := s.rolledBack + 1 }
  else
    let s ← call (Provider.endAndPrepare ResourceManager.backend x) s
    settle o.inFlight.toNat (s.pending ++ [x]) s

/-- A workload that has not begun: a closed provider over a new manager. -/
def initial : State where
  provider := .ofFactory (.named "simulation")
  manager := {}

/-- Runs a workload, the transactions identified by `uuid`, and reports before
the provider is closed. -/
def run (o : Options) (uuid : Nat → Uuid) : Except Provider.Error Report := do
  let s ← call (Provider.openUp ResourceManager.backend) initial
  let s ← (List.range o.branches.toNat).foldlM (fun s index => runBranch o uuid index s) s
  let s ← settle 0 s.pending s
  let report : Report :=
    { branches := o.branches.toNat
      committed := s.committed
      rolledBack := s.rolledBack
      connectionsOpened := s.manager.connectionsOpened
      idleFacades := s.provider.idleCount
      tally := s.provider.tally }
  let _ ← call (Provider.close ResourceManager.backend) s
  return report

/-- A report as a record. -/
def Report.json (r : Report) : Json :=
  .ofFields
    [("branches", .ofNat r.branches),
      ("committed", .ofNat r.committed),
      ("rolled_back", .ofNat r.rolledBack),
      ("connections_opened", .ofNat r.connectionsOpened),
      ("idle_facades", .ofNat r.idleFacades),
      ("stats", Snapshot.tallyJson r.tally)]

/-- A report in words. -/
def Report.lines (r : Report) : List String :=
  ["=== Simulation ===",
    s!"Branches:            {r.branches}",
    s!"Committed:           {r.committed}",
    s!"Rolled back:         {r.rolledBack}",
    s!"Connections opened:  {r.connectionsOpened}",
    s!"Idle at end:         {r.idleFacades}",
    "",
    "=== Pool ===",
    s!"Facades created:     {r.tally.facadesCreated}",
    s!"Branches prepared:   {r.tally.branchesPrepared}",
    s!"Transient failures:  {r.tally.transientFailures}"]

end Simulation

end BranchPool
