/-
A coordinator that crashes between the two phases of commit.

A first provider prepares branches and is written down, then it is gone without
having finished any.  A second one is read back from the text, with a fresh
resource manager of its own.  It is attached to the manager of the first one,
asks it which branches are in doubt and finishes them.

* `Recovery.run` — what the second provider found and did, given the
  identifiers of the transactions;
* `Recovery.Report.json`, `Recovery.Report.lines` — the two forms of the report.
-/
import BranchPool.Workload.Simulation

namespace BranchPool.Recovery

/-- How much is run. -/
structure Options where
  /-- How many branches the first provider leaves prepared. -/
  prepared : UInt32 := 3
  /-- Whether branches in doubt are committed rather than rolled back. -/
  commit : Bool := false
  deriving DecidableEq

/-- Why a run could not go on. -/
inductive Error where
  | provider (error : Provider.Error)
  | snapshot (error : Snapshot.Error)
  deriving DecidableEq

/-- What the second provider found and did. -/
structure Report where
  /-- The size of the text in bytes. -/
  snapshotBytes : Nat
  inDoubt : List Xid
  /-- Whether the branches in doubt were committed. -/
  committed : Bool
  remainingPrepared : Nat
  tally : Tally
  deriving DecidableEq

/-- The form in which the provider is written down. -/
def form : Snapshot.Form (Provider Config Session) :=
  Snapshot.provider Snapshot.sessionFactory

/-- Starts and prepares one branch. -/
def prepareBranch (uuid : Nat → Uuid) (index : Nat) : Simulation.Step := fun s => do
  let x := Xid.generate workloadFormatId (uuid index) (UInt32.ofNat index)
  let s ← Simulation.call (Provider.start ResourceManager.backend x) s
  Simulation.call (Provider.endAndPrepare ResourceManager.backend x) s

/-- What the first provider does: it prepares branches and finishes none. -/
def prepareAll (o : Options) (uuid : Nat → Uuid) : Except Provider.Error Simulation.State := do
  let s : Simulation.State := { provider := .ofFactory (.named "recovery"), manager := {} }
  let s ← Simulation.call (Provider.openUp ResourceManager.backend) s
  (List.range o.prepared.toNat).foldlM (fun s index => prepareBranch uuid index s) s

/-- A provider over a fleet of managers, as it is read back from a text. -/
abbrev Restored := Provider (Attached Config) (Attached Session)

/-- Finishes one branch that is in doubt. -/
def resolve (commit : Bool) (x : Xid) (p : Restored) (ws : Fleet ResourceManager) :
    Provider.Reply (Attached Config) (Attached Session) (Fleet ResourceManager) Unit :=
  if commit then p.commit ResourceManager.backend.fleet x true ws
  else p.rollback ResourceManager.backend.fleet x ws

/-- Finishes branches that are in doubt, up to the first call that fails. -/
def resolveAll (commit : Bool) :
    List Xid → Restored → Fleet ResourceManager →
      Except Provider.Error (Restored × Fleet ResourceManager)
  | [], p, ws => .ok (p, ws)
  | x :: xs, p, ws => do
    let ((), p, ws) ← (resolve commit x p ws).toExcept
    resolveAll commit xs p ws

/-- What the second provider does on the manager that the first one left, which
is the first of the fleet. -/
def takeOver (o : Options) (snapshot : String) (p : Restored) (ws : Fleet ResourceManager) :
    Except Provider.Error Report := do
  let ((), p, ws) ← (p.openUp ResourceManager.backend.fleet ws).toExcept
  let (inDoubt, p, ws) ← (p.recover ResourceManager.backend.fleet ws).toExcept
  let (p, ws) ← resolveAll o.commit inDoubt p ws
  let report : Report :=
    { snapshotBytes := snapshot.utf8ByteSize
      inDoubt
      committed := o.commit
      remainingPrepared := (ws.get 0).prepared.length
      tally := p.tally }
  let _ ← (p.close ResourceManager.backend.fleet ws).toExcept
  return report

/-- Plays the crash and the recovery, the transactions identified by `uuid`. -/
def run (o : Options) (uuid : Nat → Uuid) : Except Error Report := do
  let s ← (prepareAll o uuid).mapError .provider
  let snapshot := Snapshot.text form s.provider
  let (p, ws) ← (Snapshot.restore Snapshot.sessionFactory snapshot [s.manager]).mapError .snapshot
  (takeOver o snapshot (p.attach 0) ws).mapError .provider

/-- The name of the way in which branches in doubt were finished. -/
def Report.resolution (r : Report) : String :=
  if r.committed then "commit" else "rollback"

/-- A report as a record. -/
def Report.json (r : Report) : Json :=
  .ofFields
    [("snapshot_bytes", .ofNat r.snapshotBytes),
      ("in_doubt", .array (r.inDoubt.map fun x => .ofString x.text)),
      ("resolution", .ofString r.resolution),
      ("remaining_prepared", .ofNat r.remainingPrepared),
      ("stats", Snapshot.tallyJson r.tally)]

/-- A report in words. -/
def Report.lines (r : Report) : List String :=
  ["=== Recovery ===",
    s!"Snapshot size:       {r.snapshotBytes} bytes",
    s!"In doubt:            {r.inDoubt.length}"] ++
  r.inDoubt.map (fun x => s!"  {x}") ++
  [s!"Resolution:          {r.resolution}",
    s!"Still prepared:      {r.remainingPrepared}",
    s!"Facades created:     {r.tally.facadesCreated}"]

end BranchPool.Recovery
