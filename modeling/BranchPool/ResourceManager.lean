/-
A resource manager that keeps its branches in memory.

A branch is *active* from its start to its preparation and *prepared* until it
is finished; a branch in either phase is live.  Each branch that stops being
live leaves an entry in the history of outcomes.

* `ResourceManager.begin?`, `prepare?`, `commit?`, `rollback?` — the manager
  after a call, or why it refuses; a manager that refuses is not changed;
* `ResourceManager.abandon` — what becomes of a branch whose connection is
  gone: active work is rolled back, all else stays;
* `ResourceManager.prepared`, `outcome?` — what is left to be finished, and how
  a branch was finished last.

While the manager is unavailable it refuses every call, but it still notices
that a connection is gone.
-/
import BranchPool.BranchMap
import BranchPool.Config
import BranchPool.Facade

namespace BranchPool

/-- How a branch was finished. -/
inductive Outcome where
  | committed
  | rolledBack
  deriving DecidableEq

/-- The name of an outcome. -/
def Outcome.name : Outcome → String
  | .committed => "Committed"
  | .rolledBack => "RolledBack"

/-- How far a live branch has come. -/
inductive Phase where
  | active
  | prepared
  deriving DecidableEq

/-- What is known of a live branch. -/
structure Branch where
  phase : Phase
  /-- The time the branch was given at its start. -/
  timeout : Option Timeout
  deriving DecidableEq

/-- The live branches of a resource manager, and what became of the others. -/
structure ResourceManager where
  branches : BranchMap Branch := ∅
  /-- The branches finished so far, the earliest first. -/
  outcomes : List (Xid × Outcome) := []
  available : Bool := true
  /-- How many connections were opened. -/
  connectionsOpened : Nat := 0
  /-- The number last given to a data connection. -/
  lastConnectionId : Nat := 0

namespace ResourceManager

open Facade (Error Rejection)

instance : Inhabited ResourceManager := ⟨{}⟩

/-! ### What a manager holds -/

/-- The phase of a live branch. -/
def phase? (m : ResourceManager) (x : Xid) : Option Phase :=
  (m.branches.get? x).map (·.phase)

/-- The prepared branches, in ascending order. -/
def prepared (m : ResourceManager) : List Xid :=
  m.branches.sortedKeysWhere fun entry => entry.phase = .prepared

/-- Whether a branch has been started and not yet ended. -/
def isActive (m : ResourceManager) (x : Xid) : Bool :=
  m.phase? x = some .active

/-- How a branch was finished last. -/
def outcome? (m : ResourceManager) (x : Xid) : Option Outcome :=
  (m.outcomes.reverse.find? fun e => e.1 = x).map (·.2)

/-- The time that a live branch was given. -/
def branchTimeout? (m : ResourceManager) (x : Xid) : Option Timeout :=
  (m.branches.get? x).bind (·.timeout)

/-! ### Calls -/

/-- Makes the manager reachable, or not. -/
def setAvailable (m : ResourceManager) (available : Bool) : ResourceManager :=
  { m with available }

/-- The failure of every call on a manager that cannot be reached. -/
def unreachable : Error := .unavailable "resource manager not reachable"

/-- Takes a branch off the live ones and notes how it was finished. -/
def resolve (m : ResourceManager) (x : Xid) (outcome : Outcome) : ResourceManager :=
  { m with branches := m.branches.erase x, outcomes := m.outcomes ++ [(x, outcome)] }

/-- Opens a connection. -/
def connect? (m : ResourceManager) : Except Error ResourceManager :=
  if m.available then .ok { m with connectionsOpened := m.connectionsOpened + 1 }
  else .error unreachable

/-- Lists the prepared branches, in ascending order. -/
def scan? (m : ResourceManager) : Except Error (List Xid) :=
  if m.available then .ok m.prepared else .error unreachable

/-- Begins a branch, which must not be live. -/
def begin? (m : ResourceManager) (x : Xid) (timeout : Option Timeout) :
    Except Error ResourceManager :=
  if m.available then
    if m.branches.contains x then .error (.rejected (.alreadyExists x))
    else .ok { m with branches := m.branches.insert x ⟨.active, timeout⟩ }
  else .error unreachable

/-- Prepares an active branch. -/
def prepare? (m : ResourceManager) (x : Xid) : Except Error ResourceManager :=
  if m.available then
    match m.branches.get? x with
    | some ⟨.active, timeout⟩ =>
      .ok { m with branches := m.branches.update x ⟨.prepared, timeout⟩ }
    | some ⟨.prepared, _⟩ => .error (.rejected (.alreadyPrepared x))
    | none => .error (.unknownBranch x)
  else .error unreachable

/-- Commits a prepared branch. -/
def commit? (m : ResourceManager) (x : Xid) (ignoreUnknown : Bool) :
    Except Error ResourceManager :=
  if m.available then
    match m.phase? x with
    | some .prepared => .ok (m.resolve x .committed)
    | some .active => .error (.rejected (.notPrepared x))
    | none => if ignoreUnknown then .ok m else .error (.unknownBranch x)
  else .error unreachable

/-- Rolls back a prepared branch or, if that is allowed, an active one. -/
def rollback? (m : ResourceManager) (x : Xid) (allowActive : Bool) :
    Except Error ResourceManager :=
  if m.available then
    match m.phase? x with
    | some .prepared => .ok (m.resolve x .rolledBack)
    | some .active =>
      if allowActive then .ok (m.resolve x .rolledBack)
      else .error (.rejected (.stillActive x))
    | none => .error (.unknownBranch x)
  else .error unreachable

/-- The connection that worked on a branch is gone, and its active work with
it. -/
def abandon (m : ResourceManager) (x : Xid) : ResourceManager :=
  if m.isActive x then m.resolve x .rolledBack else m

/-- Gives a number to a new data connection. -/
def numberConnection (m : ResourceManager) : Nat × ResourceManager :=
  (m.lastConnectionId + 1, { m with lastConnectionId := m.lastConnectionId + 1 })

end ResourceManager

end BranchPool
