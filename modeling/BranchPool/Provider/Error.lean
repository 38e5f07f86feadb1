/-
Why a call on a provider failed.

* `Provider.Error.message` — the wording;
* `Provider.Error.retryable` — only a transient failure is worth another try:
  the facade that failed is back in the pool by then;
* `Provider.Error.source?` — the failure of a facade beneath, if there is one.
-/
import BranchPool.Facade

namespace BranchPool.Provider

/-- What a provider was doing for a branch when a facade failed. -/
inductive Action where
  | commit
  | rollback
  | failAndRollback
  | recover
  deriving DecidableEq

/-- The name of an action. -/
def Action.name : Action → String
  | .commit => "commit"
  | .rollback => "rollback"
  | .failAndRollback => "fail-and-rollback"
  | .recover => "recover"

instance : ToString Action := ⟨Action.name⟩

/-- The action by which a branch is finished. -/
def Action.ofFinish : Facade.Finish → Action
  | .commit _ => .commit
  | .rollback => .rollback
  | .failAndRollback => .failAndRollback

/-- How a call broke the rules on the order of calls. -/
inductive Violation where
  /-- The provider has to be open. -/
  | notOpen
  /-- A provider cannot be opened while a branch is active. -/
  | openWhileActive (active : Xid)
  /-- A branch cannot be started while another is active. -/
  | startWhileActive (x active : Xid)
  /-- A branch cannot be started while a facade is bound to it. -/
  | alreadyBound (x : Xid)
  /-- Another branch is the active one. -/
  | endOther (x active : Xid)
  /-- There is no active branch to end. -/
  | endNone (x : Xid)
  /-- The active branch has no facade. -/
  | activeUnbound (x : Xid)
  /-- An active branch has to be ended first. -/
  | stillActive (action : Action) (x : Xid)
  /-- A violation that is told in words alone. -/
  | stated (reason : String)
  deriving DecidableEq

/-- The wording of a violation. -/
def Violation.message : Violation → String
  | .notOpen => "provider is not open"
  | .openWhileActive active => s!"cannot open: branch {active} is active"
  | .startWhileActive x active => s!"cannot start {x}: branch {active} is still active"
  | .alreadyBound x => s!"cannot start {x}: branch is already bound to a facade"
  | .endOther x active => s!"cannot end {x}: active branch is {active}"
  | .endNone x => s!"cannot end {x}: no branch is active"
  | .activeUnbound x => s!"active branch {x} has no facade"
  | .stillActive action x => s!"cannot {action} {x}: branch is still active"
  | .stated reason => reason

/-- Why a call on a provider failed. -/
inductive Error where
  /-- The call is not allowed in this state. -/
  | stateViolation (violation : Violation)
  /-- The operation works on the active branch, and there is none. -/
  | noActiveBranch (operation : String)
  /-- A facade failed to finish a branch or to recover. -/
  | transient (action : Action) (branch : Option Xid) (source : Facade.Error)
  /-- A new facade could not be made or opened. -/
  | creation (source : Facade.Error)
  /-- Some other call on a facade failed. -/
  | resource (source : Facade.Error)
  /-- Of all facades, these failed to close. -/
  | closeFailed (total : Nat) (failures : List Facade.Error)
  deriving DecidableEq

namespace Error

/-- The wording of a failure. -/
def message : Error → String
  | .stateViolation v => s!"state violation: {v.message}"
  | .noActiveBranch operation => s!"no active transaction branch for {operation}"
  | .transient action _ source => s!"transient failure during {action}: {source.message}"
  | .creation source => s!"failed to create resource facade: {source.message}"
  | .resource source => s!"resource error: {source.message}"
  | .closeFailed total failures => s!"failed to close {failures.length} of {total} facades"

/-- Whether the same call may be made again. -/
def retryable : Error → Bool
  | .transient .. => true
  | _ => false

/-- The failure of a facade that lies beneath. -/
def source? : Error → Option Facade.Error
  | .transient _ _ source => some source
  | .creation source => some source
  | .resource source => some source
  | _ => none

end Error

end BranchPool.Provider
