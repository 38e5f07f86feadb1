/-
Facades: connections to a resource manager that carry one branch at a time.

* `Facade.Error` — why a call on a facade failed, with its wording in
  `Facade.Error.message` and the XA return code in `Facade.Error.xaCode?`;
* `Facade.Finish` — the three ways to finish a branch;
* `Backend` — a kind of facade: how to make one from a factory and what each
  call on it does.

Design notes: a backend is a record of functions.  A facade is a plain value;
what facades share (a resource manager, a call log) is the *world*, which each
call takes and gives back, so that a call on one facade is seen by the others.
A backend need not obey any law, and a pool has to work over all of them.
-/
import BranchPool.Xid

namespace BranchPool

namespace Facade

/-- The calls that a facade or its factory counts as steps of the protocol. -/
inductive Call where
  | create
  | openUp
  | close
  | start
  | endAndPrepare
  | commit
  | rollback
  | failAndRollback
  | recover
  deriving DecidableEq

/-- The name of a call. -/
def Call.name : Call → String
  | .create => "Create"
  | .openUp => "Open"
  | .close => "Close"
  | .start => "Start"
  | .endAndPrepare => "EndAndPrepare"
  | .commit => "Commit"
  | .rollback => "Rollback"
  | .failAndRollback => "FailAndRollback"
  | .recover => "Recover"

/-- Why a resource manager rejected an XA call, as far as the rules of the
protocol name the reason. -/
inductive Rejection where
  /-- A branch of this name is live. -/
  | alreadyExists (x : Xid)
  /-- The branch was prepared before. -/
  | alreadyPrepared (x : Xid)
  /-- The branch cannot be committed before it is prepared. -/
  | notPrepared (x : Xid)
  /-- The branch is in use on some connection. -/
  | stillActive (x : Xid)
  /-- The connection works on another branch or on none. -/
  | notBound (x : Xid)
  /-- As `notBound`, for facades that are told apart by number. -/
  | notBoundTo (x : Xid) (facade : Nat)
  /-- The branch was committed without having been ended, and is lost. -/
  | neverEnded (x : Xid)
  /-- The failure was asked for. -/
  | injected (call : Call)
  deriving DecidableEq

namespace Rejection

/-- The XA return code of a rejection: `-8` for a name in use, `-7` for a
resource manager that failed, `-6` for a call out of order. -/
def code : Rejection → Int32
  | .alreadyExists _ => -8
  | .injected _ => -7
  | _ => -6

/-- The wording of a rejection. -/
def message : Rejection → String
  | .alreadyExists x => s!"branch {x} already exists"
  | .alreadyPrepared x => s!"branch {x} already prepared"
  | .notPrepared x => s!"branch {x} is not prepared"
  | .stillActive x => s!"branch {x} is still active"
  | .notBound x => s!"branch {x} is not bound to this connection"
  | .notBoundTo x facade => s!"branch {x} is not bound to facade {facade}"
  | .neverEnded x => s!"branch {x} was never ended and has been rolled back"
  | .injected call => s!"injected {call.name} failure"

end Rejection

/-- Why a call on a facade failed. -/
inductive Error where
  /-- The resource manager answered with a return code, and said why. -/
  | xa (code : Int32) (reason : String)
  /-- The resource manager rejected the call for a known reason. -/
  | rejected (rejection : Rejection)
  /-- The resource manager does not know the branch. -/
  | unknownBranch (x : Xid)
  /-- The connection works on another branch. -/
  | busy (bound requested : Xid)
  /-- The facade is not open. -/
  | closed
  /-- The data connection failed. -/
  | connection (reason : String)
  /-- The identifier is malformed. -/
  | invalidXid (reason : String)
  /-- The resource manager cannot be reached. -/
  | unavailable (reason : String)
  deriving DecidableEq

namespace Error

/-- A call that came out of order. -/
def protocol (reason : String) : Error := .xa (-6) reason

/-- An identifier with an oversized part. -/
def oversized (e : Xid.Oversized) : Error := .invalidXid e.message

/-- The wording of a failure. -/
def message : Error → String
  | .xa code reason => s!"XA error {code.toInt}: {reason}"
  | .rejected r => s!"XA error {r.code.toInt}: {r.message}"
  | .unknownBranch x => s!"unknown transaction branch: {x}"
  | .busy bound requested => s!"connection busy: bound to {bound}, cannot start {requested}"
  | .closed => "facade is closed"
  | .connection reason => s!"connection error: {reason}"
  | .invalidXid reason => s!"invalid xid: {reason}"
  | .unavailable reason => s!"resource manager unavailable: {reason}"

/-- The XA return code that a failure carries: an unknown branch counts as
`-4`, an unreachable resource manager as `-7`. -/
def xaCode? : Error → Option Int32
  | .xa code _ => some code
  | .rejected r => some r.code
  | .unknownBranch _ => some (-4)
  | .unavailable _ => some (-7)
  | _ => none

end Error

/-- How a branch is finished. -/
inductive Finish where
  /-- Commit; on request a branch that nobody knows counts as committed. -/
  | commit (ignoreUnknown : Bool)
  /-- Roll back a prepared branch. -/
  | rollback
  /-- Give up on a branch and roll it back. -/
  | failAndRollback
  deriving DecidableEq

/-- What a call on a facade leaves behind. -/
structure Reply (φ σ α : Type) where
  answer : Except Error α
  facade : φ
  world : σ

end Facade

open Facade in
/-- A kind of facade `φ` in a world `σ`, made by factories `γ` and giving
access to data connections `κ`. -/
structure Backend (γ σ φ κ : Type) where
  /-- Makes a facade, not yet open. -/
  create : γ → σ → Except Error φ × σ
  /-- Opens the connection. -/
  openUp : φ → σ → Reply φ σ Unit
  /-- Closes the connection; unprepared work on it is lost. -/
  close : φ → σ → Reply φ σ Unit
  /-- Whether the connection is open. -/
  isOpen : φ → σ → Bool
  /-- Begins work on a branch. -/
  start : Xid → φ → σ → Reply φ σ Unit
  /-- Ends the work on a branch and prepares it for commit. -/
  endAndPrepare : Xid → φ → σ → Reply φ σ Unit
  /-- Finishes a branch. -/
  finish : Finish → Xid → φ → σ → Reply φ σ Unit
  /-- Lists the branches that are prepared and not finished. -/
  recover : φ → σ → Reply φ σ (List Xid)
  /-- The data connection, if there is one. -/
  connection? : φ → σ → Option κ
  /-- The data connection for a caller that asks for it.  A backend may note in
  its world that it was asked. -/
  askConnection : φ → σ → Option κ × σ := fun f w => (connection? f w, w)
  /-- Whether the data connection can be used. -/
  isConnectionValid : φ → σ → Reply φ σ Bool
  /-- The data connection, made if there is none. -/
  establishConnection : φ → σ → Reply φ σ κ
  /-- Drops the data connection. -/
  closeConnection : φ → σ → φ × σ
  /-- A new data connection in place of the old one. -/
  reestablishConnection : φ → σ → Reply φ σ κ

end BranchPool
