/-
Sessions: the facades of a resource manager that lives in memory.

A session is one connection to the manager.  It is *bound* to a branch from the
start of the branch until it is prepared or finished, and takes no other branch
meanwhile.  Any open session may finish a prepared branch.

* `Session.start` to `Session.recover` — the branch operations;
* `Session.release` — a session that finishes the branch it is bound to
  discards the unended work, so that a commit of it fails;
* `ResourceManager.backend` — sessions as facades, made from a `Config`, with
  the manager as their world.
-/
import BranchPool.ResourceManager

namespace BranchPool

/-- A data connection of a session. -/
structure DataLink where
  /-- Unlike that of every other data connection of the manager. -/
  id : Nat
  /-- The name of the resource manager. -/
  resource : String
  deriving DecidableEq

/-- A connection to a resource manager that carries one branch at a time. -/
structure Session where
  config : Config
  isOpen : Bool := false
  /-- The branch that the session works on. -/
  bound : Option Xid := none
  link : Option DataLink := none
  deriving DecidableEq

namespace Session

open Facade (Error Rejection Finish)

variable {α : Type}

/-- What a call on a session leaves behind. -/
abbrev Reply (α : Type) := Facade.Reply Session ResourceManager α

/-- A call that needs an open connection. -/
def whenOpen (call : Session → ResourceManager → Reply α) (s : Session) (m : ResourceManager) :
    Reply α :=
  if s.isOpen then call s m else ⟨.error .closed, s, m⟩

/-- A call that the manager answers, after which the session is `after`.  If
the manager refuses, nothing changes. -/
def ask (result : Except Error ResourceManager) (after : Session) (s : Session)
    (m : ResourceManager) : Reply Unit :=
  match result with
  | .ok m => ⟨.ok (), after, m⟩
  | .error e => ⟨.error e, s, m⟩

/-- Opens the connection; an open one stays as it is. -/
def openUp (s : Session) (m : ResourceManager) : Reply Unit :=
  if s.isOpen then ⟨.ok (), s, m⟩ else ask m.connect? { s with isOpen := true } s m

/-- Closes the connection and drops the data connection.  Unended work of the
bound branch is rolled back. -/
def close (s : Session) (m : ResourceManager) : Reply Unit :=
  let m := match s.bound with
    | some x => m.abandon x
    | none => m
  ⟨.ok (), { s with isOpen := false, bound := none, link := none }, m⟩

/-- Begins a branch and binds the session to it. -/
def start (x : Xid) : Session → ResourceManager → Reply Unit :=
  whenOpen fun s m =>
    match s.bound with
    | some y => ⟨.error (.busy y x), s, m⟩
    | none => ask (m.begin? x s.config.timeout) { s with bound := some x } s m

/-- Ends and prepares the bound branch, which frees the session. -/
def endAndPrepare (x : Xid) : Session → ResourceManager → Reply Unit :=
  whenOpen fun s m =>
    if s.bound = some x then ask (m.prepare? x) { s with bound := none } s m
    else ⟨.error (.rejected (.notBound x)), s, m⟩

/-- Drops the branch the session is bound to, with its unended work. -/
def release (x : Xid) (s : Session) (m : ResourceManager) : Session × ResourceManager :=
  ({ s with bound := none }, m.abandon x)

/-- Commits a branch.  The bound branch was not ended and is rolled back. -/
def commit (x : Xid) (ignoreUnknown : Bool) : Session → ResourceManager → Reply Unit :=
  whenOpen fun s m =>
    if s.bound = some x then
      let (s, m) := release x s m
      ⟨.error (.rejected (.neverEnded x)), s, m⟩
    else ask (m.commit? x ignoreUnknown) s s m

/-- Rolls a branch back.  The bound branch is dropped. -/
def rollback (x : Xid) : Session → ResourceManager → Reply Unit :=
  whenOpen fun s m =>
    if s.bound = some x then
      let (s, m) := release x s m
      ⟨.ok (), s, m⟩
    else ask (m.rollback? x false) s s m

/-- Gives up on a branch and rolls it back.  The session is no longer bound to
it, even if the manager refuses; a branch that the manager does not know needs
no rollback. -/
def failAndRollback (x : Xid) : Session → ResourceManager → Reply Unit :=
  whenOpen fun s m =>
    let freed := if s.bound = some x then { s with bound := none } else s
    match m.rollback? x (s.bound = some x) with
    | .ok m => ⟨.ok (), freed, m⟩
    | .error (.unknownBranch _) => ⟨.ok (), freed, m⟩
    | .error e => ⟨.error e, freed, m⟩

/-- Finishes a branch. -/
def finish : Finish → Xid → Session → ResourceManager → Reply Unit
  | .commit ignoreUnknown, x => commit x ignoreUnknown
  | .rollback, x => rollback x
  | .failAndRollback, x => failAndRollback x

/-- The prepared branches of the manager, in ascending order. -/
def recover : Session → ResourceManager → Reply (List Xid) :=
  whenOpen fun s m => ⟨m.scan?, s, m⟩

/-- Whether the data connection can be used. -/
def isLinkValid (s : Session) (m : ResourceManager) : Bool :=
  s.isOpen && s.link.isSome && m.available

/-- A data connection that is not in use yet. -/
def newLink (s : Session) (m : ResourceManager) : DataLink × ResourceManager :=
  let (id, m) := m.numberConnection
  (⟨id, s.config.resourceName⟩, m)

/-- A new data connection in place of the old one. -/
def reestablish : Session → ResourceManager → Reply DataLink :=
  whenOpen fun s m =>
    let (link, m) := s.newLink m
    ⟨.ok link, { s with link := some link }, m⟩

/-- The data connection, made if there is none. -/
def establish : Session → ResourceManager → Reply DataLink :=
  whenOpen fun s m =>
    let (s, m) :=
      if s.link.isNone then
        let (link, m) := s.newLink m
        ({ s with link := some link }, m)
      else (s, m)
    match s.link with
    | some link => ⟨.ok link, s, m⟩
    -- if there was none, one was just made, so this is never reached
    | none => ⟨.error .closed, s, m⟩

/-- The second look at the data connection finds one. -/
theorem establish_eq (s : Session) (m : ResourceManager) :
    s.establish m = whenOpen (fun s m =>
      match s.link with
      | some link => ⟨.ok link, s, m⟩
      | none => reestablish s m) s m := by
  obtain ⟨config, _ | _, bound, _ | link⟩ := s <;> rfl

end Session

/-- Sessions as facades: each is made closed, from the settings in force. -/
def ResourceManager.backend : Backend Config ResourceManager Session DataLink where
  create config m := (.ok { config }, m)
  openUp := Session.openUp
  close := Session.close
  isOpen s _ := s.isOpen
  start := Session.start
  endAndPrepare := Session.endAndPrepare
  finish := Session.finish
  recover := Session.recover
  connection? s _ := s.link
  isConnectionValid s m := ⟨.ok (s.isLinkValid m), s, m⟩
  establishConnection := Session.establish
  closeConnection s m := ({ s with link := none }, m)
  reestablishConnection := Session.reestablish

end BranchPool
