/-
The pooling provider: many branches over facades that carry one branch each.

`start` takes an idle facade, or makes one, and the facade stays bound to its
branch through `endAndPrepare` until `finish` puts it back at the tail of the
idle queue.  One branch at a time is active, that is, started and not ended;
any number may be prepared and wait to be finished.

* `Provider.openUp`, `Provider.close` — an empty pool, and the end of every
  facade in it; each facade is attempted, whatever the others answer;
* `Provider.start`, `Provider.endAndPrepare`, `Provider.finish`,
  `Provider.recover` — the life of a branch.  A branch with no facade of its
  own is finished through the idle facade that would be taken next;
* `Provider.connection?` and the like — the data connection of the active
  branch.

Design notes: each operation gives back its answer, the provider and the world
in a `Provider.Reply`.  A call that is refused gives back both unchanged.
-/
import BranchPool.Provider.Error
import BranchPool.Provider.Pool
import BranchPool.Tally

namespace BranchPool

/-- A pool of facades, what makes them, and what has been done with them. -/
structure Provider (γ φ : Type) where
  factory : γ
  /-- The facades, while the provider is open. -/
  pool : Option (Pool φ) := none
  tally : Tally := {}

namespace Provider

variable {γ σ φ κ α β : Type}

/-- What a call on a provider leaves behind. -/
structure Reply (γ φ σ α : Type) where
  answer : Except Error α
  provider : Provider γ φ
  world : σ

/-- Goes on with the answer of a call, unless the call failed. -/
def Reply.andThen (r : Reply γ φ σ α) (next : α → Provider γ φ → σ → Reply γ φ σ β) :
    Reply γ φ σ β :=
  match r.answer with
  | .ok a => next a r.provider r.world
  | .error e => ⟨.error e, r.provider, r.world⟩

/-- What a call that succeeds leaves behind, for those who stop at the first that
fails. -/
def Reply.toExcept (r : Reply γ φ σ α) : Except Error (α × Provider γ φ × σ) :=
  r.answer.map fun a => (a, r.provider, r.world)

/-- A closed provider that takes its facades from a factory. -/
def ofFactory (factory : γ) : Provider γ φ := { factory }

/-! ### What a provider holds -/

/-- Whether the provider is open. -/
def isInitialized (p : Provider γ φ) : Bool := p.pool.isSome

/-- The active branch. -/
def active? (p : Provider γ φ) : Option Xid := p.pool.bind (·.active)

/-- The active branch with its facade. -/
def activeFacade? (p : Provider γ φ) : Option (Xid × φ) := p.pool.bind (·.activeFacade?)

/-- The idle facades, the next to be taken first. -/
def idle (p : Provider γ φ) : List φ := (p.pool.map (·.idle)).getD []

/-- The facades bound to a branch. -/
def bound (p : Provider γ φ) : BranchMap φ := (p.pool.map (·.bound)).getD ∅

/-- How many facades are idle. -/
def idleCount (p : Provider γ φ) : Nat := p.idle.length

/-- How many facades are bound to a branch. -/
def boundCount (p : Provider γ φ) : Nat := p.bound.size

/-- The branches that have a facade, in ascending order. -/
def boundBranches (p : Provider γ φ) : List Xid := p.bound.sortedKeys

/-- The facade bound to a branch. -/
def boundFacade? (p : Provider γ φ) (x : Xid) : Option φ := p.bound.get? x

/-- Whether a branch is active and the connection of its facade is open. -/
def isOpen (b : Backend γ σ φ κ) (p : Provider γ φ) (w : σ) : Bool :=
  match p.activeFacade? with
  | some (_, f) => b.isOpen f w
  | none => false

/-- A text that shows the factory, as the caller words it, and the pool. -/
def fieldText (factoryText : String) (p : Provider γ φ) : String :=
  let activeText := match p.active? with
    | some x => "Some(" ++ x.fieldText ++ ")"
    | none => "None"
  "PoolingXaProvider \x7b factory: " ++ factoryText ++
    ", initialized: " ++ (if p.isInitialized then "true" else "false") ++
    ", active: " ++ activeText ++
    ", idle: " ++ toString p.idleCount ++ ", mapped: " ++ toString p.boundCount ++ " \x7d"

/-! ### Opening and closing -/

/-- A call that breaks the rules leaves everything as it was. -/
def refuse (v : Violation) (p : Provider γ φ) (w : σ) : Reply γ φ σ α :=
  ⟨.error (.stateViolation v), p, w⟩

/-- Closes facades one after the other and collects the failures. -/
def closeAll (b : Backend γ σ φ κ) : List φ → σ → List Facade.Error × σ
  | [], w => ([], w)
  | f :: fs, w =>
    let r := b.close f w
    let rest := closeAll b fs r.world
    match r.answer with
    | .ok _ => rest
    | .error e => (e :: rest.1, rest.2)

/-- Opens the provider with an empty pool.  Facades left from earlier use are
closed, whether or not that succeeds.  Refused while a branch is active. -/
def openUp (b : Backend γ σ φ κ) (p : Provider γ φ) (w : σ) : Reply γ φ σ Unit :=
  match p.active? with
  | some x => refuse (.openWhileActive x) p w
  | none =>
    let leftover := (p.pool.map (·.facades)).getD []
    ⟨.ok (), { p with pool := some {} }, (closeAll b leftover w).2⟩

/-- Closes every facade and the provider.  The provider is closed afterwards
even if some facades failed to close; closing a closed provider does nothing. -/
def close (b : Backend γ σ φ κ) (p : Provider γ φ) (w : σ) : Reply γ φ σ Unit :=
  match p.pool with
  | none => ⟨.ok (), p, w⟩
  | some s =>
    let (failures, w) := closeAll b s.facades w
    let answer := if failures.isEmpty then .ok () else .error (.closeFailed s.facades.length failures)
    ⟨answer, { p with pool := none }, w⟩

/-! ### Starting and preparing a branch -/

/-- Makes a facade and opens it. -/
def makeFacade (b : Backend γ σ φ κ) (factory : γ) (w : σ) : Except Facade.Error φ × σ :=
  match b.create factory w with
  | (.error e, w) => (.error e, w)
  | (.ok f, w) =>
    let r := b.openUp f w
    match r.answer with
    | .error e => (.error e, r.world)
    | .ok _ => (.ok r.facade, r.world)

/-- The idle facade that waited longest, or a new one if none is idle, with the
facades that stay idle and the counters. -/
def takeIdle (b : Backend γ σ φ κ) (s : Pool φ) (p : Provider γ φ) (w : σ) :
    Except Facade.Error (φ × List φ × Tally) × σ :=
  match s.idle with
  | f :: rest => (.ok (f, rest, p.tally), w)
  | [] =>
    match makeFacade b p.factory w with
    | (.error e, w) => (.error e, w)
    | (.ok f, w) => (.ok (f, [], p.tally.addCreated), w)

/-- Starts a branch on a facade that is in neither place of the pool.  On
success it is bound to the branch, which becomes the active one; otherwise it
is closed and dropped. -/
def startOn (b : Backend γ σ φ κ) (x : Xid) (f : φ) (s : Pool φ) (p : Provider γ φ) (w : σ) :
    Reply γ φ σ Unit :=
  let r := b.start x f w
  match r.answer with
  | .ok _ =>
    ⟨.ok (), { p with pool := some (s.bindActive x r.facade), tally := p.tally.addStarted }, r.world⟩
  | .error e =>
    ⟨.error (.resource e), { p with pool := some s, tally := p.tally.addDiscarded },
      (b.close r.facade r.world).world⟩

/-- Starts a branch on the idle facade that waited longest, or on a new one if
none is idle.  Refused while another branch is active or if the branch has a
facade already. -/
def start (b : Backend γ σ φ κ) (x : Xid) (p : Provider γ φ) (w : σ) : Reply γ φ σ Unit :=
  match p.pool with
  | none => refuse .notOpen p w
  | some s =>
    match s.active with
    | some y => refuse (.startWhileActive x y) p w
    | none =>
      if s.bound.contains x then refuse (.alreadyBound x) p w
      else
        match takeIdle b s p w with
        | (.error e, w) => ⟨.error (.creation e), p, w⟩
        | (.ok (f, rest, tally), w) =>
          startOn b x f { s with idle := rest } { p with tally } w

/-- Ends and prepares the active branch.  No branch is active afterwards, even
if the facade failed; the facade stays bound. -/
def endAndPrepare (b : Backend γ σ φ κ) (x : Xid) (p : Provider γ φ) (w : σ) :
    Reply γ φ σ Unit :=
  match p.pool with
  | none => refuse .notOpen p w
  | some s =>
    match s.active with
    | none => refuse (.endNone x) p w
    | some y =>
      if y = x then
        match s.bound.get? x with
        | none => refuse (.activeUnbound x) { p with pool := some s.clearActive } w
        | some f =>
          let r := b.endAndPrepare x f w
          let s := { s with bound := s.bound.update x r.facade, active := none }
          match r.answer with
          | .ok _ =>
            ⟨.ok (), { p with pool := some s, tally := p.tally.addPrepared }, r.world⟩
          | .error e => ⟨.error (.resource e), { p with pool := some s }, r.world⟩
      else refuse (.endOther x y) p w

/-! ### Finishing a branch -/

/-- Counts a branch that was finished. -/
def addFinished : Facade.Finish → Tally → Tally
  | .commit _, t => t.addCommitted
  | .rollback, t => t.addRolledBack
  | .failAndRollback, t => t.addRolledBack

/-- Whether finishing in this way is refused for the active branch. -/
def needsEnded : Facade.Finish → Bool
  | .commit _ => true
  | .rollback => true
  | .failAndRollback => false

/-- Sees to it that a facade is idle: if none is, a new one goes into the
queue. -/
def stockIdle (b : Backend γ σ φ κ) (s : Pool φ) (p : Provider γ φ) (w : σ) :
    Reply γ φ σ (Pool φ) :=
  if s.idle.isEmpty then
    match makeFacade b p.factory w with
    | (.error e, w) => ⟨.error (.creation e), p, w⟩
    | (.ok f, w) =>
      let s := s.offerIdle f
      ⟨.ok s, { p with pool := some s, tally := p.tally.addCreated }, w⟩
  else ⟨.ok s, p, w⟩

/-- The idle facade that waited longest, or a new one if none is idle, with the
other idle ones.  It is not taken out of the queue. -/
def peekIdle (b : Backend γ σ φ κ) (s : Pool φ) (p : Provider γ φ) (w : σ) :
    Reply γ φ σ (φ × List φ) :=
  (stockIdle b s p w).andThen fun s p w =>
    match s.idle with
    | f :: rest => ⟨.ok (f, rest), p, w⟩
    -- the queue was stocked, so this is never reached; see `peekIdle_eq`
    | [] => refuse (.stated "idle pool empty after insert") p w

/-- Turns the answer of the facade that finished a branch into the provider's,
and counts it. -/
def concludeFinish (how : Facade.Finish) (x : Xid) (answer : Except Facade.Error Unit)
    (p : Provider γ φ) (w : σ) : Reply γ φ σ Unit :=
  match answer with
  | .ok _ => ⟨.ok (), { p with tally := addFinished how p.tally }, w⟩
  | .error e =>
    ⟨.error (.transient (.ofFinish how) (some x) e), { p with tally := p.tally.addTransient }, w⟩

/-- Finishes a branch.  If a facade is bound to it, that facade finishes it and
goes to the tail of the idle queue, even if it failed.  Otherwise the branch is
unknown here, as is normal after a restart, and the next idle facade finishes
it.  Commit and rollback are refused for the active branch. -/
def finish (b : Backend γ σ φ κ) (how : Facade.Finish) (x : Xid) (p : Provider γ φ) (w : σ) :
    Reply γ φ σ Unit :=
  match p.pool with
  | none => refuse .notOpen p w
  | some s =>
    if needsEnded how ∧ s.active = some x then refuse (.stillActive (.ofFinish how) x) p w
    else
      match s.unbind? x with
      | some (f, s) =>
        let r := b.finish how x f w
        concludeFinish how x r.answer { p with pool := some (s.offerIdle r.facade) } r.world
      | none =>
        let p := { p with tally := p.tally.addUnmapped }
        (peekIdle b s p w).andThen fun (f, rest) p w =>
          let r := b.finish how x f w
          concludeFinish how x r.answer
            { p with pool := some { s with idle := r.facade :: rest } } r.world

/-- Commits a branch. -/
def commit (b : Backend γ σ φ κ) (x : Xid) (ignoreUnknown : Bool) (p : Provider γ φ) (w : σ) :
    Reply γ φ σ Unit :=
  finish b (.commit ignoreUnknown) x p w

/-- Rolls a branch back. -/
def rollback (b : Backend γ σ φ κ) (x : Xid) (p : Provider γ φ) (w : σ) : Reply γ φ σ Unit :=
  finish b .rollback x p w

/-- Gives up on a branch, which may be the active one, and rolls it back. -/
def failAndRollback (b : Backend γ σ φ κ) (x : Xid) (p : Provider γ φ) (w : σ) :
    Reply γ φ σ Unit :=
  finish b .failAndRollback x p w

/-- The branches that the resource manager holds as prepared, as the next idle
facade tells them. -/
def recover (b : Backend γ σ φ κ) (p : Provider γ φ) (w : σ) : Reply γ φ σ (List Xid) :=
  match p.pool with
  | none => refuse .notOpen p w
  | some s =>
    (peekIdle b s p w).andThen fun (f, rest) p w =>
      let r := b.recover f w
      let p := { p with pool := some { s with idle := r.facade :: rest } }
      match r.answer with
      | .ok xs => ⟨.ok xs, { p with tally := p.tally.addRecovery }, r.world⟩
      | .error e =>
        ⟨.error (.transient .recover none e), { p with tally := p.tally.addTransient }, r.world⟩

/-! ### The data connection of the active branch -/

/-- Lets a call run on the facade of the active branch, which stays in place. -/
def withActive (operation : String) (call : φ → σ → Facade.Reply φ σ α)
    (p : Provider γ φ) (w : σ) : Reply γ φ σ α :=
  match p.pool with
  | none => ⟨.error (.noActiveBranch operation), p, w⟩
  | some s =>
    match s.activeFacade? with
    | none => ⟨.error (.noActiveBranch operation), p, w⟩
    | some (x, f) =>
      let r := call f w
      ⟨r.answer.mapError .resource,
        { p with pool := some { s with bound := s.bound.update x r.facade } }, r.world⟩

/-- The data connection, if there is one. -/
def connection? (b : Backend γ σ φ κ) (p : Provider γ φ) (w : σ) : Reply γ φ σ (Option κ) :=
  withActive "connection"
    (fun f w => let (link, w) := b.askConnection f w; ⟨.ok link, f, w⟩) p w

/-- Whether the data connection can be used. -/
def isConnectionValid (b : Backend γ σ φ κ) (p : Provider γ φ) (w : σ) : Reply γ φ σ Bool :=
  withActive "is_connection_valid" b.isConnectionValid p w

/-- The data connection, made if there is none. -/
def establishConnection (b : Backend γ σ φ κ) (p : Provider γ φ) (w : σ) : Reply γ φ σ κ :=
  withActive "get_or_establish_connection" b.establishConnection p w

/-- Drops the data connection. -/
def closeConnection (b : Backend γ σ φ κ) (p : Provider γ φ) (w : σ) : Reply γ φ σ Unit :=
  withActive "close_connection"
    (fun f w => let (f, w) := b.closeConnection f w; ⟨.ok (), f, w⟩) p w

/-- A new data connection in place of the old one. -/
def reestablishConnection (b : Backend γ σ φ κ) (p : Provider γ φ) (w : σ) : Reply γ φ σ κ :=
  withActive "reestablish_connection" b.reestablishConnection p w

end Provider

end BranchPool
