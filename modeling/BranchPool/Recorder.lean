/-
A backend that records every call and fails on request.

A `Recorder` holds what its facades share: the log of their calls, how many
failures are still owed for each kind of call, which branches are prepared, and
how many facades were made.  A recorded facade obeys the rule of one branch at
a time, so a pool that hands a bound one to another branch is found out.

* `Recorder.record` — every call is logged first, and fails if a failure is
  owed for its kind, which is then owed no longer;
* `Recorder.failNext`, `clearFaults`, `clearCalls`, `seedPrepared` — what a
  test may ask for.
-/
import BranchPool.BranchMap
import BranchPool.Facade

namespace BranchPool

/-- One call that a recorder saw. -/
structure CallRecord where
  /-- The number of the facade; for a creation, of the one to be made. -/
  facade : Nat
  call : Facade.Call
  /-- The branch, if the call is about one. -/
  branch : Option Xid
  deriving DecidableEq

/-- What the facades of one recording factory share. -/
structure Recorder where
  /-- The calls so far, the earliest first. -/
  log : List CallRecord := []
  /-- How many calls of each kind are still to fail. -/
  faults : Facade.Call → Nat := fun _ => 0
  /-- The branches prepared and not finished. -/
  registry : BranchMap Unit := ∅
  /-- How many facades were made; also the number of the next one. -/
  created : Nat := 0

namespace Recorder

open Facade (Call Error Rejection Finish)

instance : Inhabited Recorder := ⟨{}⟩

/-! ### What a test may ask for -/

/-- Lets the next calls of a kind fail. -/
def failNext (r : Recorder) (call : Call) (times : Nat) : Recorder :=
  { r with faults := fun c => if c = call then r.faults c + times else r.faults c }

/-- Forgets every failure that is still owed. -/
def clearFaults (r : Recorder) : Recorder :=
  { r with faults := fun _ => 0 }

/-- Empties the log. -/
def clearCalls (r : Recorder) : Recorder :=
  { r with log := [] }

/-- Counts a branch as prepared, as if an earlier process had left it. -/
def seedPrepared (r : Recorder) (x : Xid) : Recorder :=
  { r with registry := r.registry.insert x () }

/-- The calls of a kind, the earliest first. -/
def callsOf (r : Recorder) (call : Call) : List CallRecord :=
  r.log.filter fun record => record.call = call

/-- The facades that received a call of a kind for a branch, in call order. -/
def facadesFor (r : Recorder) (call : Call) (x : Xid) : List Nat :=
  (r.log.filter fun record => record.call = call ∧ record.branch = some x).map (·.facade)

/-- The prepared branches, in ascending order. -/
def prepared (r : Recorder) : List Xid := r.registry.sortedKeys

/-- Logs a call, and fails it if a failure is owed. -/
def record (r : Recorder) (facade : Nat) (call : Call) (branch : Option Xid) :
    Except Error Unit × Recorder :=
  let r := { r with log := r.log ++ [⟨facade, call, branch⟩] }
  if r.faults call = 0 then (.ok (), r)
  else
    (.error (.rejected (.injected call)),
      { r with faults := fun c => if c = call then r.faults c - 1 else r.faults c })

end Recorder

/-- The settings of a recording factory: just a name. -/
structure RecorderName where
  name : String
  deriving DecidableEq

instance : Inhabited RecorderName := ⟨⟨"recording"⟩⟩

/-- A data connection of a recorded facade. -/
structure RecordedLink where
  facade : Nat
  /-- Counts the data connections of the facade, from one. -/
  generation : Nat
  deriving DecidableEq

/-- A facade whose calls are recorded. -/
structure RecordedFacade where
  id : Nat
  isOpen : Bool := false
  /-- The branch started and not yet ended. -/
  bound : Option Xid := none
  link : Option RecordedLink := none
  /-- How many data connections were made. -/
  generation : Nat := 0
  deriving DecidableEq

namespace RecordedFacade

open Facade (Call Error Rejection Finish)

variable {α : Type}

/-- What a call on a recorded facade leaves behind. -/
abbrev Reply (α : Type) := Facade.Reply RecordedFacade Recorder α

/-- A call that is recorded before anything else happens. -/
def recorded (call : Call) (branch : Option Xid)
    (body : RecordedFacade → Recorder → Reply α) (f : RecordedFacade) (r : Recorder) : Reply α :=
  match r.record f.id call branch with
  | (.error e, r) => ⟨.error e, f, r⟩
  | (.ok _, r) => body f r

/-- A call that needs an open connection. -/
def whenOpen (body : RecordedFacade → Recorder → Reply α) (f : RecordedFacade) (r : Recorder) :
    Reply α :=
  if f.isOpen then body f r else ⟨.error .closed, f, r⟩

/-- A facade that finishes the branch it is bound to lets go of it. -/
def release (f : RecordedFacade) (x : Xid) : RecordedFacade :=
  if f.bound = some x then { f with bound := none } else f

/-- Opens the connection. -/
def openUp : RecordedFacade → Recorder → Reply Unit :=
  recorded .openUp none fun f r => ⟨.ok (), { f with isOpen := true }, r⟩

/-- Closes the connection and lets go of the bound branch. -/
def close : RecordedFacade → Recorder → Reply Unit :=
  recorded .close none fun f r =>
    ⟨.ok (), { f with isOpen := false, bound := none, link := none }, r⟩

/-- Begins a branch and binds the facade to it. -/
def start (x : Xid) : RecordedFacade → Recorder → Reply Unit :=
  recorded .start (some x) <| whenOpen fun f r =>
    match f.bound with
    | some y => ⟨.error (.busy y x), f, r⟩
    | none => ⟨.ok (), { f with bound := some x }, r⟩

/-- Ends and prepares the bound branch, which frees the facade. -/
def endAndPrepare (x : Xid) : RecordedFacade → Recorder → Reply Unit :=
  recorded .endAndPrepare (some x) <| whenOpen fun f r =>
    if f.bound = some x then ⟨.ok (), { f with bound := none }, r.seedPrepared x⟩
    else ⟨.error (.rejected (.notBoundTo x f.id)), f, r⟩

/-- Commits a branch.  The bound branch is let go first, even if the call then
fails, and was never ended. -/
def commit (x : Xid) (ignoreUnknown : Bool) (f : RecordedFacade) (r : Recorder) : Reply Unit :=
  (recorded .commit (some x) <| whenOpen fun g r =>
    if f.bound = some x then ⟨.error (.rejected (.neverEnded x)), g, r⟩
    else if r.registry.contains x then ⟨.ok (), g, { r with registry := r.registry.erase x }⟩
    else if ignoreUnknown then ⟨.ok (), g, r⟩
    else ⟨.error (.unknownBranch x), g, r⟩) (f.release x) r

/-- Rolls a branch back.  The bound branch is let go first, even if the call
then fails. -/
def rollback (x : Xid) (f : RecordedFacade) (r : Recorder) : Reply Unit :=
  (recorded .rollback (some x) <| whenOpen fun g r =>
    if f.bound = some x then ⟨.ok (), g, r⟩
    else if r.registry.contains x then ⟨.ok (), g, { r with registry := r.registry.erase x }⟩
    else ⟨.error (.unknownBranch x), g, r⟩) (f.release x) r

/-- Gives up on a branch; one that nobody knows needs no rollback. -/
def failAndRollback (x : Xid) (f : RecordedFacade) (r : Recorder) : Reply Unit :=
  (recorded .failAndRollback (some x) <| whenOpen fun g r =>
    ⟨.ok (), g, { r with registry := r.registry.erase x }⟩) (f.release x) r

/-- Finishes a branch. -/
def finish : Finish → Xid → RecordedFacade → Recorder → Reply Unit
  | .commit ignoreUnknown, x => commit x ignoreUnknown
  | .rollback, x => rollback x
  | .failAndRollback, x => failAndRollback x

/-- The prepared branches, in ascending order. -/
def recover : RecordedFacade → Recorder → Reply (List Xid) :=
  recorded .recover none <| whenOpen fun f r => ⟨.ok r.prepared, f, r⟩

/-- The facade with its next data connection. -/
def connect (f : RecordedFacade) : RecordedLink × RecordedFacade :=
  let link := ⟨f.id, f.generation + 1⟩
  (link, { f with link := some link, generation := f.generation + 1 })

/-- A new data connection in place of the old one. -/
def reestablish : RecordedFacade → Recorder → Reply RecordedLink :=
  whenOpen fun f r =>
    let (link, f) := f.connect
    ⟨.ok link, f, r⟩

/-- The data connection, made if there is none. -/
def establish : RecordedFacade → Recorder → Reply RecordedLink :=
  whenOpen fun f r =>
    let f := if f.link.isNone then f.connect.2 else f
    match f.link with
    | some link => ⟨.ok link, f, r⟩
    -- if there was none, one was just made, so this is never reached
    | none => ⟨.error .closed, f, r⟩

/-- The second look at the data connection finds one. -/
theorem establish_eq (f : RecordedFacade) (r : Recorder) :
    f.establish r = whenOpen (fun f r =>
      match f.link with
      | some link => ⟨.ok link, f, r⟩
      | none => reestablish f r) f r := by
  obtain ⟨id, _ | _, bound, _ | link, generation⟩ := f <;> rfl

end RecordedFacade

/-- Recorded facades.  They are numbered from zero as they are made; a creation
that fails uses up no number.  Data connections are not recorded. -/
def Recorder.backend : Backend RecorderName Recorder RecordedFacade RecordedLink where
  create _ r :=
    match r.record r.created .create none with
    | (.error e, r) => (.error e, r)
    | (.ok _, r) => (.ok { id := r.created }, { r with created := r.created + 1 })
  openUp := RecordedFacade.openUp
  close := RecordedFacade.close
  isOpen f _ := f.isOpen
  start := RecordedFacade.start
  endAndPrepare := RecordedFacade.endAndPrepare
  finish := RecordedFacade.finish
  recover := RecordedFacade.recover
  connection? f _ := f.link
  isConnectionValid f r := ⟨.ok (f.isOpen && f.link.isSome), f, r⟩
  establishConnection := RecordedFacade.establish
  closeConnection f r := ({ f with link := none }, r)
  reestablishConnection := RecordedFacade.reestablish

end BranchPool
