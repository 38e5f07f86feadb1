/-
What the user of a provider sees of a run.

* `Provider.Observation` — the answer to a call, and what the provider shows of itself after
  it: the active branch, the bound ones, how many facades are idle, and the counters;
* `Provider.transcript` — what is seen in a run, call by call;
* `Provider.calls` — the calls of a run, without what happens between them;
* `Provider.StartsFresh` — whether a branch is started only if it is not prepared.

A data connection is a value of the backend, and an observation tells only whether there is
one; so runs over two backends can be compared.
-/
import BranchPool.Proofs.Provider.Run

namespace BranchPool.Provider

variable {γ σ φ κ ε : Type}

/-- A result, with no more of a data connection than that there is one. -/
def Result.shown : Result κ → Result Unit
  | .done => .done
  | .branches xs => .branches xs
  | .valid isValid => .valid isValid
  | .link connection? => .link (connection?.map fun _ => ())

/-- What the user of a provider sees after a call. -/
structure Observation where
  answer : Except Error (Result Unit)
  active : Option Xid
  bound : List Xid
  idleCount : Nat
  tally : Tally

/-- What is seen of a call. -/
def observe (r : Reply γ φ σ (Result κ)) : Observation where
  answer := r.answer.map Result.shown
  active := r.provider.active?
  bound := r.provider.boundBranches
  idleCount := r.provider.idleCount
  tally := r.provider.tally

/-- What is seen in a run, call by call. -/
def transcript (b : Backend γ σ φ κ) (act : ε → σ → σ) :
    List (Move ε) → State γ φ σ → List Observation
  | [], _ => []
  | .call c :: ms, s =>
    observe (c.run b s.provider s.world) :: transcript b act ms (Move.apply b act (.call c) s)
  | m :: ms, s => transcript b act ms (Move.apply b act m s)

/-- The calls of a run. -/
def calls : List (Move ε) → List Call
  | [] => []
  | .call c :: ms => c :: calls ms
  | _ :: ms => calls ms

/-- Whether no branch is started while it is prepared and has no facade. -/
def StartsFresh (b : Backend γ σ φ κ) (act : ε → σ → σ) (prepared : σ → List Xid) :
    List (Move ε) → State γ φ σ → Prop
  | [], _ => True
  | .call c :: ms, s =>
    (∀ x, c = .start x → x ∈ prepared s.world → (s.provider.boundFacade? x).isSome = true) ∧
      StartsFresh b act prepared ms (Move.apply b act (.call c) s)
  | m :: ms, s => StartsFresh b act prepared ms (Move.apply b act m s)

end BranchPool.Provider
