/-
Runs of a provider.

A run is a list of moves: calls on the provider, what others do to the world
between two calls, and a new order for the entries of the branch map, which
promises none.

* `Backend.perform` — a call on a facade, whichever it is, its result dropped;
* `Provider.Call.run` — a call on a provider, whichever it is;
* `Provider.run` — a provider and its world after a list of moves;
* `Provider.Lasting` — a property of providers alone, which holds after every run
  of one or of many.

What others may do is a type `ε` of actions on the world, so that one statement
can speak of any change and another of a few.
-/
import BranchPool.Proofs.BranchMap
import BranchPool.Proofs.Provider.Peek

namespace BranchPool

namespace Facade

variable {φ σ α β : Type}

/-- The ways to use the data connection of a facade. -/
inductive DataUse where
  | ask
  | check
  | establish
  | drop
  | reestablish
  deriving DecidableEq

/-- A call on a facade. -/
inductive Operation where
  | openUp
  | close
  | start (x : Xid)
  | endAndPrepare (x : Xid)
  | finish (how : Finish) (x : Xid)
  | recover
  | useData (use : DataUse)
  deriving DecidableEq

/-- The branch that a call names. -/
def Operation.branch? : Operation → Option Xid
  | .start x => some x
  | .endAndPrepare x => some x
  | .finish _ x => some x
  | _ => none

/-- What a call leaves behind, its result turned into another. -/
def Reply.map (f : α → β) (r : Reply φ σ α) : Reply φ σ β :=
  ⟨r.answer.map f, r.facade, r.world⟩

end Facade

namespace Backend

open Facade

variable {γ σ φ κ : Type}

/-- Asks a facade for its data connection. -/
def ask (b : Backend γ σ φ κ) (f : φ) (w : σ) : Reply φ σ (Option κ) :=
  let (link, w) := b.askConnection f w
  ⟨.ok link, f, w⟩

/-- Lets a facade drop its data connection. -/
def drop (b : Backend γ σ φ κ) (f : φ) (w : σ) : Reply φ σ Unit :=
  let (f, w) := b.closeConnection f w
  ⟨.ok (), f, w⟩

/-- A call on a facade, its result dropped. -/
def perform (b : Backend γ σ φ κ) : Operation → φ → σ → Reply φ σ Unit
  | .openUp, f, w => b.openUp f w
  | .close, f, w => b.close f w
  | .start x, f, w => b.start x f w
  | .endAndPrepare x, f, w => b.endAndPrepare x f w
  | .finish how x, f, w => b.finish how x f w
  | .recover, f, w => (b.recover f w).map fun _ => ()
  | .useData .ask, f, w => (b.ask f w).map fun _ => ()
  | .useData .check, f, w => (b.isConnectionValid f w).map fun _ => ()
  | .useData .establish, f, w => (b.establishConnection f w).map fun _ => ()
  | .useData .drop, f, w => b.drop f w
  | .useData .reestablish, f, w => (b.reestablishConnection f w).map fun _ => ()

end Backend

namespace Provider

open Facade (DataUse Finish)

variable {γ σ φ κ ε α β : Type}

/-- What a call leaves behind, its result turned into another. -/
def Reply.map (f : α → β) (r : Reply γ φ σ α) : Reply γ φ σ β :=
  ⟨r.answer.map f, r.provider, r.world⟩

/-- A call on a provider. -/
inductive Call where
  | openUp
  | close
  | start (x : Xid)
  | endAndPrepare (x : Xid)
  | finish (how : Finish) (x : Xid)
  | recover
  | useData (use : DataUse)
  deriving DecidableEq

/-- Whether a call closes what the pool holds. -/
def Call.closes : Call → Bool
  | .openUp => true
  | .close => true
  | _ => false

/-- What a call that succeeds gives to the caller. -/
inductive Result (κ : Type) where
  | done
  | branches (xs : List Xid)
  | valid (isValid : Bool)
  | link (link : Option κ)

/-- Makes a call on a provider. -/
def Call.run (b : Backend γ σ φ κ) : Call → Provider γ φ → σ → Reply γ φ σ (Result κ)
  | .openUp, p, w => (p.openUp b w).map fun _ => .done
  | .close, p, w => (p.close b w).map fun _ => .done
  | .start x, p, w => (p.start b x w).map fun _ => .done
  | .endAndPrepare x, p, w => (p.endAndPrepare b x w).map fun _ => .done
  | .finish how x, p, w => (p.finish b how x w).map fun _ => .done
  | .recover, p, w => (p.recover b w).map .branches
  | .useData .ask, p, w => (p.connection? b w).map .link
  | .useData .check, p, w => (p.isConnectionValid b w).map .valid
  | .useData .establish, p, w => (p.establishConnection b w).map (.link ∘ some)
  | .useData .drop, p, w => (p.closeConnection b w).map fun _ => .done
  | .useData .reestablish, p, w => (p.reestablishConnection b w).map (.link ∘ some)

theorem connection?_eq (b : Backend γ σ φ κ) (p : Provider γ φ) (w : σ) :
    p.connection? b w = withActive "connection" b.ask p w := rfl

theorem closeConnection_eq (b : Backend γ σ φ κ) (p : Provider γ φ) (w : σ) :
    p.closeConnection b w = withActive "close_connection" b.drop p w := rfl

/-- Every facade that the provider holds. -/
def facades (p : Provider γ φ) : List φ := (p.pool.map (·.facades)).getD []

theorem facades_eq (p : Provider γ φ) : p.facades = p.bound.values ++ p.idle := by
  obtain ⟨factory, _ | s, tally⟩ := p <;> rfl

/-- The facades of a provider are those that are bound and those that are idle. -/
theorem mem_facades_iff (p : Provider γ φ) {f : φ} :
    f ∈ p.facades ↔ (∃ x, p.boundFacade? x = some f) ∨ f ∈ p.idle := by
  rw [facades_eq, List.mem_append, BranchMap.mem_values_iff]
  rfl

theorem length_facades (p : Provider γ φ) : p.facades.length = p.idleCount + p.boundCount := by
  rw [facades_eq, List.length_append, BranchMap.length_values, Nat.add_comm]
  rfl

/-- The provider with the entries of its branch map in another order. -/
def reorder (p : Provider γ φ) (order : List Xid) : Provider γ φ :=
  { p with pool := p.pool.map fun s => { s with bound := s.bound.arrange order } }

/-- A provider and the world that it works in. -/
structure State (γ φ σ : Type) where
  provider : Provider γ φ
  world : σ

/-- What can happen next. -/
inductive Move (ε : Type) where
  | call (c : Call)
  /-- Others act on the world. -/
  | environment (e : ε)
  /-- The branch map takes another order. -/
  | reorder (order : List Xid)

/-- The state after a move. -/
def Move.apply (b : Backend γ σ φ κ) (act : ε → σ → σ) : Move ε → State γ φ σ → State γ φ σ
  | .call c, ⟨p, w⟩ => ⟨(c.run b p w).provider, (c.run b p w).world⟩
  | .environment e, ⟨p, w⟩ => ⟨p, act e w⟩
  | .reorder order, ⟨p, w⟩ => ⟨p.reorder order, w⟩

/-- The state after a list of moves. -/
def run (b : Backend γ σ φ κ) (act : ε → σ → σ) (ms : List (Move ε)) (s : State γ φ σ) :
    State γ φ σ :=
  ms.foldl (fun s m => m.apply b act s) s

/-- A property of providers that holds of a new one, and is preserved by whatever
may happen to a provider. -/
structure Lasting (b : Backend γ σ φ κ) (I : Provider γ φ → Prop) : Prop where
  start : ∀ factory, I (.ofFactory factory)
  call : ∀ (c : Call) {p} w, I p → I (c.run b p w).provider
  reorder : ∀ order {p}, I p → I (p.reorder order)
  refit : ∀ factory {p}, I p → I { p with factory }

end Provider

end BranchPool
