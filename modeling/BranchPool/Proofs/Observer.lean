/-
Backends that watch another one.

An observer keeps something beside the world of a backend, such as notes on its
calls or a count of those that fail.  It adds to that after each call and has no
part in the call itself.

* `Observer` — what is kept of each call, and that the world beneath is what the
  call left behind;
* `Backend.observed` — a backend that does what the one beneath does, and is
  watched;
* `Backend.perform_observed` — this holds of each call, whichever it is;
* `Backend.observed_translation` — to forget what an observer keeps is to go back
  to the backend beneath.
-/
import BranchPool.Proofs.Trace

namespace BranchPool

open Facade

variable {γ σ φ ω κ α : Type}

/-- How a larger world follows the world beneath it. -/
structure Observer (σ φ ω : Type) where
  /-- The world beneath. -/
  world : ω → σ
  /-- The larger world after a facade was made, or could not be made. -/
  made : Except Facade.Error φ → ω → σ → ω
  /-- The larger world after a call on a facade that succeeded, or did not. -/
  called : Operation → φ → Bool → ω → σ → ω
  world_made : ∀ answer w v, world (made answer w v) = v
  world_called : ∀ op f ok w v, world (called op f ok w v) = v

/-- A call on a facade that is watched. -/
def Observer.watch (o : Observer σ φ ω) (op : Operation) (call : φ → σ → Facade.Reply φ σ α)
    (f : φ) (w : ω) : Facade.Reply φ ω α :=
  let r := call f (o.world w)
  ⟨r.answer, r.facade, o.called op f r.answer.isOk w r.world⟩

theorem Observer.image_watch (o : Observer σ φ ω) (op : Operation)
    (call : φ → σ → Facade.Reply φ σ α) (f : φ) (w : ω) :
    (o.watch op call f w).image id o.world = call f (o.world w) := by
  simp only [watch, Facade.Reply.image, o.world_called, id]

namespace Backend

variable (b : Backend γ σ φ κ) (o : Observer σ φ ω)

/-- The backend that is watched by an observer. -/
def observed : Backend γ ω φ κ where
  create c w :=
    let r := b.create c (o.world w)
    (r.1, o.made r.1 w r.2)
  openUp := o.watch .openUp b.openUp
  close := o.watch .close b.close
  isOpen f w := b.isOpen f (o.world w)
  start x := o.watch (.start x) (b.start x)
  endAndPrepare x := o.watch (.endAndPrepare x) (b.endAndPrepare x)
  finish how x := o.watch (.finish how x) (b.finish how x)
  recover := o.watch .recover b.recover
  connection? f w := b.connection? f (o.world w)
  askConnection f w :=
    ((b.askConnection f (o.world w)).1, (o.watch (.useData .ask) b.ask f w).world)
  isConnectionValid := o.watch (.useData .check) b.isConnectionValid
  establishConnection := o.watch (.useData .establish) b.establishConnection
  closeConnection f w :=
    let r := o.watch (.useData .drop) b.drop f w
    (r.facade, r.world)
  reestablishConnection := o.watch (.useData .reestablish) b.reestablishConnection

theorem perform_observed (op : Operation) :
    (b.observed o).perform op = o.watch op (b.perform op) := by
  -- where a result is dropped, the observer is told the same by what is left of it
  have hdrop : ∀ {α : Type} (call : φ → σ → Facade.Reply φ σ α) (f : φ) (w : ω),
      (o.watch op call f w).map (fun _ => ()) =
        o.watch op (fun f w => (call f w).map fun _ => ()) f w := by
    intro α call f w
    simp only [Observer.watch, Facade.Reply.map, isOk_map_unit]
  funext f w
  cases op with
  | recover => exact hdrop _ f w
  | useData use =>
    cases use with
    | drop => rfl
    | ask => rfl
    | _ => exact hdrop _ f w
  | _ => rfl

theorem observed_translation : (b.observed o).Translation b id o.world where
  create c w := by
    show b.create c (o.world w) = ((b.create c (o.world w)).1.map id, o.world (o.made _ w _))
    rw [o.world_made]
    rcases b.create c (o.world w) with ⟨e | f, v⟩ <;> rfl
  openUp f w := (o.image_watch .openUp b.openUp f w).symm
  close f w := (o.image_watch .close b.close f w).symm
  isOpen _ _ := rfl
  start x f w := (o.image_watch (.start x) (b.start x) f w).symm
  endAndPrepare x f w := (o.image_watch (.endAndPrepare x) (b.endAndPrepare x) f w).symm
  finish how x f w := (o.image_watch (.finish how x) (b.finish how x) f w).symm
  recover f w := (o.image_watch .recover b.recover f w).symm
  ask f w := (o.image_watch (.useData .ask) b.ask f w).symm
  isConnectionValid f w := (o.image_watch (.useData .check) b.isConnectionValid f w).symm
  establishConnection f w := (o.image_watch (.useData .establish) b.establishConnection f w).symm
  drop f w := (o.image_watch (.useData .drop) b.drop f w).symm
  reestablishConnection f w :=
    (o.image_watch (.useData .reestablish) b.reestablishConnection f w).symm

end Backend

end BranchPool
