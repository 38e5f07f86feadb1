/-
The idle queue has a head once it is stocked.

A branch that has no facade is finished through the head of the idle queue, and
so are the prepared branches asked for.  If the queue is empty, a new facade goes
into it, and the queue is then looked at again.

* `Provider.stockIdle_eq` — what is in the queue by then;
* `Provider.peekIdle_eq` — the second look finds the facade that `takeIdle` would
  have taken, so no call is answered that the queue is empty;
* `Provider.peekIdle_andThen` — the same for a call that goes on from there.

These laws put every call that needs an idle facade in terms of `takeIdle`.
-/
import BranchPool.Provider

namespace BranchPool.Provider

variable {γ σ φ κ β : Type} {s : Pool φ} {p : Provider γ φ}

/-- A queue that is stocked has at its head the facade that would be taken from
it. -/
theorem stockIdle_eq (b : Backend γ σ φ κ) (h : p.pool = some s) (w : σ) :
    stockIdle b s p w =
      match takeIdle b s p w with
      | (.error e, w) => ⟨.error (.creation e), p, w⟩
      | (.ok (f, rest, tally), w) =>
        let s := { s with idle := f :: rest }
        ⟨.ok s, { p with pool := some s, tally }, w⟩ := by
  obtain ⟨factory, pool, tally⟩ := p
  obtain ⟨idle, bound, active⟩ := s
  subst h
  cases idle with
  | cons f rest => simp [stockIdle, takeIdle]
  | nil =>
    simp only [stockIdle, takeIdle, List.isEmpty_nil, if_true]
    -- the queue was empty: its head can only be the facade that is made now
    rcases makeFacade b factory w with ⟨e | f, w'⟩ <;> rfl

/-- The second look at the queue finds a facade. -/
theorem peekIdle_eq (b : Backend γ σ φ κ) (h : p.pool = some s) (w : σ) :
    peekIdle b s p w =
      match takeIdle b s p w with
      | (.error e, w) => ⟨.error (.creation e), p, w⟩
      | (.ok (f, rest, tally), w) =>
        ⟨.ok (f, rest), { p with pool := some { s with idle := f :: rest }, tally }, w⟩ := by
  rw [peekIdle, stockIdle_eq b h]
  rcases takeIdle b s p w with ⟨e | ⟨f, rest, tally⟩, w'⟩ <;> rfl

/-- A call that goes on with the head of the idle queue fails only for want of a
facade, if it does not fail later. -/
theorem peekIdle_andThen (b : Backend γ σ φ κ) (h : p.pool = some s) (w : σ)
    (next : φ × List φ → Provider γ φ → σ → Reply γ φ σ β) :
    (peekIdle b s p w).andThen next =
      match takeIdle b s p w with
      | (.error e, w) => ⟨.error (.creation e), p, w⟩
      | (.ok (f, rest, tally), w) =>
        next (f, rest) { p with pool := some { s with idle := f :: rest }, tally } w := by
  rw [peekIdle_eq b h]
  rcases takeIdle b s p w with ⟨e | ⟨f, rest, tally⟩, w'⟩ <;> rfl

end BranchPool.Provider
