/-
Which facade finishes a branch.

* `Provider.finisher` — the facade that is bound to the branch, or else the next
  idle one, or else a new one;
* `Provider.finish_bound` and its neighbours — what finishing a branch comes to in
  each case;
* `Provider.finish_of_finisher` — a provider answers what this facade answers,
  and does to the world what it does;
* `Provider.unbound_of_finish` — afterwards the branch has no facade, and the one
  that it had is idle.
-/
import BranchPool.Proofs.Provider.Muster

namespace BranchPool.Provider

open Facade

variable {γ σ φ κ : Type} {b : Backend γ σ φ κ} {p : Provider γ φ} {how : Finish} {x : Xid} {w w' : σ}

/-- The facade by which a branch would be finished, and the world in which it
would be called. -/
def finisher (b : Backend γ σ φ κ) (x : Xid) (p : Provider γ φ) (w : σ) :
    Except Facade.Error φ × σ :=
  match p.boundFacade? x with
  | some f => (.ok f, w)
  | none =>
    match p.idle with
    | f :: _ => (.ok f, w)
    | [] => makeFacade b p.factory w

/-- Whether a branch may be finished so. -/
def MayFinish (how : Finish) (x : Xid) (p : Provider γ φ) : Prop :=
  p.isInitialized = true ∧ (needsEnded how = true → p.active? ≠ some x)

section Equations

variable {factory : γ} {s : Pool φ} {tally : Tally}
  (hended : ¬(needsEnded how = true ∧ s.active = some x))

include hended

/-- The facade of the branch finishes it. -/
theorem finish_bound {f : φ} (hget : s.bound.get? x = some f) (w : σ) :
    finish b how x ⟨factory, some s, tally⟩ w =
      concludeFinish how x (b.finish how x f w).answer
        ⟨factory, some ((s.without x).offerIdle (b.finish how x f w).facade), tally⟩
        (b.finish how x f w).world := by
  simp only [finish, if_neg hended, Pool.unbind?_eq, hget, Option.map_some]

/-- A facade that is lent finishes the branch. -/
theorem finish_lent {tally' : Tally} {f : φ} {rest : List φ} (hget : s.bound.get? x = none)
    (htake : takeIdle b s ⟨factory, some s, tally.addUnmapped⟩ w = (.ok (f, rest, tally'), w')) :
    finish b how x ⟨factory, some s, tally⟩ w =
      concludeFinish how x (b.finish how x f w').answer
        ⟨factory, some { s with idle := (b.finish how x f w').facade :: rest }, tally'⟩
        (b.finish how x f w').world := by
  simp only [finish, if_neg hended, Pool.unbind?_eq, hget, Option.map_none,
    peekIdle_andThen, htake]

/-- There is no facade to finish the branch. -/
theorem finish_unmade {e : Facade.Error} (hget : s.bound.get? x = none)
    (htake : takeIdle b s ⟨factory, some s, tally.addUnmapped⟩ w = (.error e, w')) :
    finish b how x ⟨factory, some s, tally⟩ w =
      ⟨.error (.creation e), ⟨factory, some s, tally.addUnmapped⟩, w'⟩ := by
  simp only [finish, if_neg hended, Pool.unbind?_eq, hget, Option.map_none,
    peekIdle_andThen, htake]

end Equations

theorem concludeFinish_eq (how : Finish) (x : Xid) (answer : Except Facade.Error Unit)
    (p : Provider γ φ) (w : σ) :
    (concludeFinish how x answer p w).answer =
        answer.mapError (.transient (.ofFinish how) (some x)) ∧
      (concludeFinish how x answer p w).world = w := by
  cases answer <;> exact ⟨rfl, rfl⟩

theorem mapError_eq_ok {ε ε' α : Type} {a : Except ε α} {f : ε → ε'} {u : α} :
    a.mapError f = .ok u ↔ a = .ok u := by
  cases a <;> simp [Except.mapError]

theorem mapError_eq_error {ε ε' α : Type} {a : Except ε α} {f : ε → ε'} {e' : ε'}
    (h : a.mapError f = .error e') : ∃ e, a = .error e := by
  cases a with
  | error e => exact ⟨e, rfl⟩
  | ok u => cases h

theorem finish_of_finisher {f : φ} (hmay : p.MayFinish how x)
    (hfinisher : p.finisher b x w = (.ok f, w')) :
    (p.finish b how x w).answer =
        (b.finish how x f w').answer.mapError (.transient (.ofFinish how) (some x)) ∧
      (p.finish b how x w).world = (b.finish how x f w').world := by
  obtain ⟨factory, _ | s, tally⟩ := p
  · cases hmay.1
  have hended : ¬(needsEnded how = true ∧ s.active = some x) := fun h => hmay.2 h.1 h.2
  cases hget : s.bound.get? x with
  | some g =>
    have hbound : boundFacade? ⟨factory, some s, tally⟩ x = some g := hget
    simp only [finisher, hbound] at hfinisher
    cases hfinisher
    rw [finish_bound hended hget]
    exact concludeFinish_eq ..
  | none =>
    have hbound : boundFacade? ⟨factory, some s, tally⟩ x = none := hget
    simp only [finisher, hbound] at hfinisher
    -- the branch has no facade, so the pool lends one
    have hidle : idle ⟨factory, some s, tally⟩ = s.idle := rfl
    rw [hidle] at hfinisher
    have htake : ∃ rest tally', takeIdle b s ⟨factory, some s, tally.addUnmapped⟩ w =
        (.ok (f, rest, tally'), w') := by
      rw [takeIdle]
      cases hqueue : s.idle with
      | cons g rest =>
        simp only [hqueue] at hfinisher
        cases hfinisher
        exact ⟨rest, tally.addUnmapped, rfl⟩
      | nil =>
        simp only [hqueue] at hfinisher
        simp only [hfinisher]
        exact ⟨[], tally.addUnmapped.addCreated, rfl⟩
    obtain ⟨rest, tally', htake⟩ := htake
    rw [finish_lent hended hget htake]
    exact concludeFinish_eq ..

/-- A facade is found for a branch that has none if some facade is idle. -/
theorem finisher_of_idle {f : φ} {rest : List φ} (hbound : p.boundFacade? x = none)
    (hidle : p.idle = f :: rest) (w : σ) : p.finisher b x w = (.ok f, w) := by
  simp only [finisher, hbound, hidle]

theorem unbound_of_finish (b : Backend γ σ φ κ) {f : φ} (hmay : p.MayFinish how x)
    (hf : p.boundFacade? x = some f) (w : σ) :
    let p' := (p.finish b how x w).provider
    p'.MayFinish how x ∧ p'.boundFacade? x = none ∧
      p'.idle = p.idle ++ [(b.finish how x f w).facade] := by
  obtain ⟨factory, _ | s, tally⟩ := p
  · cases hf
  have hget : s.bound.get? x = some f := hf
  have hended : ¬(needsEnded how = true ∧ s.active = some x) := fun h => hmay.2 h.1 h.2
  -- the answer does not matter here: the facade is idle whether or not it succeeded
  have hpool : (finish b how x ⟨factory, some s, tally⟩ w).provider.pool =
      some ((s.without x).offerIdle (b.finish how x f w).facade) := by
    rw [finish_bound hended hget]
    cases (b.finish how x f w).answer <;> rfl
  simp only [MayFinish, isInitialized, active?, boundFacade?, bound, idle, hpool, Option.isSome_some,
    Option.map_some, Option.getD_some, Option.bind_some, Pool.offerIdle, Pool.without,
    BranchMap.get?_erase_self, true_and, and_true]
  refine fun _ => ?_
  split
  · exact (Option.some_ne_none x).symm
  · assumption

/-- A provider that refuses a call does not ask for it to be made again. -/
theorem mayFinish_of_retryable {e : Error} (h : (p.finish b how x w).answer = .error e)
    (he : e.retryable = true) : p.MayFinish how x := by
  obtain ⟨factory, _ | s, tally⟩ := p
  · cases h
    cases he
  · refine ⟨rfl, fun hneeds hactive => ?_⟩
    have hrefused : needsEnded how = true ∧ s.active = some x := ⟨hneeds, hactive⟩
    simp only [finish, if_pos hrefused] at h
    cases h
    cases he

end BranchPool.Provider
