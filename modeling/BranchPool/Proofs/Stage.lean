/-
The life of a facade in a pool.

    made ──open──▶ idle ──start──▶ active ──end-and-prepare──▶ ended ──finish──▶ idle

A facade that cannot be opened is left alone; one that fails to start a branch
is closed and left alone; and one that is in use may be closed at any time.

* `Facade.Stage.Permits` — which calls a facade may receive at a stage;
* `Facade.Stage.after` — the stage after a call, which depends on the answer
  only for `openUp` and `start`.
-/
import BranchPool.Proofs.Provider.Run

namespace BranchPool.Facade

/-- How far a facade has come. -/
inductive Stage where
  /-- Not opened yet. -/
  | made
  /-- Could not be opened. -/
  | failed
  /-- Open, and free for any branch. -/
  | idle
  /-- Bound to a branch on which work is going on. -/
  | active (x : Xid)
  /-- Bound to a branch that was to be prepared, whether or not it was. -/
  | ended (x : Xid)
  /-- Open, but it did not start a branch. -/
  | rejected
  /-- Closed because it did not start a branch. -/
  | discarded
  /-- Closed for any other reason. -/
  | closed
  deriving DecidableEq

namespace Stage

/-- The branch that a facade is bound to. -/
def branch? : Stage → Option Xid
  | .active x => some x
  | .ended x => some x
  | _ => none

/-- Whether a facade will not be called again. -/
def IsFinal : Stage → Prop
  | .failed => True
  | .discarded => True
  | .closed => True
  | _ => False

/-- Whether a facade may lie in a pool between two calls on the provider. -/
def IsHeld : Stage → Prop
  | .idle => True
  | .active _ => True
  | .ended _ => True
  | _ => False

/-- Whether a facade may receive a call, if `bound` tells which branches have a
facade at that moment.  An idle facade receives calls only for branches that
have none, a bound one only for its own branch. -/
def Permits (bound : Xid → Prop) : Stage → Operation → Prop
  | .made, .openUp => True
  | .idle, .start x => ¬bound x
  | .idle, .finish _ x => ¬bound x
  | .idle, .recover => True
  | .idle, .close => True
  | .active x, .endAndPrepare y => y = x
  | .active x, .finish how y => y = x ∧ how = .failAndRollback
  | .active _, .useData _ => True
  | .active _, .close => True
  | .ended x, .finish _ y => y = x
  | .ended _, .close => True
  | .rejected, .close => True
  | _, _ => False

/-- The stage after a call that was permitted. -/
def after : Stage → Operation → Bool → Stage
  | .made, .openUp, ok => if ok then .idle else .failed
  | .idle, .start x, ok => if ok then .active x else .rejected
  | .active x, .endAndPrepare _, _ => .ended x
  | .active _, .finish _ _, _ => .idle
  | .ended _, .finish _ _, _ => .idle
  | .rejected, .close, _ => .discarded
  | _, .close, _ => .closed
  | q, _, _ => q

/-- Fewer bound branches permit more calls. -/
theorem Permits.mono {bound bound' : Xid → Prop} (hle : ∀ x, bound' x → bound x) {q : Stage}
    {op : Operation} (h : q.Permits bound op) : q.Permits bound' op := by
  cases q <;> cases op <;> first | exact h | exact fun hx => h (hle _ hx)

theorem Permits.not_isFinal {bound : Xid → Prop} {q : Stage} {op : Operation}
    (h : q.Permits bound op) : ¬q.IsFinal := by
  cases q <;> first | exact id | exact h.elim

theorem IsHeld.permits_close {q : Stage} (h : q.IsHeld) (bound : Xid → Prop) :
    q.Permits bound .close := by
  cases q <;> first | exact h.elim | trivial

theorem IsHeld.after_close {q : Stage} (h : q.IsHeld) (ok : Bool) : q.after .close ok = .closed := by
  cases q <;> first | rfl | exact h.elim

theorem IsFinal.branch?_eq_none {q : Stage} (h : q.IsFinal) : q.branch? = none := by
  cases q <;> first | rfl | exact h.elim

/-- A call that is permitted names the branch of its facade, or one that has no
facade. -/
theorem Permits.branch? {bound : Xid → Prop} {q : Stage} {op : Operation} {x : Xid}
    (h : q.Permits bound op) (hx : op.branch? = some x) : q.branch? = some x ∨ ¬bound x := by
  cases q <;> cases op <;> simp_all [Permits, Stage.branch?, Operation.branch?]

/-- A facade that is bound after a call was bound to that branch before, or
started it. -/
theorem Permits.branch?_after {bound : Xid → Prop} {q : Stage} {op : Operation} {ok : Bool} {x : Xid}
    (h : q.Permits bound op) (hx : (q.after op ok).branch? = some x) :
    q.branch? = some x ∨ ¬bound x := by
  cases ok <;> cases q <;> cases op <;> simp_all [Permits, after, Stage.branch?]

/-- A branch is ended by a call that ends it. -/
theorem Permits.eq_endAndPrepare {bound : Xid → Prop} {q : Stage} {op : Operation} {ok : Bool}
    {x : Xid} (h : q.Permits bound op) (hx : q.after op ok = .ended x) : op = .endAndPrepare x := by
  cases ok <;> cases q <;> cases op <;> simp_all [Permits, after]

end Stage

/-- How many facades a call adds to those made and opened. -/
def Operation.creates : Operation → Bool → Nat
  | .openUp, true => 1
  | _, _ => 0

/-- How many facades a call adds to those that did not start a branch. -/
def Operation.discards : Operation → Bool → Nat
  | .start _, false => 1
  | _, _ => 0

end BranchPool.Facade
