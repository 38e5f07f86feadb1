/-
What may become of a branch that a session is to finish.

* `Session.Verdict` — the answer, the session and the manager afterwards, and all that was
  true before;
* `Session.verdict_finish` — every attempt of an open session comes to one of these;
* `Session.Verdict.of_prepared`, `Session.Verdict.of_unknown` — a session that is not bound
  to a branch finishes it if it is prepared, and else has to know what to make of it.

Design note: this is where the three ways to finish a branch are taken apart.  A statement
on such a call is shown by cases on the verdict, whatever it is about: the answer, the
session, the branches or the outcomes.
-/
import BranchPool.Proofs.ResourceManager.Phases
import BranchPool.ResourceManager.Session

namespace BranchPool

open Facade

/-- How a branch ends if it is finished so. -/
def Facade.Finish.outcome : Finish → Outcome
  | .commit _ => .committed
  | .rollback => .rolledBack
  | .failAndRollback => .rolledBack

/-- Whether a branch that nobody knows counts as finished. -/
def Facade.Finish.toleratesUnknown : Finish → Bool
  | .commit ignoreUnknown => ignoreUnknown
  | .rollback => false
  | .failAndRollback => true

namespace Session

/-- What may become of a branch that an open session is to finish. -/
inductive Verdict (s : Session) (m : ResourceManager) (x : Xid) :
    Finish → Session.Reply Unit → Prop where
  | resolved {how} (hother : s.bound ≠ some x) (havailable : m.available = true)
    (hphase : m.phase? x = some .prepared) :
    Verdict s m x how ⟨.ok (), s, m.resolve x how.outcome⟩
  /-- The manager does not know the branch, and need not. -/
  | tolerated {how} (hother : s.bound ≠ some x) (havailable : m.available = true)
    (hphase : m.phase? x = none) (htolerates : how.toleratesUnknown = true) :
    Verdict s m x how ⟨.ok (), s, m⟩
  | unknown {how} (hother : s.bound ≠ some x) (havailable : m.available = true)
    (hphase : m.phase? x = none) (hstrict : how.toleratesUnknown = false) :
    Verdict s m x how ⟨.error (.unknownBranch x), s, m⟩
  /-- The branch is active for another session. -/
  | premature {how rejection} (hother : s.bound ≠ some x) (havailable : m.available = true)
    (hphase : m.phase? x = some .active)
    (hrejection : rejection = .notPrepared x ∨ rejection = .stillActive x) :
    Verdict s m x how ⟨.error (.rejected rejection), s, m⟩
  | unreached {how} (hother : s.bound ≠ some x) (hoffline : m.available = false) :
    Verdict s m x how ⟨.error ResourceManager.unreachable, s, m⟩
  /-- The bound branch was never ended, so its commit drops it and fails. -/
  | lost {ignoreUnknown} (hbound : s.bound = some x) :
    Verdict s m x (.commit ignoreUnknown)
      ⟨.error (.rejected (.neverEnded x)), { s with bound := none }, m.abandon x⟩
  /-- The bound branch is dropped, whether or not the manager can be reached. -/
  | dropped (hbound : s.bound = some x) :
    Verdict s m x .rollback ⟨.ok (), { s with bound := none }, m.abandon x⟩
  | givenUp (hbound : s.bound = some x) (havailable : m.available = true)
    (hlive : m.phase? x ≠ none) :
    Verdict s m x .failAndRollback ⟨.ok (), { s with bound := none }, m.resolve x .rolledBack⟩
  /-- The session is bound to a branch that the manager does not know. -/
  | forgotten (hbound : s.bound = some x) (havailable : m.available = true)
    (hphase : m.phase? x = none) :
    Verdict s m x .failAndRollback ⟨.ok (), { s with bound := none }, m⟩
  /-- The session lets go of its branch, and the manager does not learn of it. -/
  | deserted (hbound : s.bound = some x) (hoffline : m.available = false) :
    Verdict s m x .failAndRollback
      ⟨.error ResourceManager.unreachable, { s with bound := none }, m⟩

variable {s : Session} {m : ResourceManager} {x : Xid} {how : Finish} {r : Session.Reply Unit}

/-! ### The three ways to finish -/

theorem verdict_commit (hopen : s.isOpen = true) (x : Xid) (ignoreUnknown : Bool)
    (m : ResourceManager) :
    Verdict s m x (.commit ignoreUnknown) (s.commit x ignoreUnknown m) := by
  rw [commit, whenOpen, if_pos hopen]
  -- the session looks at its own binding before it asks the manager
  by_cases hbound : s.bound = some x
  · rw [if_pos hbound]
    exact .lost hbound
  rw [if_neg hbound, ResourceManager.commit?]
  cases havailable : m.available with
  | false => exact .unreached hbound havailable
  | true =>
    cases hphase : m.phase? x with
    | none =>
      cases ignoreUnknown with
      | false => exact .unknown hbound havailable hphase rfl
      | true => exact .tolerated hbound havailable hphase rfl
    | some phase =>
      cases phase with
      | active => exact .premature hbound havailable hphase (.inl rfl)
      | prepared => exact .resolved hbound havailable hphase

theorem verdict_rollback (hopen : s.isOpen = true) (x : Xid) (m : ResourceManager) :
    Verdict s m x .rollback (s.rollback x m) := by
  rw [rollback, whenOpen, if_pos hopen]
  by_cases hbound : s.bound = some x
  · rw [if_pos hbound]
    exact .dropped hbound
  rw [if_neg hbound, ResourceManager.rollback?]
  cases havailable : m.available with
  | false => exact .unreached hbound havailable
  | true =>
    cases hphase : m.phase? x with
    | none => exact .unknown hbound havailable hphase rfl
    | some phase =>
      cases phase with
      | active => exact .premature hbound havailable hphase (.inr rfl)
      | prepared => exact .resolved hbound havailable hphase

theorem verdict_failAndRollback (hopen : s.isOpen = true) (x : Xid) (m : ResourceManager) :
    Verdict s m x .failAndRollback (s.failAndRollback x m) := by
  rw [failAndRollback, whenOpen, if_pos hopen]
  by_cases hbound : s.bound = some x
  -- The bound branch may be given up while it is active, so its phase does not matter.
  · simp only [hbound, decide_true, if_true, ResourceManager.rollback?]
    cases havailable : m.available with
    | false => exact .deserted hbound havailable
    | true =>
      cases hphase : m.phase? x with
      | none => exact .forgotten hbound havailable hphase
      | some phase =>
        have hlive : m.phase? x ≠ none := by simp [hphase]
        cases phase <;> exact .givenUp hbound havailable hlive
  simp only [hbound, decide_false, if_false, ResourceManager.rollback?]
  cases havailable : m.available with
  | false => exact .unreached hbound havailable
  | true =>
    cases hphase : m.phase? x with
    | none => exact .tolerated hbound havailable hphase rfl
    | some phase =>
      cases phase with
      | active => exact .premature hbound havailable hphase (.inr rfl)
      | prepared => exact .resolved hbound havailable hphase

/-- Every attempt of an open session to finish a branch comes to a verdict. -/
theorem verdict_finish (hopen : s.isOpen = true) (how : Finish) (x : Xid) (m : ResourceManager) :
    Verdict s m x how (s.finish how x m) := by
  cases how with
  | commit ignoreUnknown => exact verdict_commit hopen x ignoreUnknown m
  | rollback => exact verdict_rollback hopen x m
  | failAndRollback => exact verdict_failAndRollback hopen x m

theorem finish_closed (hclosed : ¬s.isOpen = true) (how : Finish) (x : Xid) (m : ResourceManager) :
    s.finish how x m = ⟨.error .closed, s, m⟩ := by
  cases how <;> exact if_neg hclosed

namespace Verdict

theorem of_prepared (h : Verdict s m x how r) (hother : s.bound ≠ some x)
    (havailable : m.available = true) (hphase : m.phase? x = some .prepared) :
    r = ⟨.ok (), s, m.resolve x how.outcome⟩ := by
  -- every other verdict contradicts one of the three facts about session and manager
  cases h with
  | resolved => rfl
  | tolerated _ _ hnone => cases hphase.symm.trans hnone
  | unknown _ _ hnone => cases hphase.symm.trans hnone
  | premature _ _ hactive => cases hphase.symm.trans hactive
  | unreached _ hoffline => cases havailable.symm.trans hoffline
  | lost hbound => exact absurd hbound hother
  | dropped hbound => exact absurd hbound hother
  | givenUp hbound => exact absurd hbound hother
  | forgotten hbound => exact absurd hbound hother
  | deserted hbound => exact absurd hbound hother

theorem of_unknown (h : Verdict s m x how r) (hother : s.bound ≠ some x)
    (havailable : m.available = true) (hphase : m.phase? x = none) :
    r = ⟨if how.toleratesUnknown then .ok () else .error (.unknownBranch x), s, m⟩ := by
  cases h with
  | resolved _ _ hprepared => cases hphase.symm.trans hprepared
  | tolerated _ _ _ htolerates => rw [if_pos htolerates]
  | unknown _ _ _ hstrict => rw [if_neg (by simp [hstrict])]
  | premature _ _ hactive => cases hphase.symm.trans hactive
  | unreached _ hoffline => cases havailable.symm.trans hoffline
  | lost hbound => exact absurd hbound hother
  | dropped hbound => exact absurd hbound hother
  | givenUp hbound => exact absurd hbound hother
  | forgotten hbound => exact absurd hbound hother
  | deserted hbound => exact absurd hbound hother

end Verdict

end Session

end BranchPool
