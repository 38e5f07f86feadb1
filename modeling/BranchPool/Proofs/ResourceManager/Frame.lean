/-
What a call on a session leaves alone.

* `Session.Steady` — nothing changes but the branch that the session is bound to, the live
  branches and the outcomes;
* `Session.steady_perform` — so it is with every call that starts, prepares, finishes or
  recovers branches, whether it succeeds or not;
* `Session.available_perform` — no call makes the manager unavailable.
-/
import BranchPool.Proofs.Provider.Run
import BranchPool.Proofs.ResourceManager.Verdict

namespace BranchPool

open Facade

theorem ResourceManager.abandon_eq (m : ResourceManager) (x : Xid) :
    ∃ branches outcomes, m.abandon x = { m with branches, outcomes } := by
  rw [abandon]
  split
  · exact ⟨_, _, rfl⟩
  · exact ⟨_, _, rfl⟩

namespace Session

variable {α : Type} {s : Session} {m : ResourceManager}

/-- Whether a call changes the bound branch, the live branches and the outcomes at most. -/
def Steady (s : Session) (m : ResourceManager) (r : Session.Reply α) : Prop :=
  ∃ bound branches outcomes, r.facade = { s with bound } ∧ r.world = { m with branches, outcomes }

namespace Steady

variable {r : Session.Reply α}

theorem same (answer : Except Error α) : Steady s m ⟨answer, s, m⟩ :=
  ⟨_, _, _, rfl, rfl⟩

theorem isOpen (h : Steady s m r) : r.facade.isOpen = s.isOpen := by
  obtain ⟨_, _, _, hfacade, -⟩ := h
  rw [hfacade]

theorem link (h : Steady s m r) : r.facade.link = s.link := by
  obtain ⟨_, _, _, hfacade, -⟩ := h
  rw [hfacade]

theorem available (h : Steady s m r) : r.world.available = m.available := by
  obtain ⟨_, _, _, -, hworld⟩ := h
  rw [hworld]

theorem lastConnectionId (h : Steady s m r) :
    r.world.lastConnectionId = m.lastConnectionId := by
  obtain ⟨_, _, _, -, hworld⟩ := h
  rw [hworld]

end Steady

/-! ### Calls that work on branches -/

theorem steady_whenOpen {call : Session → ResourceManager → Reply α} (h : Steady s m (call s m)) :
    Steady s m (whenOpen call s m) := by
  rw [whenOpen]
  split
  · exact h
  · exact .same _

theorem steady_ask {result : Except Error ResourceManager} {after : Session}
    (h : ∀ m', result = .ok m' → Steady s m (⟨.ok (), after, m'⟩ : Reply Unit)) :
    Steady s m (ask result after s m) := by
  cases result with
  | ok m' => exact h m' rfl
  | error e => exact .same _

theorem steady_start (x : Xid) (s : Session) (m : ResourceManager) : Steady s m (s.start x m) := by
  refine steady_whenOpen ?_
  cases s.bound with
  | some y => exact .same _
  | none =>
    refine steady_ask fun m' hbegin => ?_
    obtain ⟨-, rfl⟩ := ResourceManager.begin?_eq_ok hbegin
    exact ⟨_, _, _, rfl, rfl⟩

theorem steady_endAndPrepare (x : Xid) (s : Session) (m : ResourceManager) :
    Steady s m (s.endAndPrepare x m) := by
  refine steady_whenOpen ?_
  split
  · refine steady_ask fun m' hprepare => ?_
    obtain ⟨_, -, rfl⟩ := ResourceManager.prepare?_eq_ok hprepare
    exact ⟨_, _, _, rfl, rfl⟩
  · exact .same _

theorem Verdict.steady {how : Finish} {x : Xid} {r : Session.Reply Unit}
    (h : Verdict s m x how r) : Steady s m r := by
  obtain ⟨branches, outcomes, habandon⟩ := m.abandon_eq x
  cases h with
  | lost => exact ⟨_, _, _, rfl, habandon⟩
  | dropped => exact ⟨_, _, _, rfl, habandon⟩
  | _ => exact ⟨_, _, _, rfl, rfl⟩

theorem steady_finish (how : Finish) (x : Xid) (s : Session) (m : ResourceManager) :
    Steady s m (s.finish how x m) := by
  by_cases hopen : s.isOpen = true
  · exact (verdict_finish hopen how x m).steady
  · rw [finish_closed hopen]
    exact .same _

theorem steady_perform {op : Operation} (hop : op.branch? ≠ none ∨ op = .recover) (s : Session)
    (m : ResourceManager) : Steady s m (ResourceManager.backend.perform op s m) := by
  cases op with
  | start x => exact steady_start x s m
  | endAndPrepare x => exact steady_endAndPrepare x s m
  | finish how x => exact steady_finish how x s m
  | recover =>
    have hrecover : Steady s m (s.recover m) := steady_whenOpen (.same _)
    exact hrecover
  | _ => simp [Operation.branch?] at hop

/-! ### All calls -/

/-- A call on the data connection neither opens nor closes a session, and leaves the manager
available or not, as it is. -/
theorem isOpen_useData (use : DataUse) (s : Session) (m : ResourceManager) :
    let r := ResourceManager.backend.perform (.useData use) s m
    r.facade.isOpen = s.isOpen ∧ r.world.available = m.available := by
  cases use with
  | establish =>
    obtain ⟨config, isOpen, bound, link⟩ := s
    cases isOpen <;> cases link <;> exact ⟨rfl, rfl⟩
  | reestablish =>
    obtain ⟨config, isOpen, bound, link⟩ := s
    cases isOpen <;> exact ⟨rfl, rfl⟩
  | _ => exact ⟨rfl, rfl⟩

/-- An open session is closed by nothing but `close`. -/
theorem isOpen_perform {op : Operation} (hopen : s.isOpen = true) (hop : op ≠ .close) :
    (ResourceManager.backend.perform op s m).facade.isOpen = true := by
  cases op with
  | openUp =>
    simp only [Backend.perform, ResourceManager.backend, openUp, if_pos hopen]
    exact hopen
  | close => exact absurd rfl hop
  | useData use => exact (isOpen_useData use s m).1.trans hopen
  | _ => exact (steady_perform (by simp [Operation.branch?]) s m).isOpen.trans hopen

theorem available_openUp (s : Session) (m : ResourceManager) :
    (s.openUp m).world.available = m.available := by
  rw [openUp]
  split
  · rfl
  · cases hconnect : m.connect? with
    | error e => rfl
    | ok m' =>
      cases ResourceManager.connect?_eq_ok hconnect
      rfl

theorem available_close (s : Session) (m : ResourceManager) :
    (s.close m).world.available = m.available := by
  rw [close]
  cases s.bound with
  | none => rfl
  | some x =>
    obtain ⟨_, _, habandon⟩ := m.abandon_eq x
    show (m.abandon x).available = _
    rw [habandon]

/-- No call on a session makes its manager available or unavailable. -/
theorem available_perform (op : Operation) (s : Session) (m : ResourceManager) :
    (ResourceManager.backend.perform op s m).world.available = m.available := by
  cases op with
  | openUp => exact available_openUp s m
  | close => exact available_close s m
  | useData use => exact (isOpen_useData use s m).2
  | _ => exact (steady_perform (by simp [Operation.branch?]) s m).available

end Session

end BranchPool
