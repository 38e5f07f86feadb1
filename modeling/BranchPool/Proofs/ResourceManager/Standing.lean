/-
What a session of a pool is at each stage.

* `Session.AtStage` — whether a session is open, and to which branch it is
  bound;
* `Session.describes` — the calls that its stage permits leave a session so,
  whatever its manager answers and whoever else works on it.
-/
import BranchPool.Proofs.Provider.Description
import BranchPool.Proofs.ResourceManager.SessionEffect

namespace BranchPool

open Facade

namespace Session

variable {s : Session} {m : ResourceManager}

/-! ### The bound branch after a call -/

theorem bound_openUp (s : Session) (m : ResourceManager) :
    (s.openUp m).facade.bound = s.bound := by
  rw [openUp]
  split
  · rfl
  · cases m.connect? <;> rfl

theorem bound_start (x : Xid) (s : Session) (m : ResourceManager) :
    (s.start x m).facade.bound = if (s.start x m).answer.isOk then some x else s.bound := by
  rw [start, whenOpen]
  split
  swap
  · rfl
  cases hbound : s.bound with
  | some y => exact hbound
  | none =>
    dsimp only
    cases m.begin? x s.config.timeout with
    | error e => exact hbound
    | ok m' => rfl

theorem bound_endAndPrepare (x : Xid) (s : Session) (m : ResourceManager) :
    (s.endAndPrepare x m).facade.bound =
      if (s.endAndPrepare x m).answer.isOk then none else s.bound := by
  rw [endAndPrepare, whenOpen]
  split
  swap
  · rfl
  split
  swap
  · rfl
  cases m.prepare? x <;> rfl

/-- An open session that finishes its own branch is free afterwards. -/
theorem bound_finish (how : Finish) (x : Xid) (hopen : s.isOpen = true) :
    (s.finish how x m).facade.bound = if s.bound = some x then none else s.bound := by
  cases how with
  | commit ignoreUnknown =>
    simp only [finish, commit, whenOpen, hopen, if_true]
    split
    · rfl
    · cases m.commit? x ignoreUnknown <;> rfl
  | rollback =>
    simp only [finish, rollback, whenOpen, hopen, if_true]
    split
    · rfl
    · cases m.rollback? x false <;> rfl
  | failAndRollback =>
    simp only [finish, failAndRollback, whenOpen, hopen, if_true]
    split <;> split <;> rfl

theorem bound_recover (s : Session) (m : ResourceManager) :
    (s.recover m).facade.bound = s.bound := by
  rw [recover, whenOpen]
  split <;> rfl

theorem bound_useData (use : DataUse) (s : Session) (m : ResourceManager) :
    (ResourceManager.backend.perform (.useData use) s m).facade.bound = s.bound := by
  cases use with
  | establish =>
    simp only [Backend.perform, ResourceManager.backend, establish_eq, reestablish, whenOpen,
      Facade.Reply.map]
    split
    · cases s.link <;> rfl
    · rfl
  | reestablish =>
    simp only [Backend.perform, ResourceManager.backend, reestablish, whenOpen, Facade.Reply.map]
    split <;> rfl
  | _ => rfl

/-! ### Stages -/

/-- What a session is at a stage.  A session that will not be called again is
free. -/
def AtStage : Stage → Session → Prop
  | .made, s => s.isOpen = false ∧ s.bound = none
  | .idle, s => s.isOpen = true ∧ s.bound = none
  | .active x, s => s.isOpen = true ∧ s.bound = some x
  | .ended x, s => s.isOpen = true ∧ (s.bound = none ∨ s.bound = some x)
  | .rejected, s => s.isOpen = true ∧ s.bound = none
  | _, s => s.bound = none

theorem AtStage.bound_of_isFinal {q : Stage} (h : s.AtStage q) (hq : q.IsFinal) :
    s.bound = none := by
  cases q <;> first | exact h | exact hq.elim

theorem describes : ResourceManager.backend.Describes AtStage where
  made h := by
    cases h
    exact ⟨rfl, rfl⟩
  call {bound q op s} m hpermits h := by
    -- by stage and permitted call: each call has a lemma on openness and one on the binding
    cases q with
    | made =>
      cases op with
      | openUp =>
        have hbound : (s.openUp m).facade.bound = none := (bound_openUp s m).trans h.2
        show AtStage (if (s.openUp m).answer.isOk then .idle else .failed) (s.openUp m).facade
        split
        · rename_i hok
          refine ⟨?_, hbound⟩
          have hclosed : ¬s.isOpen = true := by simp [h.1]
          rw [openUp, if_neg hclosed] at hok ⊢
          cases hconnect : m.connect? with
          | error e =>
            rw [hconnect] at hok
            cases hok
          | ok m' => rfl
        · exact hbound
      | _ => exact hpermits.elim
    | idle =>
      cases op with
      | close => rfl
      | recover =>
        have hopen := (steady_perform (.inr rfl) s m).isOpen.trans h.1
        exact ⟨hopen, (bound_recover s m).trans h.2⟩
      | start x =>
        have hopen := (steady_start x s m).isOpen.trans h.1
        have hbound := bound_start x s m
        show AtStage (if (s.start x m).answer.isOk then .active x else .rejected)
          (s.start x m).facade
        split
        · rename_i hok
          exact ⟨hopen, by rw [hbound, if_pos hok]⟩
        · rename_i hok
          exact ⟨hopen, by rw [hbound, if_neg hok, h.2]⟩
      | finish how x =>
        refine ⟨(steady_finish how x s m).isOpen.trans h.1, ?_⟩
        have hbound := bound_finish (m := m) how x h.1
        rw [h.2] at hbound
        exact hbound
      | _ => exact hpermits.elim
    | active x =>
      cases op with
      | close => rfl
      | useData use =>
        have hopen := (isOpen_useData use s m).1.trans h.1
        exact ⟨hopen, (bound_useData use s m).trans h.2⟩
      | endAndPrepare y =>
        refine ⟨(steady_endAndPrepare y s m).isOpen.trans h.1, ?_⟩
        have hbound := bound_endAndPrepare y s m
        split at hbound
        · exact .inl hbound
        · exact .inr (hbound.trans h.2)
      | finish how y =>
        obtain ⟨rfl, -⟩ := hpermits
        refine ⟨(steady_finish how y s m).isOpen.trans h.1, ?_⟩
        exact (bound_finish how y h.1).trans (if_pos h.2)
      | _ => exact hpermits.elim
    | ended x =>
      cases op with
      | close => rfl
      | finish how y =>
        obtain rfl : y = x := hpermits
        refine ⟨(steady_finish how y s m).isOpen.trans h.1, ?_⟩
        have hbound := bound_finish (m := m) how y h.1
        -- the end may have failed, so the branch can still be bound; finishing it lets go of it
        rcases h.2 with hfree | hbusy
        · rw [hfree] at hbound
          exact hbound
        · exact hbound.trans (if_pos hbusy)
      | _ => exact hpermits.elim
    | rejected =>
      cases op with
      | close => rfl
      | _ => exact hpermits.elim
    | _ => exact hpermits.elim

end Session

end BranchPool
