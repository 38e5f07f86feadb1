/-
What a session answers is what its manager has done.

* `Session.Verdict.commit_ok_iff` and its neighbours — the answer to an attempt to finish a
  branch, read against the history of outcomes;
* `Session.atomic_perform` — any other call that fails has changed nothing;
* `Deployment.veracity_run` — so it is with all sessions that are held after any run.
-/
import BranchPool.Proofs.ResourceManager.Exclusion
import BranchPool.Proofs.ResourceManager.Retry

namespace BranchPool

open Facade

namespace Session

variable {s : Session} {m : ResourceManager} {x : Xid} {how : Finish} {r : Session.Reply Unit}

/-! ### Answers and outcomes -/

namespace Verdict

/-- A commit succeeds exactly if the branch is committed by it, or is not known to a
manager that was asked to tolerate that. -/
theorem commit_ok_iff {ignoreUnknown : Bool} (h : Verdict s m x (.commit ignoreUnknown) r)
    (hsound : s.Sound m) :
    r.answer = .ok () ↔ r.world.outcomes = m.outcomes ++ [(x, .committed)] ∨
      ignoreUnknown = true ∧ m.available = true ∧ m.phase? x = none := by
  cases h with
  | resolved => exact ⟨fun _ => .inl rfl, fun _ => rfl⟩
  | tolerated hother havailable hphase htolerates =>
    exact ⟨fun _ => .inr ⟨htolerates, havailable, hphase⟩, fun _ => rfl⟩
  | unknown hother havailable hphase hstrict =>
    refine ⟨nofun, ?_⟩
    rintro (hsame | ⟨hignore, -, -⟩)
    · exact absurd hsame (by simp)
    · cases hstrict.symm.trans hignore
  | premature hother havailable hactive =>
    refine ⟨nofun, ?_⟩
    rintro (hsame | ⟨-, -, hnone⟩)
    · exact absurd hsame (by simp)
    · cases hactive.symm.trans hnone
  | unreached hother hoffline =>
    refine ⟨nofun, ?_⟩
    rintro (hsame | ⟨-, havailable, -⟩)
    · exact absurd hsame (by simp)
    · cases hoffline.symm.trans havailable
  | lost hbound =>
    -- A sound session has an active branch, so a rollback is recorded and no commit.
    have hactive := (hsound x hbound).2
    rw [ResourceManager.abandon_of_active hactive]
    refine ⟨nofun, ?_⟩
    rintro (hcommitted | ⟨-, -, hnone⟩)
    · cases List.append_cancel_left hcommitted
    · cases hactive.symm.trans hnone

/-- A rollback succeeds exactly if the branch is rolled back by it. -/
theorem rollback_ok_iff (h : Verdict s m x .rollback r) (hsound : s.Sound m) :
    r.answer = .ok () ↔ r.world.outcomes = m.outcomes ++ [(x, .rolledBack)] := by
  cases h with
  | resolved => exact ⟨fun _ => rfl, fun _ => rfl⟩
  | tolerated hother havailable hphase htolerates => cases htolerates
  | unknown => exact ⟨nofun, fun hsame => absurd hsame (by simp)⟩
  | premature => exact ⟨nofun, fun hsame => absurd hsame (by simp)⟩
  | unreached => exact ⟨nofun, fun hsame => absurd hsame (by simp)⟩
  | dropped hbound =>
    rw [ResourceManager.abandon_of_active (hsound x hbound).2]
    exact ⟨fun _ => rfl, fun _ => rfl⟩

/-- A branch that was given up with success is not live any more, and was rolled back
if it was. -/
theorem of_failAndRollback_ok (h : Verdict s m x .failAndRollback r) (hok : r.answer = .ok ()) :
    r.world.phase? x = none ∧
      r.world.outcomes = m.outcomes ++ if (m.phase? x).isSome then [(x, .rolledBack)] else [] := by
  have hgone : (m.resolve x .rolledBack).phase? x = none := by
    rw [ResourceManager.phase?_resolve, if_pos rfl]
  -- the verdicts that answer `Ok`: two settle the branch, two did not find it
  cases h with
  | resolved hother havailable hphase =>
    rw [hphase]
    exact ⟨hgone, rfl⟩
  | givenUp hbound havailable hlive =>
    rw [if_pos (Option.isSome_iff_ne_none.mpr hlive)]
    exact ⟨hgone, rfl⟩
  | tolerated _ _ hphase | forgotten _ _ hphase =>
    refine ⟨hphase, ?_⟩
    rw [hphase]
    exact (List.append_nil _).symm
  | unknown | premature | unreached | deserted => cases hok

/-- An attempt that fails has changed nothing, unless it was to commit the bound
branch. -/
theorem world_of_error {e : Error} (h : Verdict s m x how r) (herror : r.answer = .error e)
    (hexcept : ∀ ignoreUnknown, how = .commit ignoreUnknown → s.bound ≠ some x) : r.world = m := by
  cases h with
  | resolved | dropped | givenUp => cases herror
  | lost hbound => exact absurd hbound (hexcept _ rfl)
  | _ => rfl

end Verdict

/-! ### Other calls -/

/-- Whether a call has changed nothing if it failed. -/
def Atomic {α : Type} (m : ResourceManager) (r : Session.Reply α) : Prop :=
  ∀ e, r.answer = .error e → r.world = m

theorem atomic_same {α : Type} (answer : Except Error α) (s : Session) (m : ResourceManager) :
    Atomic m ⟨answer, s, m⟩ := fun _ _ => rfl

theorem atomic_ok {α : Type} (a : α) (s : Session) (m m' : ResourceManager) :
    Atomic m ⟨.ok a, s, m'⟩ := by
  rintro _ ⟨⟩

theorem atomic_ask (result : Except Error ResourceManager) (after : Session) :
    Atomic m (ask result after s m) := by
  cases result with
  | ok m' => exact atomic_ok () after m m'
  | error e => exact atomic_same _ s m

theorem atomic_whenOpen {α : Type} {call : Session → ResourceManager → Session.Reply α}
    (h : Atomic m (call s m)) : Atomic m (whenOpen call s m) := by
  rw [whenOpen]
  split
  · exact h
  · exact atomic_same _ s m

theorem atomic_map {α β : Type} {r : Session.Reply α} (h : Atomic m r) (f : α → β) :
    Atomic m (r.map f) := by
  obtain ⟨answer, s', m'⟩ := r
  cases answer with
  | ok a => exact atomic_ok _ s' m m'
  | error e =>
    intro _ _
    exact h e rfl

theorem atomic_start (x : Xid) (s : Session) (m : ResourceManager) :
    Atomic m (s.start x m) := by
  refine atomic_whenOpen ?_
  cases s.bound with
  | some y => exact atomic_same _ s m
  | none => exact atomic_ask _ _

theorem atomic_endAndPrepare (x : Xid) (s : Session) (m : ResourceManager) :
    Atomic m (s.endAndPrepare x m) := by
  refine atomic_whenOpen ?_
  split
  · exact atomic_ask _ _
  · exact atomic_same _ s m

theorem atomic_reestablish (s : Session) (m : ResourceManager) : Atomic m (s.reestablish m) :=
  atomic_whenOpen (atomic_ok _ _ m _)

theorem atomic_useData (use : DataUse) (s : Session) (m : ResourceManager) :
    Atomic m (ResourceManager.backend.perform (.useData use) s m) := by
  cases use with
  | establish =>
    refine atomic_map (?_ : Atomic m (s.establish m)) _
    rw [establish_eq]
    refine atomic_whenOpen ?_
    cases s.link with
    | some link => exact atomic_ok link s m m
    | none => exact atomic_reestablish s m
  | reestablish => exact atomic_map (atomic_reestablish s m) _
  | _ => exact atomic_ok () _ m m

/-- A call that is not to finish a branch has changed nothing if it failed. -/
theorem atomic_perform {op : Operation} (hop : ∀ how x, op ≠ .finish how x) (s : Session)
    (m : ResourceManager) : Atomic m (ResourceManager.backend.perform op s m) := by
  -- finishes are left out, as the commit of a bound branch fails and yet changes the manager
  cases op with
  | openUp =>
    simp only [Backend.perform, ResourceManager.backend, openUp]
    split
    · exact atomic_ok () s m m
    · exact atomic_ask _ _
  | close => exact atomic_ok () _ m _
  | start x => exact atomic_start x s m
  | endAndPrepare x => exact atomic_endAndPrepare x s m
  | finish how x => exact absurd rfl (hop how x)
  | recover => exact atomic_map (atomic_whenOpen (atomic_same _ s m)) _
  | useData use => exact atomic_useData use s m

end Session

/-! ### Runs -/

namespace Deployment

/-- After every run of any number of sessions and providers over one manager, what an open
session answers is what has been done.  A commit that succeeds has committed the branch, or
else the branch is not known and need not be; a rollback that succeeds has rolled it back;
and a branch that was given up with success is not live any more.  Conversely, what was done
is answered so.  A call that fails has changed nothing in the manager, except for the commit
of a branch that the session is still bound to: that branch is rolled back. -/
theorem veracity_run (ms : List (Move Config Bool)) (manager : ResourceManager) :
    let b := ResourceManager.backend
    let act := fun available (m : ResourceManager) => m.setAvailable available
    let D := run b act ms { world := manager }
    let m := D.world
    ∀ s ∈ D.held, s.isOpen = true →
      (∀ x, let r := b.perform (.finish (.commit false) x) s m
        r.answer = .ok () ↔ r.world.outcomes = m.outcomes ++ [(x, .committed)]) ∧
      (∀ x, let r := b.perform (.finish (.commit true) x) s m
        r.answer = .ok () ↔ r.world.outcomes = m.outcomes ++ [(x, .committed)] ∨
          m.available = true ∧ m.phase? x = none) ∧
      (∀ x, let r := b.perform (.finish .rollback x) s m
        r.answer = .ok () ↔ r.world.outcomes = m.outcomes ++ [(x, .rolledBack)]) ∧
      (∀ x, let r := b.perform (.finish .failAndRollback x) s m
        r.answer = .ok () → r.world.phase? x = none ∧
          r.world.outcomes =
            m.outcomes ++ if (m.phase? x).isSome then [(x, .rolledBack)] else []) ∧
      (∀ op e, (b.perform op s m).answer = .error e →
        (∀ ignoreUnknown x, op = .finish (.commit ignoreUnknown) x → s.bound ≠ some x) →
          (b.perform op s m).world = m) ∧
      ∀ ignoreUnknown x, s.bound = some x →
        let r := b.perform (.finish (.commit ignoreUnknown) x) s m
        (∃ e, r.answer = .error e ∧ e.xaCode? = some (-6)) ∧
          r.world.branches = m.branches.erase x ∧
          r.world.outcomes = m.outcomes ++ [(x, .rolledBack)] := by
  intro b act D m s hs hopen
  have hsound : s.Sound m := (harmony_run ms manager).sound s hs
  have hverdict : ∀ how x, Session.Verdict s m x how (b.perform (.finish how x) s m) :=
    fun how x => Session.verdict_finish hopen how x m
  refine ⟨fun x => ?_, fun x => ?_, fun x => (hverdict .rollback x).rollback_ok_iff hsound,
    fun x => (hverdict .failAndRollback x).of_failAndRollback_ok, fun op e herror hexcept => ?_,
    fun ignoreUnknown x hbound => ?_⟩
  · have hiff := (hverdict (.commit false) x).commit_ok_iff hsound
    simpa only [Bool.false_eq_true, false_and, or_false] using hiff
  · have hiff := (hverdict (.commit true) x).commit_ok_iff hsound
    simpa only [true_and] using hiff
  -- an error leaves the manager alone, save for the commit that the hypothesis excludes
  · cases op with
    | finish how x =>
      refine (hverdict how x).world_of_error herror ?_
      rintro ignoreUnknown rfl
      exact hexcept ignoreUnknown x rfl
    | _ => exact Session.atomic_perform (by simp) s m e herror
  · have hcommit : b.perform (.finish (.commit ignoreUnknown) x) s m = _ :=
      Session.commit_bound hopen hbound (hsound x hbound).2
    rw [hcommit]
    exact ⟨⟨_, rfl, rfl⟩, rfl, rfl⟩

/-- A session has prepared one branch and works on another: it commits the first, and
loses the second if it is to commit that too. -/
theorem veracity_of_unended_branch :
    let b := ResourceManager.backend
    let act := fun available (m : ResourceManager) => m.setAvailable available
    let x : Xid := ⟨1, [1], [], by decide, by decide⟩
    let y : Xid := ⟨1, [2], [], by decide, by decide⟩
    let ms : List (Move Config Bool) :=
      [.addFacade default, .callFacade 0 .openUp, .callFacade 0 (.start x),
        .callFacade 0 (.endAndPrepare x), .callFacade 0 (.start y)]
    let D := run b act ms { world := {} }
    ∃ s ∈ D.held, s.isOpen = true ∧ s.bound = some y ∧
      (b.perform (.finish (.commit false) x) s D.world).answer = .ok () ∧
        (b.perform (.finish (.commit false) y) s D.world).world.outcomes = [(y, .rolledBack)] := by
  intro b act x y ms D
  let s : Session := { config := default, isOpen := true, bound := some y }
  have hs : s ∈ D.held := by decide
  obtain ⟨hcommit, -, -, -, -, hlost⟩ := veracity_run ms {} s hs rfl
  exact ⟨s, hs, rfl, rfl, (hcommit x).mpr (by decide), (hlost false y rfl).2.2⟩

end Deployment

end BranchPool
