/-
What sessions can do while the manager cannot be reached.

* `Session.DropsWork` — a session finishes the branch that it is still bound to, and
  does so without asking the manager: the unended work goes as if the connection were
  gone;
* `Session.answer_offline`, `Session.Verdict.of_offline` — every other call on a branch
  fails during an outage;
* `Deployment.outage_run` — so it is with all sessions that are held after any run.
-/
import BranchPool.Proofs.ResourceManager.Answers
import BranchPool.Proofs.ResourceManager.Exclusion

namespace BranchPool

open Facade

/-- Whether a call is about branches. -/
def Facade.Operation.isBranchCall : Operation → Bool
  | .start _ => true
  | .endAndPrepare _ => true
  | .finish _ _ => true
  | .recover => true
  | _ => false

/-- The branch that a call drops, with its unended work, if it is made on the session
that is bound to it. -/
def Facade.Operation.drops? : Operation → Option Xid
  | .finish (.commit _) x => some x
  | .finish .rollback x => some x
  | _ => none

namespace Session

/-- Whether a call drops the unended work of the branch that a session is bound
to. -/
def DropsWork (s : Session) (op : Operation) (x : Xid) : Prop :=
  s.bound = some x ∧ op.drops? = some x

/-- Whether a call has failed and has changed nothing in the manager.  Either the
manager could not be reached, or the session itself complained. -/
def Fruitless (m : ResourceManager) (r : Session.Reply Unit) : Prop :=
  (∃ e, r.answer = .error e ∧ (e = ResourceManager.unreachable ∨ e.IsMisuse)) ∧ r.world = m

variable {s : Session} {m : ResourceManager} {x : Xid} {how : Finish} {r : Session.Reply Unit}

theorem start_offline (hoffline : m.available = false) (hopen : s.isOpen = true) (x : Xid) :
    Fruitless m (s.start x m) := by
  rw [start, whenOpen, if_pos hopen]
  cases s.bound with
  | some y => exact ⟨⟨_, rfl, .inr trivial⟩, rfl⟩
  | none =>
    have hbegin : m.begin? x s.config.timeout = .error ResourceManager.unreachable := by
      simp [ResourceManager.begin?, hoffline]
    simp only [hbegin]
    exact ⟨⟨_, rfl, .inl rfl⟩, rfl⟩

theorem endAndPrepare_offline (hoffline : m.available = false) (hopen : s.isOpen = true)
    (x : Xid) : Fruitless m (s.endAndPrepare x m) := by
  rw [endAndPrepare, whenOpen, if_pos hopen]
  split
  · have hprepare : m.prepare? x = .error ResourceManager.unreachable := by
      simp [ResourceManager.prepare?, hoffline]
    rw [hprepare]
    exact ⟨⟨_, rfl, .inl rfl⟩, rfl⟩
  · exact ⟨⟨_, rfl, .inr trivial⟩, rfl⟩

theorem recover_offline (hoffline : m.available = false) (hopen : s.isOpen = true) :
    Fruitless m ((s.recover m).map fun _ => ()) := by
  have hscan : m.scan? = .error ResourceManager.unreachable := by
    simp [ResourceManager.scan?, hoffline]
  rw [recover, whenOpen, if_pos hopen, hscan]
  exact ⟨⟨_, rfl, .inl rfl⟩, rfl⟩

/-- During an outage a session finishes no branch but the one that it is bound to. -/
theorem Verdict.of_offline (h : Verdict s m x how r) (hsound : s.Sound m)
    (hoffline : m.available = false) :
    (¬s.DropsWork (.finish how x) x → Fruitless m r) ∧
      (s.DropsWork (.finish how x) x → m.phase? x = some .active ∧
        r.world = m.resolve x .rolledBack ∧ r.facade.bound = none ∧
          r.answer = if how = .rollback then .ok () else .error (.rejected (.neverEnded x))) := by
  cases h with
  | resolved _ havailable | tolerated _ havailable | unknown _ havailable
  | premature _ havailable | givenUp _ havailable | forgotten _ havailable =>
    cases hoffline.symm.trans havailable
  | unreached hother =>
    exact ⟨fun _ => ⟨⟨_, rfl, .inl rfl⟩, rfl⟩, fun hdrops => absurd hdrops.1 hother⟩
  | deserted hbound =>
    exact ⟨fun _ => ⟨⟨_, rfl, .inl rfl⟩, rfl⟩, fun hdrops => nomatch hdrops.2⟩
  -- The manager is not asked here, so the outage makes no difference.
  | lost hbound | dropped hbound =>
    have hactive := (hsound x hbound).2
    rw [ResourceManager.abandon_of_active hactive]
    exact ⟨fun hnot => absurd ⟨hbound, rfl⟩ hnot, fun _ => ⟨hactive, rfl, rfl, rfl⟩⟩

end Session

namespace Deployment

/-- After every run of any number of sessions and providers over one manager, and while the
manager cannot be reached: a call on a branch fails and changes nothing in the manager,
whichever session it is made on, with one exception.  A session that is to commit or roll back
the branch that it is still bound to drops the unended work, as it would if it were closed, so
the branch is rolled back; the rollback then succeeds, and the commit does not. -/
theorem outage_run (ms : List (Move Config Bool)) (manager : ResourceManager) :
    let b := ResourceManager.backend
    let act := fun available (m : ResourceManager) => m.setAvailable available
    let D := run b act ms { world := manager }
    let m := D.world
    m.available = false → ∀ s ∈ D.held, s.isOpen = true → ∀ op, op.isBranchCall = true →
      let r := b.perform op s m
      ((¬∃ x, s.DropsWork op x) → Session.Fruitless m r) ∧
        ∀ x, s.DropsWork op x →
          m.phase? x = some .active ∧ r.world = m.resolve x .rolledBack ∧ r.facade.bound = none ∧
            (op = .finish .rollback x → r.answer = .ok ()) ∧
            ∀ ignoreUnknown, op = .finish (.commit ignoreUnknown) x →
              r.answer = .error (.rejected (.neverEnded x)) := by
  intro b act D m hoffline s hs hopen op hop r
  have hsound : s.Sound m := (harmony_run ms manager).sound s hs
  -- the other calls on a branch cannot drop work, so they only have to be fruitless
  cases op with
  | start x =>
    exact ⟨fun _ => Session.start_offline hoffline hopen x, fun y hdrops => nomatch hdrops.2⟩
  | endAndPrepare x =>
    exact ⟨fun _ => Session.endAndPrepare_offline hoffline hopen x, fun y hdrops => nomatch hdrops.2⟩
  | recover =>
    exact ⟨fun _ => Session.recover_offline hoffline hopen, fun y hdrops => nomatch hdrops.2⟩
  | finish how x =>
    have hverdict : Session.Verdict s m x how r := Session.verdict_finish hopen how x m
    obtain ⟨hfails, hdrops⟩ := hverdict.of_offline hsound hoffline
    refine ⟨fun hnot => hfails fun h => hnot ⟨x, h⟩, fun y hy => ?_⟩
    -- the call names one branch, so the work it drops is that of `x`
    have hsame : x = y := by
      obtain ⟨-, hname⟩ := hy
      cases how <;> cases hname <;> rfl
    subst hsame
    obtain ⟨hactive, hworld, hfree, hanswer⟩ := hdrops hy
    refine ⟨hactive, hworld, hfree, ?_, ?_⟩
    · rintro ⟨⟩
      exact hanswer
    · rintro ignoreUnknown ⟨⟩
      exact hanswer
  | _ => cases hop

/-- A session has prepared one branch and works on another when the manager goes away. -/
theorem outage_of_busy_session :
    let b := ResourceManager.backend
    let act := fun available (m : ResourceManager) => m.setAvailable available
    let x : Xid := ⟨1, [1], [], by decide, by decide⟩
    let y : Xid := ⟨1, [2], [], by decide, by decide⟩
    let ms : List (Move Config Bool) :=
      [.addFacade default, .callFacade 0 .openUp, .callFacade 0 (.start x),
        .callFacade 0 (.endAndPrepare x), .callFacade 0 (.start y), .environment false]
    let D := run b act ms { world := {} }
    D.world.available = false ∧ ∃ s ∈ D.held, s.isOpen = true ∧ s.bound = some y ∧
      (b.perform (.finish .rollback x) s D.world).world = D.world ∧
        (b.perform (.finish .rollback y) s D.world).world = D.world.resolve y .rolledBack := by
  intro b act x y ms D
  let s : Session := { config := default, isOpen := true, bound := some y }
  have hs : s ∈ D.held := by decide
  have hoffline : D.world.available = false := by decide
  have houtage := outage_run ms {} hoffline s hs rfl
  have hother : ¬∃ z, s.DropsWork (.finish .rollback x) z := by
    rintro ⟨z, hbound, hname⟩
    cases hname
    exact absurd hbound (by decide)
  obtain ⟨-, hworld⟩ := (houtage (.finish .rollback x) rfl).1 hother
  obtain ⟨-, hdropped, -⟩ := (houtage (.finish .rollback y) rfl).2 y ⟨rfl, rfl⟩
  exact ⟨hoffline, s, hs, rfl, rfl, hworld, hdropped⟩

/-- A rollback during an outage succeeds, and takes the branch off the live ones. -/
theorem rollback_of_outage :
    let b := ResourceManager.backend
    let act := fun available (m : ResourceManager) => m.setAvailable available
    let x : Xid := ⟨1, [], [], by decide, by decide⟩
    let ms : List (Move Config Bool) :=
      [.addFacade default, .callFacade 0 .openUp, .callFacade 0 (.start x), .environment false]
    let D := run b act ms { world := {} }
    D.world.available = false ∧ D.world.phase? x = some .active ∧
      ∃ s ∈ D.held, s.isOpen = true ∧ (b.perform (.finish .rollback x) s D.world).answer = .ok () ∧
        (b.perform (.finish .rollback x) s D.world).world.phase? x = none ∧
          (b.perform (.finish .rollback x) s D.world).world.outcomes = [(x, .rolledBack)] := by
  intro b act x ms D
  let s : Session := { config := default, isOpen := true, bound := some x }
  have hs : s ∈ D.held := by decide
  exact ⟨by decide, by decide, s, hs, rfl, by rfl, by decide, by decide⟩

end Deployment

end BranchPool
