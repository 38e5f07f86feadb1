/-
What a call on a session does to the branches of its manager.

* `Session.Sound` — a session that is bound to a branch is open, and the branch
  is active;
* `Session.Effect` — the few things that a call may do: nothing, begin or
  prepare a branch, finish one that is prepared, or give up the bound one;
* `Session.effect_perform` — every call on a sound session does one of them.

Design note: this is where the calls on a session are taken apart, those that
finish a branch by their verdicts.  The lemmas on the prepared and the active
branches that follow look at the effects only.
-/
import BranchPool.Proofs.ResourceManager.Frame

namespace BranchPool

open Facade

namespace Session

/-- Whether a session works on a branch only while it is open and the branch is
active. -/
def Sound (s : Session) (m : ResourceManager) : Prop :=
  ∀ x, s.bound = some x → s.isOpen = true ∧ m.phase? x = some .active

/-- Whether a call with such an answer has no effect on any branch. -/
def Quiet (s : Session) (m : ResourceManager) : Operation → Bool → Prop
  | .close, _ => s.bound = none
  | .start _, ok => ok = false
  | .endAndPrepare _, ok => ok = false
  | .finish _ x, ok => s.bound ≠ some x ∧ (ok = true → m.phase? x = none)
  | _, _ => True

/-- What a call may do to a session and its manager. -/
inductive Effect (s : Session) (m : ResourceManager) :
    Operation → Bool → Session → ResourceManager → Prop where
  | stay {op ok s' m'} (hquiet : Quiet s m op ok) (hbound : s'.bound = s.bound)
    (hbranches : m'.branches = m.branches) (houtcomes : m'.outcomes = m.outcomes) :
    Effect s m op ok s' m'
  | start {x s'} (hopen : s.isOpen = true) (hfree : s.bound = none) (hphase : m.phase? x = none)
    (hbound : s'.bound = some x) :
    Effect s m (.start x) true s'
      { m with branches := m.branches.insert x ⟨.active, s.config.timeout⟩ }
  | prepare {x timeout s'} (hbranch : m.branches.get? x = some ⟨.active, timeout⟩)
    (hbusy : s.bound = some x) (hfree : s'.bound = none) :
    Effect s m (.endAndPrepare x) true s'
      { m with branches := m.branches.update x ⟨.prepared, timeout⟩ }
  | resolve {how x s'} (hother : s.bound ≠ some x) (hphase : m.phase? x = some .prepared)
    (hbound : s'.bound = s.bound) :
    Effect s m (.finish how x) true s' (m.resolve x how.outcome)
  /-- The bound branch is rolled back, whatever was asked for. -/
  | discard {op ok x s'} (hop : op = .close ∨ ∃ how, op = .finish how x) (hbusy : s.bound = some x)
    (hfree : s'.bound = none) :
    Effect s m op ok s' (m.resolve x .rolledBack)
  /-- The bound branch is left alone, as the manager cannot be reached. -/
  | desert {x s'} (hbusy : s.bound = some x) (hfree : s'.bound = none) :
    Effect s m (.finish .failAndRollback x) false s' m

variable {s : Session} {m : ResourceManager} {α : Type}

theorem Effect.same {op : Operation} {ok : Bool} (hquiet : Quiet s m op ok) :
    Effect s m op ok s m :=
  .stay hquiet rfl rfl rfl

/-- A session that is not bound to a branch in its manager closed. -/
theorem Sound.bound_eq_none (h : s.Sound m) (hopen : ¬s.isOpen = true) : s.bound = none := by
  cases hbound : s.bound with
  | none => rfl
  | some x => exact absurd (h x hbound).1 hopen

/-! ### The calls -/

theorem effect_openUp (s : Session) (m : ResourceManager) :
    Effect s m .openUp (s.openUp m).answer.isOk (s.openUp m).facade (s.openUp m).world := by
  rw [openUp]
  split
  · exact .same trivial
  · cases hconnect : m.connect? with
    | error e => exact .same trivial
    | ok m' =>
      cases ResourceManager.connect?_eq_ok hconnect
      exact .stay trivial rfl rfl rfl

theorem effect_close (h : s.Sound m) :
    Effect s m .close (s.close m).answer.isOk (s.close m).facade (s.close m).world := by
  cases hbound : s.bound with
  | none =>
    simp only [close, hbound]
    exact .stay hbound hbound.symm rfl rfl
  | some x =>
    simp only [close, hbound, ResourceManager.abandon_of_active (h x hbound).2]
    exact .discard (.inl rfl) hbound rfl

theorem effect_start (x : Xid) (s : Session) (m : ResourceManager) :
    Effect s m (.start x) (s.start x m).answer.isOk (s.start x m).facade (s.start x m).world := by
  rw [start, whenOpen]
  split
  swap
  · exact .same rfl
  rename_i hopen
  -- a bound session refuses by itself, and a free one leaves it to the manager
  cases hbound : s.bound with
  | some y => exact .same rfl
  | none =>
    dsimp only
    cases hbegin : m.begin? x s.config.timeout with
    | error e => exact .same rfl
    | ok m' =>
      obtain ⟨hphase, rfl⟩ := ResourceManager.begin?_eq_ok hbegin
      exact .start hopen hbound hphase rfl

theorem effect_endAndPrepare (x : Xid) (s : Session) (m : ResourceManager) :
    Effect s m (.endAndPrepare x) (s.endAndPrepare x m).answer.isOk (s.endAndPrepare x m).facade
      (s.endAndPrepare x m).world := by
  rw [endAndPrepare, whenOpen]
  split
  swap
  · exact .same rfl
  split
  swap
  · exact .same rfl
  rename_i hbound
  cases hprepare : m.prepare? x with
  | error e => exact .same rfl
  | ok m' =>
    obtain ⟨timeout, hbranch, rfl⟩ := ResourceManager.prepare?_eq_ok hprepare
    exact .prepare hbranch hbound rfl

/-- A verdict as an effect, if the branch that a session is bound to is active. -/
theorem Verdict.effect {how : Finish} {x : Xid} {r : Session.Reply Unit}
    (hverdict : Verdict s m x how r) (h : s.Sound m) :
    Effect s m (.finish how x) r.answer.isOk r.facade r.world := by
  -- the five verdicts without a binding first, then those on the bound branch, known to be active
  cases hverdict with
  | resolved hother _ hphase => exact .resolve hother hphase rfl
  | tolerated hother _ hphase => exact .same ⟨hother, fun _ => hphase⟩
  | unknown hother => exact .same ⟨hother, nofun⟩
  | premature hother => exact .same ⟨hother, nofun⟩
  | unreached hother => exact .same ⟨hother, nofun⟩
  | lost hbound =>
    rw [ResourceManager.abandon_of_active (h x hbound).2]
    exact .discard (.inr ⟨_, rfl⟩) hbound rfl
  | dropped hbound =>
    rw [ResourceManager.abandon_of_active (h x hbound).2]
    exact .discard (.inr ⟨_, rfl⟩) hbound rfl
  | givenUp hbound => exact .discard (.inr ⟨_, rfl⟩) hbound rfl
  | forgotten hbound _ hnone => cases (h x hbound).2.symm.trans hnone
  | deserted hbound => exact .desert hbound rfl

theorem effect_finish (h : s.Sound m) (how : Finish) (x : Xid) :
    Effect s m (.finish how x) (s.finish how x m).answer.isOk (s.finish how x m).facade
      (s.finish how x m).world := by
  by_cases hopen : s.isOpen = true
  · exact (verdict_finish hopen how x m).effect h
  · rw [finish_closed hopen]
    exact .same ⟨by simp [h.bound_eq_none hopen], nofun⟩

theorem effect_useData (use : DataUse) (s : Session) (m : ResourceManager) :
    let r := ResourceManager.backend.perform (.useData use) s m
    Effect s m (.useData use) r.answer.isOk r.facade r.world := by
  -- no use of a link touches branches or binding; the two that may grant one are unfolded
  cases use with
  | establish =>
    simp only [Backend.perform, ResourceManager.backend, establish_eq, reestablish, whenOpen]
    split
    · cases s.link <;> exact .stay trivial rfl rfl rfl
    · exact .same trivial
  | reestablish =>
    simp only [Backend.perform, ResourceManager.backend, reestablish, whenOpen]
    split <;> exact .stay trivial rfl rfl rfl
  | _ => exact .stay trivial rfl rfl rfl

/-- Every call on a sound session has one of the effects. -/
theorem effect_perform (op : Operation) (h : s.Sound m) :
    let r := ResourceManager.backend.perform op s m
    Effect s m op r.answer.isOk r.facade r.world := by
  cases op with
  | openUp => exact effect_openUp s m
  | close => exact effect_close h
  | start x => exact effect_start x s m
  | endAndPrepare x => exact effect_endAndPrepare x s m
  | finish how x => exact effect_finish h how x
  | recover =>
    simp only [Backend.perform, ResourceManager.backend, recover, whenOpen]
    split <;> exact .stay trivial rfl rfl rfl
  | useData use => exact effect_useData use s m

/-! ### The branches afterwards -/

namespace Effect

variable {op : Operation} {ok : Bool} {s' : Session} {m' : ResourceManager} {y : Xid}

/-- A branch is prepared after a call if the call prepared it, or if it was
prepared before and the call did not finish it. -/
theorem prepared_iff (h : s.Sound m) (heffect : Effect s m op ok s' m') (y : Xid) :
    m'.phase? y = some .prepared ↔
      op = .endAndPrepare y ∧ ok = true ∨
        m.phase? y = some .prepared ∧ ¬∃ how, op = .finish how y ∧ ok = true := by
  cases heffect with
  | stay hquiet hbound hbranches houtcomes =>
    rw [ResourceManager.phase?_congr hbranches]
    constructor
    · intro hy
      refine .inr ⟨hy, ?_⟩
      rintro ⟨how, rfl, rfl⟩
      have hnone := hquiet.2 rfl
      rw [hy] at hnone
      cases hnone
    · rintro (⟨rfl, hok⟩ | ⟨hy, -⟩)
      · exact absurd (hquiet.symm.trans hok) Bool.false_ne_true
      · exact hy
  | @start x _ hopen hfree hphase hbound =>
    rw [ResourceManager.phase?_insert]
    by_cases hyx : y = x
    · subst hyx
      simp [hphase]
    · simp [hyx]
  | @prepare x timeout _ hbranch hbusy hfree =>
    rw [ResourceManager.phase?_update hbranch]
    by_cases hyx : y = x
    · simp [hyx]
    · simp [hyx, Ne.symm hyx]
  | @resolve how x _ hother hphase hbound =>
    rw [ResourceManager.phase?_resolve]
    by_cases hyx : y = x
    · simp [hyx]
    · simp [hyx, Ne.symm hyx]
  | @discard _ _ x _ hop hbusy hfree =>
    rw [ResourceManager.phase?_resolve]
    -- what is discarded was active, and so has not been prepared
    by_cases hyx : y = x
    · subst hyx
      obtain rfl | ⟨how, rfl⟩ := hop <;> simp [(h y hbusy).2]
    · obtain rfl | ⟨how, rfl⟩ := hop <;> simp [hyx, Ne.symm hyx]
  | desert hbusy hfree => simp

/-- A call on one session leaves the work of all others alone. -/
theorem active_of_active (heffect : Effect s m op ok s' m') (hother : s.bound ≠ some y)
    (hy : m.phase? y = some .active) : m'.phase? y = some .active := by
  cases heffect with
  | stay hquiet hbound hbranches houtcomes => rwa [ResourceManager.phase?_congr hbranches]
  | start hopen hfree hphase hbound =>
    rw [ResourceManager.phase?_insert]
    split
    · rfl
    · exact hy
  | prepare hbranch hbusy hfree =>
    rw [ResourceManager.phase?_update hbranch, if_neg ?_]
    · exact hy
    · rintro rfl
      exact hother hbusy
  | resolve hother hphase hbound =>
    -- only a prepared branch is finished by a session that is not bound to it
    rw [ResourceManager.phase?_resolve, if_neg ?_]
    · exact hy
    · rintro rfl
      rw [hy] at hphase
      cases hphase
  | discard hop hbusy hfree =>
    rw [ResourceManager.phase?_resolve, if_neg ?_]
    · exact hy
    · rintro rfl
      exact hother hbusy
  | desert hbusy hfree => exact hy

/-- A session that is bound after a call was open.  It was bound to that branch
before, or the branch was not live. -/
theorem bound_eq_some (h : s.Sound m) (heffect : Effect s m op ok s' m')
    (hy : s'.bound = some y) :
    s.isOpen = true ∧ m'.phase? y = some .active ∧ (s.bound = some y ∨ m.phase? y = none) := by
  -- a binding afterwards is the old one, or the branch that was just started
  cases heffect with
  | stay hquiet hbound hbranches houtcomes =>
    rw [hbound] at hy
    rw [ResourceManager.phase?_congr hbranches]
    exact ⟨(h y hy).1, (h y hy).2, .inl hy⟩
  | start hopen hfree hphase hbound =>
    obtain rfl : _ = y := Option.some_inj.mp (hbound.symm.trans hy)
    rw [ResourceManager.phase?_insert, if_pos rfl]
    exact ⟨hopen, rfl, .inr hphase⟩
  | resolve hother hphase hbound =>
    rw [hbound] at hy
    rw [ResourceManager.phase?_resolve, if_neg ?_]
    · exact ⟨(h y hy).1, (h y hy).2, .inl hy⟩
    · rintro rfl
      exact hother hy
  | prepare hbranch hbusy hfree => rw [hfree] at hy; cases hy
  | discard hop hbusy hfree => rw [hfree] at hy; cases hy
  | desert hbusy hfree => rw [hfree] at hy; cases hy

/-! ### One operation after the other -/

/-- A call that names no branch leaves all branches alone. -/
theorem still (heffect : Effect s m op ok s' m') (hop : op.branch? = none) (hclose : op ≠ .close) :
    s'.bound = s.bound ∧ m'.branches = m.branches := by
  cases heffect with
  | stay hquiet hbound hbranches houtcomes => exact ⟨hbound, hbranches⟩
  | discard hdiscard =>
    obtain rfl | ⟨how, rfl⟩ := hdiscard
    · exact absurd rfl hclose
    · cases hop
  | _ => cases hop

theorem of_start {x : Xid} (heffect : Effect s m (.start x) ok s' m') :
    if ok then s'.bound = some x ∧ m'.phase? x = some .active else s'.bound = s.bound := by
  cases heffect with
  | stay hquiet hbound hbranches houtcomes =>
    rwa [if_neg (Bool.eq_false_iff.mp hquiet)]
  | start hopen hfree hphase hbound =>
    rw [if_pos rfl, ResourceManager.phase?_insert, if_pos rfl]
    exact ⟨hbound, rfl⟩
  | discard hop => simp at hop

theorem of_endAndPrepare {x : Xid} (heffect : Effect s m (.endAndPrepare x) ok s' m') :
    if ok then s'.bound = none ∧ m'.phase? x = some .prepared
    else s'.bound = s.bound ∧ m'.phase? x = m.phase? x := by
  cases heffect with
  | stay hquiet hbound hbranches houtcomes =>
    rw [if_neg (Bool.eq_false_iff.mp hquiet)]
    exact ⟨hbound, ResourceManager.phase?_congr hbranches x⟩
  | prepare hbranch hbusy hfree =>
    rw [if_pos rfl, ResourceManager.phase?_update hbranch, if_pos rfl]
    exact ⟨hfree, rfl⟩
  | discard hop => simp at hop

/-- A session that finishes a branch is free afterwards, unless it is bound to
another one. -/
theorem of_finish {how : Finish} {x : Xid} (heffect : Effect s m (.finish how x) ok s' m')
    (hbound : s.bound = none ∨ s.bound = some x) : s'.bound = none := by
  cases heffect with
  | stay hquiet hsame => exact hsame.trans (hbound.resolve_right hquiet.1)
  | resolve hother hphase hsame => exact hsame.trans (hbound.resolve_right hother)
  | discard hop hbusy hfree => exact hfree
  | desert hbusy hfree => exact hfree

end Effect

theorem Sound.perform (h : s.Sound m) (op : Operation) :
    let r := ResourceManager.backend.perform op s m
    r.facade.Sound r.world := by
  intro r y hy
  obtain ⟨hopen, hactive, -⟩ := (effect_perform op h).bound_eq_some h hy
  refine ⟨isOpen_perform hopen ?_, hactive⟩
  rintro rfl
  cases hy

end Session

end BranchPool
