/-
A branch belongs to one session at a time, and nobody else touches it.

* `Session.answer_endAndPrepare` — what a session may answer when it is to end a branch:
  if it is bound to the branch, the manager has it as active;
* `Session.Effect.get?_of_active` and its neighbours — a branch that is active for another
  session is left as it is by a call, and no call that names it succeeds;
* `Deployment.exclusion_run` — so it is with all sessions that are held after any run.
-/
import BranchPool.Proofs.ResourceManager.Sharing

namespace BranchPool

open Facade

namespace ResourceManager

variable {m : ResourceManager} {x : Xid}

theorem prepare?_of_active (h : m.phase? x = some .active) :
    (∃ m', m.prepare? x = .ok m') ∨ m.prepare? x = .error unreachable := by
  rw [phase?, Option.map_eq_some_iff] at h
  obtain ⟨⟨_, timeout⟩, hget, rfl⟩ := h
  rw [prepare?, hget]
  cases m.available with
  | true => exact .inl ⟨_, rfl⟩
  | false => exact .inr rfl

end ResourceManager

/-! ### One call -/

namespace Session

variable {s s' : Session} {m m' : ResourceManager} {op : Operation} {ok : Bool} {x : Xid}

/-- A session that is to end a branch does so, or it is closed, or not bound to the
branch, or the manager cannot be reached. -/
theorem answer_endAndPrepare (h : s.Sound m) (x : Xid) :
    (s.endAndPrepare x m).answer = .ok () ∨ (s.endAndPrepare x m).answer = .error .closed ∨
      (s.endAndPrepare x m).answer = .error (.rejected (.notBound x)) ∨
        (s.endAndPrepare x m).answer = .error ResourceManager.unreachable := by
  rw [endAndPrepare, whenOpen]
  split
  swap
  · exact .inr (.inl rfl)
  split
  swap
  · exact .inr (.inr (.inl rfl))
  rename_i hbound
  obtain ⟨m', hprepare⟩ | hprepare := ResourceManager.prepare?_of_active (h x hbound).2
  · rw [hprepare]
    exact .inl rfl
  · rw [hprepare]
    exact .inr (.inr (.inr rfl))

namespace Effect

/-- A call leaves the branch of another session as it is. -/
theorem get?_of_active (heffect : Effect s m op ok s' m') (hother : s.bound ≠ some x)
    (hx : m.phase? x = some .active) : m'.branches.get? x = m.branches.get? x := by
  cases heffect with
  | stay hquiet hbound hbranches houtcomes => rw [hbranches]
  | @start y s' hopen hfree hphase hbound =>
    have hne : x ≠ y := by
      rintro rfl
      rw [hx] at hphase
      cases hphase
    exact (BranchMap.get?_insert ..).trans (if_neg hne)
  | @prepare y timeout s' hbranch hbusy hfree =>
    have hne : x ≠ y := by
      rintro rfl
      exact hother hbusy
    exact (BranchMap.get?_update ..).trans (if_neg hne)
  | @resolve how y s' hfree hphase hbound =>
    -- what is finished without being bound was prepared
    have hne : x ≠ y := by
      rintro rfl
      rw [hx] at hphase
      cases hphase
    exact (BranchMap.get?_erase ..).trans (if_neg hne)
  | @discard op ok y s' hop hbusy hfree =>
    have hne : x ≠ y := by
      rintro rfl
      exact hother hbusy
    exact (BranchMap.get?_erase ..).trans (if_neg hne)
  | desert hbusy hfree => rfl

/-- A call gives no outcome to the branch of another session. -/
theorem outcomes_of_active (heffect : Effect s m op ok s' m') (hother : s.bound ≠ some x)
    (hx : m.phase? x = some .active) :
    m'.outcomes.filter (·.1 = x) = m.outcomes.filter (·.1 = x) := by
  cases heffect with
  | stay hquiet hbound hbranches houtcomes => rw [houtcomes]
  | start hopen hfree hphase hbound => rfl
  | prepare hbranch hbusy hfree => rfl
  -- `y` is prepared, and `x` is active
  | @resolve how y s' hfree hphase hbound =>
    have hne : y ≠ x := by
      rintro rfl
      rw [hx] at hphase
      cases hphase
    simp [ResourceManager.resolve, hne]
  | @discard op ok y s' hop hbusy hfree =>
    -- `y` is bound here, and `x` elsewhere
    have hne : y ≠ x := by
      rintro rfl
      exact hother hbusy
    simp [ResourceManager.resolve, hne]
  | desert hbusy hfree => rfl

/-- No call that names the branch of another session succeeds. -/
theorem fails_of_active (heffect : Effect s m op ok s' m') (hother : s.bound ≠ some x)
    (hx : m.phase? x = some .active) (hop : op.branch? = some x) : ok = false := by
  -- every effect that succeeds on a branch needs it bound here or not active
  cases heffect with
  | stay hquiet hbound hbranches houtcomes =>
    cases op with
    | start y => exact hquiet
    | endAndPrepare y => exact hquiet
    | finish how y =>
      cases hop
      refine Bool.eq_false_iff.mpr fun hok => ?_
      rw [hquiet.2 hok] at hx
      cases hx
    | _ => cases hop
  | start hopen hfree hphase hbound =>
    cases hop
    rw [hx] at hphase
    cases hphase
  | prepare hbranch hbusy hfree =>
    cases hop
    exact absurd hbusy hother
  | resolve hfree hphase hbound =>
    cases hop
    rw [hx] at hphase
    cases hphase
  | discard hdiscard hbusy hfree =>
    obtain rfl | ⟨how, rfl⟩ := hdiscard
    · cases hop
    · cases hop
      exact absurd hbusy hother
  | desert hbusy hfree => rfl

end Effect

end Session

/-! ### Runs -/

theorem Harmony.index_eq {H : List Session} {m : ResourceManager} (h : Harmony H m) {i j : Nat}
    {s t : Session} {x : Xid} (hs : H[i]? = some s) (ht : H[j]? = some t) (hx : s.bound = some x)
    (hx' : t.bound = some x) : i = j := by
  obtain ⟨hi, rfl⟩ := List.getElem?_eq_some_iff.mp hs
  obtain ⟨hj, rfl⟩ := List.getElem?_eq_some_iff.mp ht
  have hapart := List.pairwise_iff_getElem.mp h.apart
  rcases Nat.lt_trichotomy i j with hlt | heq | hlt
  · exact absurd hx' (hapart i j hi hj hlt x hx)
  · exact heq
  · exact absurd hx (hapart j i hj hi hlt x hx')

namespace Deployment

theorem harmony_run (ms : List (Move Config Bool)) (manager : ResourceManager) :
    let act := fun available (m : ResourceManager) => m.setAvailable available
    let D := run ResourceManager.backend act ms { world := manager }
    Harmony D.held D.world :=
  held_induction (I := fun s => Harmony s.1 s.2) (fun _ _ hhandling h => h.handling hhandling)
    (fun available _ _ h => h.setAvailable available) ms (.nil manager)

/-- After every run of any number of sessions and providers over one manager, whatever the
manager held before: a closed session is bound to no branch, a branch that a session is bound
to is active, and no two sessions are bound to the same one.  So the end of a branch is never
refused because the branch is unknown or was prepared before; and whatever is asked of one
session, a branch that another one is bound to stays as it is and gets no outcome, and a call
that names it fails. -/
theorem exclusion_run (ms : List (Move Config Bool)) (manager : ResourceManager) :
    let b := ResourceManager.backend
    let act := fun available (m : ResourceManager) => m.setAvailable available
    let D := run b act ms { world := manager }
    let m := D.world
    (∀ s ∈ D.held, (s.isOpen = false → s.bound = none) ∧
        ∀ x, s.bound = some x → m.phase? x = some .active) ∧
      (∀ (i j : Nat) s t x, D.held[i]? = some s → D.held[j]? = some t →
        s.bound = some x → t.bound = some x → i = j) ∧
      ∀ (i : Nat) s op, D.held[i]? = some s →
        let r := b.perform op s m
        (∀ x y, op = .endAndPrepare x → r.answer ≠ .error (.unknownBranch y) ∧
          r.answer ≠ .error (.rejected (.alreadyPrepared y))) ∧
        ∀ (j : Nat) t x, j ≠ i → D.held[j]? = some t → t.bound = some x →
          r.world.branches.get? x = m.branches.get? x ∧
            r.world.outcomes.filter (·.1 = x) = m.outcomes.filter (·.1 = x) ∧
              (op.branch? = some x → r.answer.isOk = false) := by
  intro b act D m
  have hharmony : Harmony D.held m := harmony_run ms manager
  refine ⟨fun s hs => ⟨fun hclosed => ?_, fun x hx => (hharmony.sound s hs x hx).2⟩, ?_, ?_⟩
  · exact (hharmony.sound s hs).bound_eq_none (by simp [hclosed])
  · exact fun i j s t x hs ht hx hx' => hharmony.index_eq hs ht hx hx'
  intro i s op hs r
  have hsound : s.Sound m := hharmony.sound s (List.mem_of_getElem? hs)
  constructor
  · rintro x y rfl
    obtain hanswer | hanswer | hanswer | hanswer := Session.answer_endAndPrepare hsound x <;>
      simp [r, b, Backend.perform, ResourceManager.backend, hanswer, ResourceManager.unreachable]
  · intro j t x hji ht hx
    have hactive : m.phase? x = some .active :=
      (hharmony.sound t (List.mem_of_getElem? ht) x hx).2
    -- two sessions bound to one branch would be one session
    have hother : s.bound ≠ some x := fun hbound => hji (hharmony.index_eq ht hs hx hbound)
    have heffect := Session.effect_perform op hsound
    exact ⟨heffect.get?_of_active hother hactive, heffect.outcomes_of_active hother hactive,
      heffect.fails_of_active hother hactive⟩

/-- Of two sessions, one is bound to a branch, and the other is asked to give up on it. -/
theorem exclusion_of_two_sessions :
    let b := ResourceManager.backend
    let act := fun available (m : ResourceManager) => m.setAvailable available
    let x : Xid := ⟨1, [], [], by decide, by decide⟩
    let ms : List (Move Config Bool) :=
      [.addFacade default, .addFacade default, .callFacade 0 .openUp, .callFacade 1 .openUp,
        .callFacade 0 (.start x)]
    let D := run b act ms { world := {} }
    ∃ s t, D.held[1]? = some s ∧ D.held[0]? = some t ∧ t.bound = some x ∧
      (b.perform (.finish .failAndRollback x) s D.world).answer.isOk = false ∧
        (b.perform (.finish .failAndRollback x) s D.world).world.phase? x = some .active := by
  intro b act x ms D
  let s : Session := { config := default, isOpen := true }
  let t : Session := { config := default, isOpen := true, bound := some x }
  have hs : D.held[1]? = some s := by decide
  have ht : D.held[0]? = some t := by decide
  obtain ⟨-, -, hcalls⟩ := exclusion_run ms {}
  obtain ⟨hsame, -, hfails⟩ :=
    (hcalls 1 s (.finish .failAndRollback x) hs).2 0 t x (by decide) ht rfl
  refine ⟨s, t, hs, ht, rfl, hfails rfl, ?_⟩
  rw [ResourceManager.phase?, hsame]
  decide

end Deployment

end BranchPool
