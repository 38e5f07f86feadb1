/-
A provider is lost, and another one finishes what it left behind.

The new provider is read back from a snapshot of the lost one.  It knows no branch, so it
asks the manager which ones are prepared, and finishes each through a session that is bound
to none.

* `Remain` — of a history on a manager with earlier branches, which branches are left
  prepared; `Remain.step` keeps this call by call;
* `ResourceManager.resolveAll` — a manager after several prepared branches were finished;
* `Provider.recover_fresh`, `Provider.run_plan` — a provider without facades lists the
  prepared branches, and then finishes them, in any way and any order, through the one
  session that this takes;
* `Provider.recovery_run` — so recovery succeeds after every run, wherever it broke off.
-/
import BranchPool.Proofs.Provider.Transcript
import BranchPool.Proofs.ResourceManager.Completion
import BranchPool.Proofs.ResourceManager.Retry
import BranchPool.Proofs.Snapshot

namespace BranchPool

open Facade

/-! ### What a run leaves prepared -/

namespace History

/-- Whether some call finished a branch. -/
def Finished (h : History) (x : Xid) : Prop :=
  ∃ e ∈ h, (∃ how, e.operation = .finish how x) ∧ e.answer.isOk = true

theorem not_finished_nil (x : Xid) : ¬Finished [] x := by
  rintro ⟨e, he, -⟩
  cases he

theorem finished_cons (e : Event) (h : History) (x : Xid) :
    Finished (e :: h) x ↔
      (∃ how, e.operation = .finish how x ∧ e.answer.isOk = true) ∨ h.Finished x := by
  simp only [Finished, List.mem_cons, exists_eq_or_imp, ← exists_and_right]

end History

/-- Whether the prepared branches are those that wait to be finished, and those that were
prepared at the start and have not been finished. -/
def Remain (initial : ResourceManager) (w : Trace ResourceManager Session) : Prop :=
  ∀ x, w.world.phase? x = some .prepared ↔
    w.events.Awaiting x ∨ initial.phase? x = some .prepared ∧ ¬w.events.Finished x

namespace Remain

variable {initial : ResourceManager} {w w' : Trace ResourceManager Session}

theorem start (initial : ResourceManager) : Remain initial { world := initial } := by
  intro x
  simp [History.not_awaiting_nil, History.not_finished_nil]

theorem step (hstep : Trace.Step ResourceManager.backend w w') (hconcord : Concord w)
    (h : Remain initial w) : Remain initial w' := by
  cases hstep with
  | made hmake =>
    cases hmake
    exact h
  | notMade hmake => cases hmake
  | @called op i s w hs =>
    intro x
    have hsound : s.Sound w.world := hconcord.sound i s hs
    have heffect := Session.effect_perform op hsound
    simp only [Trace.observe, map_unit]
    -- what finishes a branch takes it from both parts, what prepares one adds it to the first
    rw [heffect.prepared_iff hsound x, h x, History.awaiting_cons, History.finished_cons]
    rw [or_and_right, or_assoc, not_or, and_assoc, and_comm (a := ¬w.events.Finished x)]

end Remain

/-! ### Several branches finished -/

namespace ResourceManager

variable {m : ResourceManager} {x : Xid}

/-- The manager after a connection was opened. -/
def connected (m : ResourceManager) : ResourceManager :=
  { m with connectionsOpened := m.connectionsOpened + 1 }

theorem outcome?_resolve_of_ne {y : Xid} (hy : y ≠ x) (m : ResourceManager) (outcome : Outcome) :
    (m.resolve x outcome).outcome? y = m.outcome? y := by
  simp [outcome?, resolve, Ne.symm hy]

theorem nodup_prepared (m : ResourceManager) : m.prepared.Nodup := by
  refine m.pairwise_prepared.imp ?_
  rintro x _ hlt rfl
  exact Xid.lt_irrefl x hlt

/-- The manager after branches were finished, one after the other. -/
def resolveAll (m : ResourceManager) (plan : List (Finish × Xid)) : ResourceManager :=
  plan.foldl (fun m e => m.resolve e.2 e.1.outcome) m

theorem phase?_resolveAll (m : ResourceManager) (plan : List (Finish × Xid)) (x : Xid) :
    (m.resolveAll plan).phase? x = if x ∈ plan.map Prod.snd then none else m.phase? x := by
  induction plan generalizing m with
  | nil => rfl
  | cons e plan ih =>
    show (resolveAll (m.resolve e.2 e.1.outcome) plan).phase? x = _
    rw [ih, phase?_resolve, List.map_cons]
    by_cases hplan : x ∈ plan.map Prod.snd
    · rw [if_pos hplan, if_pos (List.mem_cons_of_mem _ hplan)]
    · by_cases he : x = e.2 <;> simp [hplan, he]

theorem outcome?_resolveAll_of_not_mem (m : ResourceManager) {plan : List (Finish × Xid)}
    (hx : x ∉ plan.map Prod.snd) : (m.resolveAll plan).outcome? x = m.outcome? x := by
  induction plan generalizing m with
  | nil => rfl
  | cons e plan ih =>
    rw [List.map_cons, List.mem_cons, not_or] at hx
    exact (ih _ hx.2).trans (outcome?_resolve_of_ne hx.1 m e.1.outcome)

/-- If a plan finishes all prepared branches, none is left. -/
theorem prepared_resolveAll (m : ResourceManager) {plan : List (Finish × Xid)}
    (hplan : ∀ x ∈ m.prepared, x ∈ plan.map Prod.snd) : (m.resolveAll plan).prepared = [] := by
  refine List.eq_nil_iff_forall_not_mem.mpr fun x hx => ?_
  rw [mem_prepared, phase?_resolveAll] at hx
  split at hx
  · cases hx
  · next hnot => exact hnot (hplan x (mem_prepared.mpr hx))

/-- Each branch has the outcome that was chosen for it. -/
theorem outcome?_resolveAll (m : ResourceManager) {plan : List (Finish × Xid)}
    (hnodup : (plan.map Prod.snd).Nodup) {e : Finish × Xid} (he : e ∈ plan) :
    (m.resolveAll plan).outcome? e.2 = some e.1.outcome := by
  induction plan generalizing m with
  | nil => cases he
  | cons e' plan ih =>
    obtain ⟨hnot, hnodup⟩ := List.nodup_cons.mp hnodup
    rcases List.mem_cons.mp he with rfl | he
    · exact (outcome?_resolveAll_of_not_mem _ hnot).trans (outcome?_resolve_self m e.2 e.1.outcome)
    · exact ih _ hnodup he

end ResourceManager

/-! ### A provider with one session -/

namespace Provider

/-- A provider whose only facade is idle. -/
def single {γ φ : Type} (factory : γ) (f : φ) (tally : Tally) : Provider γ φ :=
  ⟨factory, some { idle := [f] }, tally⟩

theorem finish_single {γ σ φ κ : Type} {b : Backend γ σ φ κ} {how : Finish} {x : Xid} {f : φ}
    {w w' : σ} (hcall : b.finish how x f w = ⟨.ok (), f, w'⟩) (factory : γ) (tally : Tally) :
    (single factory f tally).finish b how x w =
      ⟨.ok (), single factory f (addFinished how tally.addUnmapped), w'⟩ := by
  have hended : ¬(needsEnded how = true ∧ (none : Option Xid) = some x) := fun h => nomatch h.2
  simp only [finish, single, if_neg hended, Pool.unbind?, BranchMap.get?_empty, Option.map_none,
    peekIdle_andThen, takeIdle, hcall]
  rfl

/-- A provider without facades makes one to list the prepared branches. -/
theorem recover_single {γ σ φ κ : Type} {b : Backend γ σ φ κ} {factory : γ} {f : φ} {w w' : σ}
    {xs : List Xid} (hmake : makeFacade b factory w = (.ok f, w'))
    (hcall : b.recover f w' = ⟨.ok xs, f, w'⟩) (tally : Tally) :
    recover b ⟨factory, some {}, tally⟩ w =
      ⟨.ok xs, single factory f tally.addCreated.addRecovery, w'⟩ := by
  simp only [recover, peekIdle_andThen, takeIdle, hmake, hcall]
  rfl

theorem recover_attached {ws : Fleet ResourceManager} {site : Nat} {s : Session}
    (hopen : s.isOpen = true) (havailable : (ws.get site).available = true) :
    ResourceManager.backend.fleet.recover ⟨site, s⟩ ws =
      ⟨.ok (ws.get site).prepared, ⟨site, s⟩, ws⟩ := by
  show Backend.atSite Session.recover ⟨site, s⟩ ws = _
  simp only [Backend.atSite, Session.recover_eq hopen havailable, Fleet.set_get]

/-- A provider that was just opened makes a session to list the prepared branches. -/
theorem recover_fresh (ws : Fleet ResourceManager) (site : Nat) (config : Config)
    (hsite : site < ws.length) (havailable : (ws.get site).available = true) (tally : Tally) :
    recover ResourceManager.backend.fleet ⟨⟨site, config⟩, some {}, tally⟩ ws =
      ⟨.ok (ws.get site).prepared,
        single ⟨site, config⟩ ⟨site, { config, isOpen := true }⟩ tally.addCreated.addRecovery,
        ws.set site (ws.get site).connected⟩ := by
  -- the provider has no facade yet, so one is made at its own site and takes the first connection
  have hmake : makeFacade ResourceManager.backend.fleet ⟨site, config⟩ ws =
      (.ok ⟨site, { config, isOpen := true }⟩, ws.set site (ws.get site).connected) := by
    rw [Backend.makeFacade_fleet hsite, Session.makeFacade_eq config havailable]
    rfl
  have hget : Fleet.get (ws.set site (ws.get site).connected) site = (ws.get site).connected :=
    Fleet.get_set_self hsite _
  have havailable' := (congrArg ResourceManager.available hget).trans havailable
  have hrecover := recover_attached (s := { config, isOpen := true }) rfl havailable'
  rw [hget] at hrecover
  exact recover_single hmake hrecover tally

/-- The moves that finish branches as planned. -/
def planMoves (plan : List (Finish × Xid)) : List (Move Empty) :=
  plan.map fun e => .call (.finish e.1 e.2)

/-- The counters after branches without facades of their own were finished. -/
def planTally (plan : List (Finish × Xid)) (tally : Tally) : Tally :=
  plan.foldl (fun t e => addFinished e.1 t.addUnmapped) tally

theorem counts_planTally (plan : List (Finish × Xid)) (tally : Tally) :
    (planTally plan tally).facadesCreated = tally.facadesCreated ∧
      (planTally plan tally).unmappedFinalizations =
        tally.unmappedFinalizations + plan.length := by
  induction plan generalizing tally with
  | nil => exact ⟨rfl, rfl⟩
  | cons e plan ih =>
    -- each finish of the plan is one for an unmapped branch, and creates no facade
    obtain ⟨how, x⟩ := e
    have hone : (addFinished how tally.addUnmapped).facadesCreated = tally.facadesCreated ∧
        (addFinished how tally.addUnmapped).unmappedFinalizations =
          tally.unmappedFinalizations + 1 := by
      cases how <;> exact ⟨rfl, rfl⟩
    obtain ⟨hcreated, hunmapped⟩ := ih (addFinished how tally.addUnmapped)
    refine ⟨hcreated.trans hone.1, hunmapped.trans ?_⟩
    rw [hone.2, List.length_cons]
    omega

/-- A provider with one free session finishes all prepared branches of a plan, as planned. -/
theorem run_plan (ws : Fleet ResourceManager) {site : Nat} {s : Session} (hopen : s.isOpen = true)
    (hfree : s.bound = none) (factory : Attached Config) (hsite : site < ws.length)
    (havailable : (ws.get site).available = true) {plan : List (Finish × Xid)}
    (hnodup : (plan.map Prod.snd).Nodup)
    (hprepared : ∀ e ∈ plan, (ws.get site).phase? e.2 = some .prepared) (tally : Tally) :
    let b := ResourceManager.backend.fleet
    let start : State _ _ _ := ⟨single factory ⟨site, s⟩ tally, ws⟩
    (∀ o ∈ transcript b Empty.elim (planMoves plan) start, o.answer = .ok .done) ∧
      run b Empty.elim (planMoves plan) start =
        ⟨single factory ⟨site, s⟩ (planTally plan tally),
          ws.set site ((ws.get site).resolveAll plan)⟩ := by
  intro b
  induction plan generalizing ws tally with
  | nil =>
    refine ⟨fun o ho => absurd ho List.not_mem_nil, ?_⟩
    show (⟨_, ws⟩ : State _ _ _) = ⟨_, ws.set site (ws.get site)⟩
    rw [Fleet.set_get]
    rfl
  | cons e plan ih =>
    obtain ⟨how, x⟩ := e
    obtain ⟨hnot, hnodup⟩ := List.nodup_cons.mp hnodup
    intro start
    let m := ws.get site
    -- the session is bound to no branch, so it may finish this one
    have hcall : b.finish how x ⟨site, s⟩ ws =
        ⟨.ok (), ⟨site, s⟩, ws.set site (m.resolve x how.outcome)⟩ := by
      have hfinish := Session.finish_prepared hopen (by simp [hfree] : s.bound ≠ some x) havailable
        (hprepared _ List.mem_cons_self) how
      show Backend.atSite (Session.finish how x) ⟨site, s⟩ ws = _
      simp only [Backend.atSite, hfinish]
      rfl
    have hreply := finish_single hcall factory tally
    have hget : Fleet.get (ws.set site (m.resolve x how.outcome)) site = m.resolve x how.outcome :=
      Fleet.get_set_self hsite _
    have hrest : ∀ e ∈ plan, (Fleet.get (ws.set site (m.resolve x how.outcome)) site).phase? e.2 =
        some .prepared := by
      intro e he
      have hne : e.2 ≠ x := by
        rintro rfl
        exact hnot (List.mem_map.mpr ⟨e, he, rfl⟩)
      rw [hget, ResourceManager.phase?_resolve, if_neg hne]
      exact hprepared e (List.mem_cons_of_mem _ he)
    have hmove : Move.apply b Empty.elim (.call (.finish how x)) start =
        ⟨single factory ⟨site, s⟩ (addFinished how tally.addUnmapped),
          ws.set site (m.resolve x how.outcome)⟩ := by
      simp only [Move.apply, start, Call.run, hreply]
      rfl
    obtain ⟨hanswers, hrun⟩ := ih (ws.set site (m.resolve x how.outcome))
      (by rw [List.length_set]; exact hsite) (by rw [hget]; exact havailable) hnodup hrest
      (addFinished how tally.addUnmapped)
    constructor
    · intro o ho
      rw [planMoves, List.map_cons, transcript] at ho
      rcases List.mem_cons.mp ho with rfl | ho
      · simp only [observe, start, Call.run, hreply]
        rfl
      · rw [hmove] at ho
        exact hanswers o ho
    · show run b Empty.elim (planMoves plan)
        (Move.apply b Empty.elim (.call (.finish how x)) start) = _
      rw [hmove, hrun, hget, List.set_set]
      rfl

end Provider

/-! ### Runs -/

namespace Provider

open Snapshot (sessionFactory restore)

theorem remain_run (ms : List (Move Bool)) (config : Config) (manager : ResourceManager) :
    Remain manager (run ResourceManager.backend.traced
      (Trace.lift fun available (m : ResourceManager) => m.setAvailable available) ms
      (.fresh config manager)).world :=
  (trace_induction ResourceManager.backend _ (I := fun w => Concord w ∧ Remain manager w)
    (fun _ _ hstep hw => ⟨hw.1.step hstep, hw.2.step hstep hw.1⟩)
    (fun available _ hw => ⟨hw.1.setAvailable available, hw.2⟩) ms config manager
    ⟨.start manager, .start manager⟩).2

/-- After every run of a provider over a manager, whatever the manager held before, a provider
that is read back from a snapshot of the first one, attached to the same manager and opened
while the manager is available, lists the branches that are prepared: in ascending order, those
that the first provider prepared, or that were prepared before, and that have not been finished
since.  Whichever way is chosen to finish each of them, and in whatever order, every call
succeeds, each branch has the chosen outcome, no branch is left prepared, and all is done
through one session. -/
theorem recovery_run (ms : List (Move Bool)) (config : Config) (manager : ResourceManager) :
    let b := ResourceManager.backend
    let act := fun available (m : ResourceManager) => m.setAvailable available
    let s := run b.traced (Trace.lift act) ms (.fresh config manager)
    let h := s.world.events
    let m := s.world.world.setAvailable true
    let lost := run b act ms ⟨.ofFactory config, manager⟩
    let text := Snapshot.text (Snapshot.provider sessionFactory) lost.provider
    s.untraced = lost ∧
      ∃ p, restore sessionFactory text [m] = .ok (p, [m, {}]) ∧
        let opened := (p.attach 0).openUp b.fleet [m, {}]
        let found := opened.provider.recover b.fleet opened.world
        opened.answer = .ok () ∧ found.answer = .ok m.prepared ∧ m.prepared.Pairwise (· < ·) ∧
          (∀ x, x ∈ m.prepared ↔ h.Awaiting x ∨ x ∈ manager.prepared ∧ ¬h.Finished x) ∧
          ∀ plan : List (Finish × Xid), (plan.map Prod.snd).Perm m.prepared →
            let start := ⟨found.provider, found.world⟩
            let done := run b.fleet Empty.elim (planMoves plan) start
            let m' := done.world.get 0
            (∀ o ∈ transcript b.fleet Empty.elim (planMoves plan) start, o.answer = .ok .done) ∧
              m'.prepared = [] ∧ (∀ e ∈ plan, m'.outcome? e.2 = some e.1.outcome) ∧
              done.provider.tally.facadesCreated = 1 ∧ done.provider.idleCount = 1 ∧
              done.provider.boundCount = 0 ∧
              done.provider.tally.unmappedFinalizations = m.prepared.length := by
  intro b act s h m lost text
  have huntraced : s.untraced = lost := untraced_run b act ms config manager
  have hfactory : lost.provider.factory = config := factory_run b act ms _
  have hrestore : restore (φ := Session) sessionFactory text [m] =
      .ok (.ofFactory ⟨1, lost.provider.factory⟩, [m, ({} : ResourceManager)]) :=
    Snapshot.restore_render Snapshot.sessionFactory_lossless [] [] nofun nofun _ [m]
  rw [hfactory] at hrestore
  -- restored at site 1, over an empty manager, and then attached to the old one at site 0
  refine ⟨huntraced, _, hrestore, ?_⟩
  intro opened found
  have hfound : found = ⟨.ok m.prepared,
      single ⟨0, config⟩ ⟨0, { config, isOpen := true }⟩ (Tally.addRecovery (Tally.addCreated {})),
      [m.connected, {}]⟩ :=
    recover_fresh [m, {}] 0 config Nat.zero_lt_two rfl {}
  rw [hfound]
  refine ⟨rfl, rfl, m.pairwise_prepared, fun x => ?_, fun plan hplan => ?_⟩
  · rw [ResourceManager.mem_prepared, ResourceManager.mem_prepared]
    exact remain_run ms config manager x
  -- the plan names prepared branches only, and each of them once, so every finish succeeds
  intro start done m'
  have hnodup : (plan.map Prod.snd).Nodup := hplan.nodup_iff.mpr m.nodup_prepared
  have hphase : ∀ x, x ∈ plan.map Prod.snd ↔ m.phase? x = some .prepared := fun x =>
    hplan.mem_iff.trans ResourceManager.mem_prepared
  obtain ⟨hanswers, hdone⟩ := run_plan [m.connected, {}] (s := { config, isOpen := true }) rfl rfl
    ⟨0, config⟩ Nat.zero_lt_two rfl hnodup
    (fun e he => (hphase e.2).mp (List.mem_map_of_mem he))
    (Tally.addRecovery (Tally.addCreated {}))
  have hm' : m' = m.connected.resolveAll plan := by
    show done.world.get 0 = _
    rw [show done = _ from hdone]
    rfl
  obtain ⟨hcreated, hunmapped⟩ := counts_planTally plan (Tally.addRecovery (Tally.addCreated {}))
  have hlength : plan.length = m.prepared.length := by
    rw [← hplan.length_eq, List.length_map]
  rw [hm', show done = _ from hdone]
  have hnone : (m.connected.resolveAll plan).prepared = [] :=
    m.connected.prepared_resolveAll fun x hx => hplan.mem_iff.mpr hx
  exact ⟨hanswers, hnone, fun e he => m.connected.outcome?_resolveAll hnodup he, hcreated, rfl, rfl,
    hunmapped.trans ((Nat.zero_add _).trans hlength)⟩

/-- Three branches are prepared and a fourth one is active when the provider is lost, with the
manager away.  They are finished in another order than they were started in. -/
theorem recovery_of_three_branches :
    let b := ResourceManager.backend
    let act := fun available (m : ResourceManager) => m.setAvailable available
    let x : Xid := ⟨1, [1], [], by decide, by decide⟩
    let y : Xid := ⟨1, [2], [], by decide, by decide⟩
    let z : Xid := ⟨1, [3], [], by decide, by decide⟩
    let ms : List (Move Bool) :=
      [.call .openUp, .call (.start x), .call (.endAndPrepare x), .call (.start y),
        .call (.endAndPrepare y), .call (.start z), .call (.endAndPrepare z),
        .call (.start ⟨1, [4], [], by decide, by decide⟩), .environment false]
    let plan : List (Finish × Xid) := [(.rollback, z), (.commit false, x), (.failAndRollback, y)]
    let s := run b.traced (Trace.lift act) ms (.fresh default {})
    let m := s.world.world.setAvailable true
    let lost := run b act ms ⟨.ofFactory default, {}⟩
    let text := Snapshot.text (Snapshot.provider sessionFactory) lost.provider
    (plan.map Prod.snd).Perm m.prepared ∧
      ∃ p, restore sessionFactory text [m] = .ok (p, [m, {}]) ∧
        let opened := (p.attach 0).openUp b.fleet [m, {}]
        let found := opened.provider.recover b.fleet opened.world
        let done := run b.fleet Empty.elim (planMoves plan) ⟨found.provider, found.world⟩
        found.answer = .ok m.prepared ∧ (done.world.get 0).prepared = [] ∧
          (done.world.get 0).outcome? x = some .committed ∧
          (done.world.get 0).outcome? y = some .rolledBack ∧
          done.provider.tally.unmappedFinalizations = 3 := by
  intro b act x y z ms plan s m lost text
  obtain ⟨-, p, hrestore, -, hfound, -, -, hfinish⟩ := recovery_run ms default {}
  have hplan : (plan.map Prod.snd).Perm m.prepared :=
    .trans (by decide) (Xid.sort_perm _).symm
  obtain ⟨-, hnone, houtcome, -, -, -, hunmapped⟩ := hfinish plan hplan
  refine ⟨hplan, p, hrestore, hfound, hnone, ?_, ?_, ?_⟩
  · exact houtcome (.commit false, x) (by simp [plan])
  · exact houtcome (.failAndRollback, y) (by simp [plan])
  · exact hunmapped.trans hplan.length_eq.symm

end Provider

end BranchPool
