/-
A prepared branch can be finished by every provider of its manager.

* `Session.finish_prepared` — an open session finishes a prepared branch, unless
  it is bound to that branch;
* `Provider.finisher_ready` — a provider finds such a session for every prepared
  branch: the one that was bound to it, or an idle one, or a new one;
* `Fleet.completion_run` — so each way to finish the branch succeeds, with its own
  outcome, and touches no other branch.
-/
import BranchPool.Proofs.Fleet
import BranchPool.Proofs.Provider.Active
import BranchPool.Proofs.Provider.Finishing
import BranchPool.Proofs.ResourceManager.Durability
import BranchPool.Proofs.ResourceManager.Standing

namespace BranchPool

open Facade

/-! ### Sessions -/

namespace Session

variable {s : Session} {m : ResourceManager} {x : Xid}

theorem finish_prepared (hopen : s.isOpen = true) (hother : s.bound ≠ some x)
    (havailable : m.available = true) (hphase : m.phase? x = some .prepared) (how : Finish) :
    s.finish how x m = ⟨.ok (), s, m.resolve x how.outcome⟩ :=
  (verdict_finish hopen how x m).of_prepared hother havailable hphase

/-- While its manager is available, a new session can be opened. -/
theorem makeFacade_eq (config : Config) (havailable : m.available = true) :
    Provider.makeFacade ResourceManager.backend config m =
      (.ok { config, isOpen := true }, { m with connectionsOpened := m.connectionsOpened + 1 }) := by
  simp [Provider.makeFacade, ResourceManager.backend, openUp, ask, ResourceManager.connect?,
    havailable]

end Session

/-! ### Providers -/

namespace Provider

variable {p : Provider (Attached Config) (Attached Session)} {ws : Fleet ResourceManager}
  {site : Nat} {x : Xid}

section Ready

variable (hdescribed : p.Described fun q f => f.value.AtStage q)
  (hfacades : ∀ f ∈ p.facades, f.site = site)
  (hsound : ∀ f ∈ p.facades, f.value.Sound (ws.get site))
  (hphase : (ws.get site).phase? x = some .prepared)

include hdescribed hsound hphase in
/-- The active branch is active in the manager as well, and so is not prepared. -/
theorem not_active_of_prepared (hp : p.Sound) : p.active? ≠ some x := by
  intro hactive
  obtain ⟨f, hf⟩ := hp.active hactive
  have hmem := mem_roster_of_bound hf
  have hstage := hdescribed _ hmem
  rw [if_pos hactive] at hstage
  have hheld : f ∈ p.facades := by
    rw [← map_fst_roster]
    exact List.mem_map_of_mem hmem
  have hmanager := (hsound f hheld x hstage.2).2
  rw [hphase] at hmanager
  cases hmanager

include hdescribed hfacades hsound hphase in
theorem finisher_ready (hsite : site < ws.length) (hfactory : p.factory.site = site)
    (havailable : (ws.get site).available = true) :
    ∃ s m, p.finisher ResourceManager.backend.fleet x ws = (.ok ⟨site, s⟩, ws.set site m) ∧
      s.isOpen = true ∧ s.bound ≠ some x ∧ m.available = true ∧
      m.branches = (ws.get site).branches ∧ m.outcomes = (ws.get site).outcomes := by
  have hheld : ∀ e ∈ p.roster, e.1 ∈ p.facades := by
    intro e he
    rw [← map_fst_roster]
    exact List.mem_map_of_mem he
  -- a session that is held is not bound to the branch, as the branch is not active
  have hother : ∀ e ∈ p.roster, e.1.value.bound ≠ some x := by
    intro e he hbound
    have hmanager := (hsound e.1 (hheld e he) x hbound).2
    rw [hphase] at hmanager
    cases hmanager
  have hfound : ∀ e ∈ p.roster, e.1.value.isOpen = true →
      p.finisher ResourceManager.backend.fleet x ws = (.ok e.1, ws) → ∃ s m,
        p.finisher ResourceManager.backend.fleet x ws = (.ok ⟨site, s⟩, ws.set site m) ∧
        s.isOpen = true ∧ s.bound ≠ some x ∧ m.available = true ∧
        m.branches = (ws.get site).branches ∧ m.outcomes = (ws.get site).outcomes := by
    intro e he hopen hfinisher
    refine ⟨e.1.value, ws.get site, ?_, hopen, hother e he, havailable, rfl, rfl⟩
    rw [hfinisher, ws.set_get, ← hfacades e.1 (hheld e he)]
  cases hbound : p.boundFacade? x with
  | some f =>
    have hmem := mem_roster_of_bound hbound
    refine hfound _ hmem ?_ (by simp only [finisher, hbound])
    have hstage := hdescribed _ hmem
    split at hstage <;> exact hstage.1
  | none =>
    cases hidle : p.idle with
    | cons f rest =>
      have hmem : (f, .idle) ∈ p.roster := mem_roster_of_idle (by simp [hidle])
      refine hfound _ hmem (hdescribed _ hmem).1 (by simp only [finisher, hbound, hidle])
    | nil =>
      have hmake := Session.makeFacade_eq p.factory.value havailable
      refine ⟨{ config := p.factory.value, isOpen := true },
        { ws.get site with connectionsOpened := (ws.get site).connectionsOpened + 1 }, ?_, rfl,
        (Option.some_ne_none x).symm, havailable, rfl, rfl⟩
      subst hfactory
      simp only [finisher, hbound, hidle, Backend.makeFacade_fleet hsite, hmake]
      rfl

include hdescribed hfacades hsound hphase in
/-- A provider finishes a prepared branch, and that is all it does to the branches
of its manager. -/
theorem finish_prepared (hp : p.Sound) (hopen : p.isInitialized = true) (hsite : site < ws.length)
    (hfactory : p.factory.site = site) (havailable : (ws.get site).available = true)
    (how : Finish) :
    let r := p.finish ResourceManager.backend.fleet how x ws
    r.answer = .ok () ∧ ∃ m : ResourceManager, r.world = ws.set site (m.resolve x how.outcome) ∧
      m.branches = (ws.get site).branches ∧ m.outcomes = (ws.get site).outcomes := by
  have hmay : p.MayFinish how x :=
    ⟨hopen, fun _ => not_active_of_prepared hdescribed hsound hphase hp⟩
  obtain ⟨s, m, hfinisher, hsession, hother, havailable', hbranches, houtcomes⟩ :=
    finisher_ready hdescribed hfacades hsound hphase hsite hfactory havailable
  -- whichever facade finishes, it is an open session of this site, not bound to `x`
  obtain ⟨hanswer, hworld⟩ := finish_of_finisher hmay hfinisher
  have hphase' : m.phase? x = some .prepared :=
    (ResourceManager.phase?_congr hbranches x).trans hphase
  -- so the call of the fleet is that session's call at its own manager
  have hcall : ResourceManager.backend.fleet.finish how x ⟨site, s⟩ (ws.set site m) =
      ⟨.ok (), ⟨site, s⟩, ws.set site (m.resolve x how.outcome)⟩ := by
    show Backend.atSite (Session.finish how x) ⟨site, s⟩ (ws.set site m) = _
    have hfinish := Session.finish_prepared hsession hother havailable' hphase' how
    simp only [Backend.atSite, Fleet.get_set_self hsite, hfinish, List.set_set]
  rw [hcall] at hanswer hworld
  exact ⟨hanswer, m, hworld, hbranches, houtcomes⟩

end Ready

end Provider

/-! ### Runs -/

namespace Fleet

/-- In every run of any number of providers and sessions over any number of
managers, a provider that is open, and whose factory and sessions are all
attached to one manager, finishes every branch that is prepared there, as long
as the manager is available. -/
theorem completion_run (n : Nat) (ms : List (Move Config Bool)) (i site : Nat) (how : Finish)
    (x : Xid) :
    let b := ResourceManager.backend
    let act := fun available (m : ResourceManager) => m.setAvailable available
    let D := run b act ms { world := List.replicate n {} }
    let m := D.world.get site
    ∀ p, D.providers[i]? = some p → p.isInitialized = true → p.factory.site = site →
      (∀ f ∈ p.facades, f.site = site) → m.available = true → x ∈ m.prepared →
        let r := p.finish b.fleet how x D.world
        let m' := r.world.get site
        r.answer = .ok () ∧ m'.outcomes = m.outcomes ++ [(x, how.outcome)] ∧
          (∀ y, y ∈ m'.prepared ↔ y ∈ m.prepared ∧ y ≠ x) ∧
          (∀ y, y ≠ x → m'.branches.get? y = m.branches.get? y) ∧
          ∀ k, k ≠ site → r.world.get k = D.world.get k := by
  intro b act D m p hp hopen hfactory hfacades havailable hx r m'
  have hphase : m.phase? x = some .prepared := ResourceManager.mem_prepared.mp hx
  obtain ⟨hlength, hharmony⟩ := held_induction b act (I := fun s => Harmony s.1 s.2)
    (fun _ _ hstep hs => hs.handling hstep) (fun available H m hs => hs.setAvailable available)
    (.nil {}) (n := n) ms
  have hnone : ∀ I : Provider (Attached Config) (Attached Session) → Prop,
      ∀ q ∈ ({ world := List.replicate n {} } : Deployment (Attached Config) (Attached Session)
        (Fleet ResourceManager)).providers, I q := fun _ _ hq => absurd hq List.not_mem_nil
  have hmem : p ∈ D.providers := List.mem_of_getElem? hp
  have hdescribed : p.Described fun q f => f.value.AtStage q :=
    lasting_run Session.describes.fleet.lasting ms (hnone _) p hmem
  have hactive : p.Sound := lasting_run (Provider.lasting_sound b.fleet) ms (hnone _) p hmem
  -- a place without a manager has no prepared branches
  have hsite : site < D.world.length := by
    by_contra hlt
    have hdefault : m = default := get_of_length_le (by omega)
    rw [hdefault] at hphase
    cases hphase
  have hsound : ∀ f ∈ p.facades, f.value.Sound m := by
    intro f hf
    have hheld : f ∈ D.held :=
      List.mem_append_left _ (List.mem_flatMap.mpr ⟨p, hmem, hf⟩)
    refine (hharmony site (hlength ▸ hsite)).sound f.value (mem_residents.mpr ?_)
    rwa [← hfacades f hf]
  obtain ⟨hanswer, m₀, hworld, hbranches, houtcomes⟩ := Provider.finish_prepared hdescribed hfacades
    hsound hphase hactive hopen hsite hfactory havailable how
  have hm' : m' = m₀.resolve x how.outcome := by
    show r.world.get site = _
    rw [hworld, get_set_self hsite]
  have hphases : ∀ y, m'.phase? y = if y = x then none else m.phase? y := by
    intro y
    rw [hm', ResourceManager.phase?_resolve, ResourceManager.phase?_congr hbranches]
  refine ⟨hanswer, ?_, fun y => ?_, fun y hy => ?_, fun k hk => ?_⟩
  · rw [hm']
    show m₀.outcomes ++ [(x, how.outcome)] = m.outcomes ++ [(x, how.outcome)]
    rw [houtcomes]
  · rw [ResourceManager.mem_prepared, ResourceManager.mem_prepared, hphases]
    by_cases hy : y = x
    · simp [hy]
    · simp [hy]
  · rw [hm']
    show (m₀.branches.erase x).get? y = m.branches.get? y
    rw [BranchMap.get?_erase, if_neg hy, hbranches]
  · rw [hworld, get_set_of_ne (Ne.symm hk)]

/-- A branch is prepared, its provider is lost, and another one takes its place: it
is made at a manager of its own, attached to the first one, and opened. -/
theorem completion_after_restart :
    let b := ResourceManager.backend
    let act := fun available (m : ResourceManager) => m.setAvailable available
    let x : Xid := ⟨1, [], [], by decide, by decide⟩
    let D := run b act
      [.deploy (.addProvider ⟨0, default⟩), .deploy (.callProvider 0 .openUp),
        .deploy (.callProvider 0 (.start x)), .deploy (.callProvider 0 (.endAndPrepare x)),
        .deploy (.dropProvider 0), .deploy (.addProvider ⟨1, default⟩), .refit 0 ⟨0, default⟩,
        .deploy (.callProvider 0 .openUp)]
      { world := List.replicate 2 {} }
    let m := D.world.get 0
    let p := D.providers.get ⟨0, by decide⟩
    D.providers[0]? = some p ∧ p.isInitialized = true ∧ p.factory.site = 0 ∧
      (∀ f ∈ p.facades, f.site = 0) ∧ m.available = true ∧ x ∈ m.prepared ∧
      (p.finish b.fleet (.commit false) x D.world).answer = .ok () := by
  intro b act x D m p
  have hp : D.providers[0]? = some p := List.getElem?_eq_getElem _
  have hopen : p.isInitialized = true := by decide
  have hfactory : p.factory.site = 0 := by decide
  have hfacades : ∀ f ∈ p.facades, f.site = 0 := by decide
  have havailable : m.available = true := by decide
  have hphase : m.phase? x = some .prepared := by decide
  have hx : x ∈ m.prepared := ResourceManager.mem_prepared.mpr hphase
  -- `x` was prepared before the refit, by a provider that is gone; this one never had it
  have hrun := completion_run 2 _ 0 0 (.commit false) x p hp hopen hfactory hfacades havailable hx
  exact ⟨hp, hopen, hfactory, hfacades, havailable, hx, hrun.1⟩

end Fleet

end BranchPool
